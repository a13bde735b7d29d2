import NoteChart.Json.Shape
import Mathlib.Data.List.Nodup
import Mathlib.Tactic.SplitIfs

/-!
Shapes read back what they wrote. A record is read from its own form field by field, whatever the
order in which the fields are asked for; words, texts, doubles that are finite, options and lists
are read from theirs.
-/
namespace NoteChart.Json

@[simp] theorem below?_nat {bound n : Nat} (inside : n < bound) :
    below? bound (.nat n) = some n := by
  simp [below?, nat, inside]

@[simp] theorem uint8?_nat (n : UInt8) : uint8? (.nat n.toNat) = some n := by
  rw [uint8?, below?_nat n.toNat_lt_size, Option.map_some, UInt8.ofNat_toNat]

@[simp] theorem uint16?_nat (n : UInt16) : uint16? (.nat n.toNat) = some n := by
  rw [uint16?, below?_nat n.toNat_lt_size, Option.map_some, UInt16.ofNat_toNat]

@[simp] theorem uint32?_nat (n : UInt32) : uint32? (.nat n.toNat) = some n := by
  rw [uint32?, below?_nat n.toNat_lt_size, Option.map_some, UInt32.ofNat_toNat]

@[simp] theorem uint64?_nat (n : UInt64) : uint64? (.nat n.toNat) = some n := by
  rw [uint64?, below?_nat n.toNat_lt_size, Option.map_some, UInt64.ofNat_toNat]

@[simp] theorem bool?_bool (b : Bool) : bool? (.bool b) = some b := rfl

@[simp] theorem text?_text (s : String) : text? (.text s) = some s := rfl

theorem float?_ofFloat {x : Float} (finite : x.isFinite = true) : float? (ofFloat x) = some x := by
  rw [ofFloat, if_pos finite, float?, if_pos finite]

theorem list?_ofList {α : Type} {form : α → Json} {read : Json → Option α} {items : List α}
    (reads : ∀ a ∈ items, read (form a) = some a) :
    list? read (ofList form items) = some items := by
  change all? read (items.map form) = some items
  induction items with
  | nil => rfl
  | cons a rest ih =>
    obtain ⟨first, later⟩ := List.forall_mem_cons.mp reads
    rw [List.map_cons, all?, first, ih later]
    rfl

theorem optional?_ofOption {α : Type} {form : α → Json} {read : Json → Option α} {a? : Option α}
    (reads : ∀ a ∈ a?, read (form a) = some a) (present : ∀ a ∈ a?, form a ≠ .null) :
    optional? read (ofOption form a?) = some a? := by
  cases a? with
  | none => rfl
  | some a =>
    have given := present a rfl
    rw [ofOption, optional?, reads a rfl]
    · rfl
    · exact given

theorem keepKnown?_record {names : List String} {members : List (String × Json)}
    (known : ∀ member ∈ members, member.1 ∈ names) (distinct : (members.map Prod.fst).Nodup) :
    keepKnown? names (members.map fun (name, value) => (some name, value)) = some members := by
  induction members with
  | nil => rfl
  | cons member rest ih =>
    obtain ⟨name, value⟩ := member
    obtain ⟨first, known⟩ := List.forall_mem_cons.mp known
    obtain ⟨new, distinct⟩ := List.nodup_cons.mp distinct
    have unseen : rest.lookup name = none := by
      refine List.lookup_eq_none_iff.mpr ?_
      intro other inside
      have different : name ≠ other.1 := fun same =>
        new (List.mem_map.mpr ⟨other, inside, same.symm⟩)
      simpa using different
    rw [List.map_cons, keepKnown?, ih known distinct]
    simp [first, unseen]

theorem fields?_bind {β : Type} {names : List String} {members : List (String × Json)}
    (same : members.map Prod.fst = names) (distinct : names.Nodup) (next : Fields → Option β) :
    ((record members).fields? names).bind next = next members := by
  have known : ∀ member ∈ members, member.1 ∈ names :=
    fun member inside => same ▸ List.mem_map_of_mem inside
  have kept : (record members).fields? names = some members :=
    keepKnown?_record known (same ▸ distinct)
  rw [kept, Option.bind_some]

namespace Fields

variable {α β : Type} {fields : Fields} {name : String} {j : Json} {read : Json → Option α} {a : α}

theorem required_bind (found : fields.lookup name = some j) (reads : read j = some a)
    (next : α → Option β) : (fields.required name read).bind next = next a := by
  rw [required, found]
  dsimp only
  rw [reads, Option.bind_some]

theorem withDefault_bind {default : α} (found : fields.lookup name = some j)
    (reads : read j = some a) (next : α → Option β) :
    (fields.withDefault name default read).bind next = next a := by
  rw [withDefault, found]
  dsimp only
  rw [reads, Option.bind_some]

end Fields
end NoteChart.Json
