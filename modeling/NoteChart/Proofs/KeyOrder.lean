import NoteChart.Chart.Modifier
import Mathlib

/-!
What lane modifiers do to lanes. Whatever words a shuffle draws, it only exchanges keys; so a
modifier takes the lanes to each other one to one. Turntables and keys of other numbers stay where
they are, and no lane changes sides.
-/
namespace NoteChart

namespace Random

theorem swap_eq {α : Type} (items : List α) (i j : Nat) : swap items i j = items.swap i j := by
  induction items generalizing i j with
  | nil => rfl
  | cons a rest ih =>
    cases i with
    | zero =>
      cases j with
      | zero => rfl
      | succ j =>
        cases found : rest[j]? with
        | some b => simp [swap, List.swap, found]
        | none =>
          have past := List.getElem?_eq_none_iff.mp found
          simp [swap, List.swap, List.set_eq_of_length_le past, past]
    | succ i =>
      cases j with
      | zero =>
        cases found : rest[i]? with
        | some b => simp [swap, List.swap, found]
        | none =>
          have past := List.getElem?_eq_none_iff.mp found
          simp [swap, List.swap, List.set_eq_of_length_le past, past]
      | succ j =>
        rw [List.swap, ← ih]
        simp only [swap, List.getElem?_cons_succ]
        split <;> rfl

theorem settle_perm {α : Type} (words : Nat → UInt32) (last : Nat) (items : List α)
    (place : Nat) : (settle words last items place).1.Perm items := by
  induction last generalizing items place with
  | zero => exact .refl _
  | succ last ih =>
    unfold settle
    refine (ih _ _).trans ?_
    rw [swap_eq]
    exact List.swap_perm _ _ _

theorem shuffle_perm {α : Type} (words : Nat → UInt32) (items : List α) (place : Nat) :
    (shuffle words items place).1.Perm items :=
  settle_perm words _ items place

end Random

/-- On both sides every key from 1 to 7 goes to one of them, and no two to the same. -/
structure KeyOrder.Permutes (order : KeyOrder) : Prop where
  p1 : order.p1.Perm LaneModifier.keys
  p2 : order.p2.Perm LaneModifier.keys

namespace LaneModifier

theorem mem_keys {k : UInt8} : k ∈ keys ↔ 0 < k.toNat ∧ k.toNat ≤ 7 := by
  simp [keys, ← UInt8.toNat_inj]
  omega

theorem shuffled_permutes (words : Nat → UInt32) : (shuffled words).Permutes :=
  ⟨Random.shuffle_perm words keys 0, Random.shuffle_perm words keys _⟩

theorem order_permutes (modifier : LaneModifier) : modifier.order.Permutes := by
  cases modifier with
  | identity => exact ⟨.refl _, .refl _⟩
  | mirror => exact ⟨List.reverse_perm _, List.reverse_perm _⟩
  | random seed => exact shuffled_permutes (Random.stream seed)

end LaneModifier

instance : Finite Lane := by
  let parts (lane : Lane) : Bool × Option UInt8 :=
    (decide (lane.side = .p1), match lane.role with | .scratch => none | .key k => some k)
  refine Finite.of_injective parts ?_
  rintro ⟨side, role⟩ ⟨side', role'⟩ same
  cases side <;> cases side' <;> cases role <;> cases role' <;> simp_all [parts]

namespace KeyOrder

variable {order : KeyOrder}

theorem Permutes.side (permutes : order.Permutes) (side : Side) :
    (order.side side).Perm LaneModifier.keys := by
  cases side
  · exact permutes.p1
  · exact permutes.p2

def key (order : KeyOrder) (side : Side) (k : UInt8) : UInt8 :=
  if k = 0 then k else ((order.side side)[k.toNat - 1]?).getD k

def lane (order : KeyOrder) (lane : Lane) : Lane :=
  match lane.role with
  | .scratch => lane
  | .key k => .key lane.side (order.key lane.side k)

theorem move?_getD (order : KeyOrder) (lane : Lane) :
    (order.move? lane).getD lane = order.lane lane := by
  obtain ⟨side, role⟩ := lane
  cases role with
  | scratch => rfl
  | key k =>
    unfold move? KeyOrder.lane key
    dsimp only
    split_ifs with zero
    · rfl
    · cases (order.side side)[k.toNat - 1]? <;> rfl

theorem lane_side (order : KeyOrder) (lane : Lane) : (order.lane lane).side = lane.side := by
  obtain ⟨side, role⟩ := lane
  cases role <;> rfl

theorem side_outside (order : KeyOrder) {side : Side} {k : UInt8}
    (full : (order.side side).length = 7) (outside : k ∉ LaneModifier.keys) (nonzero : k ≠ 0) :
    (order.side side)[k.toNat - 1]? = none := by
  rw [LaneModifier.mem_keys, not_and_or, Nat.not_lt, Nat.not_le] at outside
  have positive : k.toNat ≠ 0 := by
    intro none
    exact nonzero (UInt8.toNat_inj.mp none)
  exact List.getElem?_eq_none (by omega)

theorem key_outside (order : KeyOrder) {side : Side} {k : UInt8}
    (full : (order.side side).length = 7) (outside : k ∉ LaneModifier.keys) :
    order.key side k = k := by
  unfold key
  split_ifs with zero
  · rfl
  · rw [order.side_outside full outside zero]
    rfl

namespace Permutes

variable (permutes : order.Permutes) {j k : UInt8}

include permutes

theorem length (side : Side) : (order.side side).length = 7 :=
  (permutes.side side).length_eq

theorem key_inside (side : Side) (inside : k ∈ LaneModifier.keys) :
    (order.side side)[k.toNat - 1]? = some (order.key side k) ∧
      order.key side k ∈ LaneModifier.keys := by
  obtain ⟨positive, small⟩ := LaneModifier.mem_keys.mp inside
  have bound : k.toNat - 1 < (order.side side).length := by
    rw [permutes.length]
    omega
  have zero : k ≠ 0 := by
    rintro rfl
    exact absurd positive (by decide)
  have found : order.key side k = (order.side side)[k.toNat - 1] := by
    unfold key
    rw [if_neg zero, List.getElem?_eq_getElem bound]
    rfl
  rw [found]
  exact ⟨List.getElem?_eq_getElem bound, (permutes.side side).mem_iff.mp (List.getElem_mem bound)⟩

theorem key_mem_iff (side : Side) : order.key side k ∈ LaneModifier.keys ↔ k ∈ LaneModifier.keys := by
  constructor
  · intro inside
    by_contra outside
    rw [order.key_outside (permutes.length side) outside] at inside
    exact outside inside
  · exact fun inside => (permutes.key_inside side inside).2

theorem key_injective (side : Side) : Function.Injective (order.key side) := by
  intro j k same
  by_cases inside : j ∈ LaneModifier.keys
  · have inside' : k ∈ LaneModifier.keys := by
      rwa [← permutes.key_mem_iff side, ← same, permutes.key_mem_iff]
    have place := (permutes.key_inside side inside).1
    have place' := (permutes.key_inside side inside').1
    have nodup : (order.side side).Nodup := (permutes.side side).nodup_iff.mpr (by decide)
    rw [same, ← place'] at place
    obtain ⟨positive, small⟩ := LaneModifier.mem_keys.mp inside
    obtain ⟨positive', -⟩ := LaneModifier.mem_keys.mp inside'
    have bound : j.toNat - 1 < (order.side side).length := by
      rw [permutes.length]
      omega
    have equal := (List.getElem?_inj bound nodup).mp place
    exact UInt8.toNat_inj.mp (by omega)
  · have outside' : k ∉ LaneModifier.keys := by
      rwa [← permutes.key_mem_iff side, ← same, permutes.key_mem_iff]
    rwa [order.key_outside (permutes.length side) inside,
      order.key_outside (permutes.length side) outside'] at same

theorem lane_injective : Function.Injective order.lane := by
  rintro ⟨side, role⟩ ⟨side', role'⟩ same
  have sides : side = side' := by
    simpa [lane_side] using congrArg Lane.side same
  subst sides
  cases role with
  | scratch =>
    cases role' with
    | scratch => rfl
    | key k => cases same
  | key j =>
    cases role' with
    | scratch => cases same
    | key k =>
      have keys : order.key side j = order.key side k := by
        simpa [lane, Lane.key] using same
      rw [permutes.key_injective side keys]

theorem lane_bijective : Function.Bijective order.lane :=
  Finite.injective_iff_bijective.mp permutes.lane_injective

end Permutes

/-- The keys 1 to 7 of each side change places among themselves, and no other lane moves. -/
structure MovesKeys (moved : Lane → Lane) : Prop where
  side : ∀ lane, (moved lane).side = lane.side
  scratch : ∀ side, moved (.scratch side) = .scratch side
  outside : ∀ side k, k ∉ LaneModifier.keys → moved (.key side k) = .key side k

theorem Permutes.movesKeys (permutes : order.Permutes) : MovesKeys order.lane where
  side := order.lane_side
  scratch _ := rfl
  outside side _ outside :=
    congrArg (Lane.key side) (order.key_outside (permutes.length side) outside)

end KeyOrder

namespace Note

variable (order : KeyOrder) (note : Note)

@[simp] theorem move_lane : (note.move order).lane = order.lane note.lane := by
  rw [← KeyOrder.move?_getD]
  unfold move
  cases order.move? note.lane <;> rfl

@[simp] theorem move_time : (note.move order).time = note.time := by
  unfold move
  cases order.move? note.lane <;> rfl

end Note

def Chart.rearrange (chart : Chart) (order : KeyOrder) : Chart :=
  { chart with notes := chart.notes.map (Note.move order) }

theorem Chart.modify_eq_rearrange {modifier : LaneModifier} (moves : modifier ≠ .identity)
    (chart : Chart) : chart.modify modifier = chart.rearrange modifier.order :=
  if_neg moves

end NoteChart
