import NoteChart.Proofs.Json.Numbers

/-!
JSON text is read back as the value that it was made from, whether it is written on one line or over
several. The values in question are those that programs write: whole numbers of 64 bits, doubles
that are finite, and texts, in arrays and records.
-/
namespace NoteChart.Json

open Decimal

theorem gap_isGap (indent? : Option Nat) : ∀ c ∈ gap indent?, isGap c = true := by
  intro c inside
  cases indent? with
  | none => cases inside
  | some depth =>
    rcases List.mem_cons.mp inside with rfl | blank
    · rfl
    · rw [List.eq_of_mem_replicate blank]
      rfl

theorem skipGaps_append {before : List Char} (gaps : ∀ c ∈ before, isGap c = true)
    (cs : List Char) : skipGaps (before ++ cs) = skipGaps cs :=
  List.dropWhile_append_of_pos gaps

theorem skipGaps_cons {c : Char} (other : isGap c = false) (cs : List Char) :
    skipGaps (c :: cs) = c :: cs := by
  simp [skipGaps, other]

theorem valueAt_gaps {before : List Char} (gaps : ∀ c ∈ before, isGap c = true) (bound : Nat)
    (cs : List Char) : valueAt bound (before ++ cs) = valueAt bound cs := by
  cases bound with
  | zero => rfl
  | succ bound => rw [valueAt, valueAt, skipGaps_append gaps]

def IsNumeric (c : Char) : Prop := c = '-' ∨ isDigit c = true

theorem isNumeric_cases {c : Char} (numeric : IsNumeric c) :
    c ∈ ['-', '0', '1', '2', '3', '4', '5', '6', '7', '8', '9'] := by
  rcases numeric with rfl | digit
  · decide
  · simp only [isDigit, Bool.and_eq_true, decide_eq_true_eq] at digit
    obtain ⟨low, high⟩ := digit
    have low : 48 ≤ c.toNat := low
    have high : c.toNat ≤ 57 := high
    rw [← Char.ofNat_toNat c]
    generalize c.toNat = n at low high
    interval_cases n <;> decide

theorem valueAt_number {c : Char} (numeric : IsNumeric c) (bound : Nat) (cs : List Char) :
    valueAt (bound + 1) (c :: cs) = number (c :: cs) := by
  have cases := isNumeric_cases numeric
  simp only [List.mem_cons, List.not_mem_nil, or_false] at cases
  rcases cases with rfl | rfl | rfl | rfl | rfl | rfl | rfl | rfl | rfl | rfl | rfl <;> rfl

/-- The values that are written. -/
inductive IsPlain : Json → Prop
  | null : IsPlain .null
  | bool (b : Bool) : IsPlain (.bool b)
  | integer {n : Int} (least : Int64.minValue.toInt ≤ n) (most : n < UInt64.size) :
    IsPlain (.integer n)
  | real {x : Float} (finite : x.isFinite = true) : IsPlain (.real x)
  | text (s : String) : IsPlain (.text s)
  | array {items : List Json} (each : ∀ item ∈ items, IsPlain item) : IsPlain (.array items)
  | record {members : List (String × Json)} (each : ∀ member ∈ members, IsPlain member.2) :
    IsPlain (.record members)

theorem int_start (n : Int) : ∃ c cs, int n = c :: cs ∧ IsNumeric c := by
  unfold int
  split_ifs
  · exact ⟨'-', _, rfl, Or.inl rfl⟩
  · obtain ⟨digits, first, rest, parts, -⟩ := digitChars_isWhole n.natAbs
    exact ⟨first, rest, parts, Or.inr (digits first (parts ▸ List.mem_cons_self))⟩

theorem render_start {j : Json} (plain : j.IsPlain) (indent? : Option Nat) :
    ∃ c cs, render indent? j = c :: cs ∧ isGap c = false ∧ c ≠ ']' := by
  have numeric {c : Char} (start : IsNumeric c) : isGap c = false ∧ c ≠ ']' := by
    have cases := isNumeric_cases start
    simp only [List.mem_cons, List.not_mem_nil, or_false] at cases
    rcases cases with rfl | rfl | rfl | rfl | rfl | rfl | rfl | rfl | rfl | rfl | rfl <;> decide
  cases plain with
  | null => exact ⟨'n', _, rfl, rfl, by decide⟩
  | bool b =>
    cases b with
    | true => exact ⟨'t', _, rfl, rfl, by decide⟩
    | false => exact ⟨'f', _, rfl, rfl, by decide⟩
  | @integer n _ _ =>
    obtain ⟨c, cs, text, start⟩ := int_start n
    exact ⟨c, cs, text, numeric start⟩
  | real finite =>
    obtain ⟨c, cs, text, start⟩ := float_start finite
    exact ⟨c, cs, text, numeric start⟩
  | text s => exact ⟨'"', _, rfl, rfl, by decide⟩
  | @array items _ =>
    cases items with
    | nil => exact ⟨'[', _, rfl, rfl, by decide⟩
    | cons item items => exact ⟨'[', _, rfl, rfl, by decide⟩
  | @record members _ =>
    cases members with
    | nil => exact ⟨'\x7b', _, rfl, rfl, by decide⟩
    | cons member members => exact ⟨'\x7b', _, rfl, rfl, by decide⟩

/-- Whatever follows, the value is read from its text, within any bound beyond the text. -/
def ReadsBack (j : Json) : Prop :=
  ∀ (indent? : Option Nat) (bound : Nat) (rest : List Char), (render indent? j).length < bound →
    EndsNumber rest → valueAt bound (render indent? j ++ rest) = some (j, rest)

theorem endsNumber_of_first {c : Char} (rest : List Char) (other : c ∈ [',', ']', '\x7d', '\n']) :
    EndsNumber (c :: rest) := by
  simp only [List.mem_cons, List.not_mem_nil, or_false] at other
  rcases other with rfl | rfl | rfl | rfl <;> simp [EndsNumber, isDigit]

theorem closing_ends (indent? : Option Nat) {c : Char} (closing : c ∈ [']', '\x7d'])
    (rest : List Char) : EndsNumber (gap indent? ++ c :: rest) := by
  cases indent? with
  | none =>
    refine endsNumber_of_first rest ?_
    simp only [List.mem_cons, List.not_mem_nil, or_false] at closing ⊢
    tauto
  | some depth => exact endsNumber_of_first _ (by decide)

theorem itemsAt_item {indent? : Option Nat} {item : Json} (reads : item.ReadsBack) {bound : Nat}
    (enough : (render indent? item).length < bound) {after : List Char} (ends : EndsNumber after)
    {before : List Char} (gaps : ∀ c ∈ before, isGap c = true) (rest : List Char) :
    (skipGaps after = ']' :: rest →
      itemsAt (bound + 1) (before ++ (render indent? item ++ after)) = some ([item], rest)) ∧
    (skipGaps after = ',' :: rest →
      itemsAt (bound + 1) (before ++ (render indent? item ++ after)) =
        (itemsAt bound rest).map fun (items, rest) => (item :: items, rest)) := by
  rw [itemsAt, valueAt_gaps gaps, reads indent? bound after enough ends, Option.bind_eq_bind,
    Option.bind_some]
  dsimp only
  constructor
  · intro closes
    rw [closes]
    rfl
  · intro more
    rw [more]
    exact (Option.map_eq_bind ..).symm

theorem itemsAt_render {indent? close? : Option Nat} {item : Json} {items : List Json}
    (reads : item.ReadsBack) (others : ∀ other ∈ items, other.ReadsBack) (bound : Nat)
    (enough : (render indent? item ++ renderItems indent? items).length < bound)
    (rest : List Char) {before : List Char} (gaps : ∀ c ∈ before, isGap c = true) :
    itemsAt (bound + 1) (before ++ (render indent? item ++ (renderItems indent? items ++
      (gap close? ++ ']' :: rest)))) = some (item :: items, rest) := by
  induction items generalizing item bound before with
  | nil =>
    rw [renderItems, List.append_nil] at enough
    rw [renderItems, List.nil_append]
    refine (itemsAt_item reads enough (closing_ends close? (by decide) rest) gaps rest).1 ?_
    rw [skipGaps_append (gap_isGap close?), skipGaps_cons (by decide)]
  | cons next items ih =>
    obtain ⟨first, others⟩ := List.forall_mem_cons.mp others
    simp only [renderItems, List.cons_append, List.append_assoc, List.length_append,
      List.length_cons] at enough ⊢
    obtain ⟨bound, rfl⟩ : ∃ b, bound = b + 1 := ⟨bound - 1, by omega⟩
    have later := ih first others bound (by rw [List.length_append]; omega) (gap_isGap indent?)
    refine ((itemsAt_item reads (by omega) (endsNumber_of_first _ (by decide)) gaps _).2
      (skipGaps_cons (by decide) _)).trans ?_
    rw [later]
    rfl

def named (member : String × Json) : Literal × Json := (some member.1, member.2)

theorem membersAt_member {indent? : Option Nat} {member : String × Json}
    (reads : member.2.ReadsBack) {bound : Nat}
    (enough : (renderMember indent? (named member)).length < bound) {after : List Char}
    (ends : EndsNumber after) {before : List Char} (gaps : ∀ c ∈ before, isGap c = true)
    (rest : List Char) :
    (skipGaps after = '\x7d' :: rest →
      membersAt (bound + 1) (before ++ (renderMember indent? (named member) ++ after)) =
        some ([named member], rest)) ∧
    (skipGaps after = ',' :: rest →
      membersAt (bound + 1) (before ++ (renderMember indent? (named member) ++ after)) =
        (membersAt bound rest).map fun (members, rest) => (named member :: members, rest)) := by
  obtain ⟨name, value⟩ := member
  obtain ⟨blanks, colon, isBlank⟩ : ∃ blanks, colon indent? = ':' :: blanks ∧
      ∀ c ∈ blanks, isGap c = true := by
    cases indent? with
    | none => exact ⟨[], rfl, by simp⟩
    | some depth => exact ⟨[' '], rfl, by simp [isGap]⟩
  simp only [named, renderMember, Option.getD_some, quote, colon, List.cons_append,
    List.append_assoc, List.length_append, List.length_cons, List.nil_append] at enough ⊢
  have read := reads indent? bound after (by dsimp only; omega) ends
  constructor
  all_goals
    intro follows
    rw [membersAt, skipGaps_append gaps, skipGaps_cons (by decide)]
    change (literal _).bind _ = _
    rw [literal_text, Option.bind_some]
    change (valueAt bound (blanks ++ (render indent? value ++ after))).bind _ = _
    rw [valueAt_gaps isBlank, read, Option.bind_some]
    dsimp only
    rw [follows]
  · rfl
  · exact (Option.map_eq_bind ..).symm

theorem membersAt_render {indent? close? : Option Nat} {member : String × Json}
    {members : List (String × Json)} (reads : member.2.ReadsBack)
    (others : ∀ other ∈ members, other.2.ReadsBack) (bound : Nat)
    (enough : (renderMember indent? (named member) ++
      renderMembers indent? (members.map named)).length < bound)
    (rest : List Char) {before : List Char} (gaps : ∀ c ∈ before, isGap c = true) :
    membersAt (bound + 1) (before ++ (renderMember indent? (named member) ++
      (renderMembers indent? (members.map named) ++ (gap close? ++ '\x7d' :: rest)))) =
        some ((member :: members).map named, rest) := by
  induction members generalizing member bound before with
  | nil =>
    rw [List.map_nil, renderMembers, List.append_nil] at enough
    rw [List.map_nil, renderMembers, List.nil_append]
    refine (membersAt_member reads enough (closing_ends close? (by decide) rest) gaps rest).1 ?_
    rw [skipGaps_append (gap_isGap close?), skipGaps_cons (by decide)]
  | cons next members ih =>
    obtain ⟨first, others⟩ := List.forall_mem_cons.mp others
    simp only [List.map_cons, renderMembers, List.cons_append, List.append_assoc,
      List.length_append, List.length_cons] at enough ⊢
    obtain ⟨bound, rfl⟩ : ∃ b, bound = b + 1 := ⟨bound - 1, by omega⟩
    have later := ih first others bound (by rw [List.length_append]; omega) (gap_isGap indent?)
    refine ((membersAt_member reads (by omega) (endsNumber_of_first _ (by decide)) gaps _).2
      (skipGaps_cons (by decide) _)).trans ?_
    rw [later]
    rfl

theorem valueAt_array {c : Char} (first : isGap c = false) (item : c ≠ ']') (bound : Nat)
    {before : List Char} (gaps : ∀ c ∈ before, isGap c = true) (cs : List Char) :
    valueAt (bound + 1) ('[' :: (before ++ c :: cs)) =
      (itemsAt bound (c :: cs)).map fun (items, rest) => (.array items, rest) := by
  have blank : skipGaps (before ++ c :: cs) = c :: cs := by
    rw [skipGaps_append gaps, skipGaps_cons first]
  rw [valueAt, skipGaps_cons (by decide)]
  split <;> simp_all

theorem valueAt_object (bound : Nat) {before : List Char} (gaps : ∀ c ∈ before, isGap c = true)
    (cs : List Char) :
    valueAt (bound + 1) ('\x7b' :: (before ++ '"' :: cs)) =
      (membersAt bound ('"' :: cs)).map fun (members, rest) => (.object members, rest) := by
  have blank : skipGaps (before ++ '"' :: cs) = '"' :: cs := by
    rw [skipGaps_append gaps, skipGaps_cons (by decide)]
  rw [valueAt, skipGaps_cons (by decide)]
  split <;> simp_all

theorem readsBack_of {j : Json} (reads : ∀ (indent? : Option Nat) (bound : Nat) (rest : List Char),
    (render indent? j).length ≤ bound → EndsNumber rest →
      valueAt (bound + 1) (render indent? j ++ rest) = some (j, rest)) : j.ReadsBack := by
  intro indent? bound rest enough ends
  obtain ⟨bound, rfl⟩ : ∃ b, bound = b + 1 := ⟨bound - 1, by omega⟩
  exact reads indent? bound rest (Nat.le_of_lt_succ enough) ends

theorem IsPlain.readsBack {j : Json} (plain : j.IsPlain) : j.ReadsBack := by
  induction plain with
  | null => exact readsBack_of fun _ _ _ _ _ => rfl
  | bool b =>
    cases b with
    | true => exact readsBack_of fun _ _ _ _ _ => rfl
    | false => exact readsBack_of fun _ _ _ _ _ => rfl
  | @integer n least most =>
    refine readsBack_of fun indent? bound rest _ ends => ?_
    obtain ⟨c, cs, text, start⟩ := int_start n
    have read := number_int least most ends
    rw [text, List.cons_append] at read
    rw [render, text, List.cons_append, valueAt_number start, read]
  | @real x finite =>
    refine readsBack_of fun indent? bound rest _ ends => ?_
    obtain ⟨c, cs, text, start⟩ := float_start finite
    have read := number_float finite ends
    rw [text, List.cons_append] at read
    rw [render, text, List.cons_append, valueAt_number start, read]
  | text s =>
    refine readsBack_of fun indent? bound rest _ ends => ?_
    have written : render indent? (.text s) ++ rest =
        '"' :: (s.toList.flatMap escaped ++ '"' :: rest) := by
      simp [Json.text, render, quote]
    rw [written, valueAt, skipGaps_cons (by decide)]
    change (literal _).map _ = _
    rw [literal_text]
    rfl
  | @array items each ih =>
    cases items with
    | nil => exact readsBack_of fun _ _ _ _ _ => rfl
    | cons item items =>
      refine readsBack_of fun indent? bound rest enough ends => ?_
      obtain ⟨first, others⟩ := List.forall_mem_cons.mp ih
      obtain ⟨c, cs, start, blank, begins⟩ :=
        render_start (each item List.mem_cons_self) (deeper indent?)
      simp only [render, List.cons_append, List.append_assoc, List.length_append,
        List.length_cons, List.nil_append, List.length_nil] at enough ⊢
      obtain ⟨bound, rfl⟩ : ∃ b, bound = b + 1 := ⟨bound - 1, by omega⟩
      have read : itemsAt (bound + 1) ([] ++ (render (deeper indent?) item ++
          (renderItems (deeper indent?) items ++ (gap indent? ++ ']' :: rest)))) =
            some (item :: items, rest) :=
        itemsAt_render first others bound (by rw [List.length_append]; omega) rest (by simp)
      rw [List.nil_append, start, List.cons_append] at read
      rw [start, List.cons_append, valueAt_array blank begins _ (gap_isGap _), read]
      rfl
  | @record members each ih =>
    cases members with
    | nil => exact readsBack_of fun _ _ _ _ _ => rfl
    | cons member members =>
      refine readsBack_of fun indent? bound rest enough ends => ?_
      obtain ⟨first, others⟩ := List.forall_mem_cons.mp ih
      change (render indent? (.object (named member :: members.map named))).length ≤ bound at enough
      change valueAt (bound + 1) (render indent? (.object (named member :: members.map named)) ++
        rest) = some (.object ((member :: members).map named), rest)
      simp only [render, List.cons_append, List.append_assoc, List.length_append,
        List.length_cons, List.nil_append, List.length_nil] at enough ⊢
      obtain ⟨bound, rfl⟩ : ∃ b, bound = b + 1 := ⟨bound - 1, by omega⟩
      have read : membersAt (bound + 1) ([] ++ (renderMember (deeper indent?) (named member) ++
          (renderMembers (deeper indent?) (members.map named) ++ (gap indent? ++ '\x7d' :: rest)))) =
            some ((member :: members).map named, rest) :=
        membersAt_render first others bound (by rw [List.length_append]; omega) rest (by simp)
      have start : ∃ cs, renderMember (deeper indent?) (named member) = '"' :: cs := ⟨_, rfl⟩
      obtain ⟨cs, start⟩ := start
      rw [List.nil_append, start, List.cons_append] at read
      rw [start, List.cons_append, valueAt_object _ (gap_isGap _), read]
      rfl

theorem parseChars?_render {j : Json} (plain : j.IsPlain) (indent? : Option Nat) :
    parseChars? (render indent? j) = some j := by
  have read := plain.readsBack indent? _ [] (Nat.lt_succ_self _) (by simp [EndsNumber])
  rw [List.append_nil] at read
  rw [parseChars?, read]
  rfl

end NoteChart.Json
