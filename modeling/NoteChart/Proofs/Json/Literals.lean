import NoteChart.Json.Parser
import NoteChart.Json.Printer
import NoteChart.Proofs.Decimal.Digits
import Mathlib.Tactic.SplitIfs

/-!
Literals of JSON. A text is read back from its quoted form, in which every character is written
either as it is or as one escape; and a numeral is read as the digits that it is made of, up to a
character that cannot continue it.
-/
namespace NoteChart.Json

open Decimal

theorem unit?_control (n : Nat) (control : n < 0x20) :
    ∃ a b c d, List.replicate (4 - (Text.hexDigits n).length) '0' ++ Text.hexDigits n =
      [a, b, c, d] ∧ unit? a b c d = some n := by
  interval_cases n <;> exact ⟨_, _, _, _, rfl, rfl⟩

theorem pieces_escaped (c : Char) : ∃ piece,
    (∀ rest, pieces (escaped c ++ rest) = (pieces rest).map fun (ps, rest) => (piece :: ps, rest)) ∧
      ∀ ps cs, assemble ps = some cs → assemble (piece :: ps) = some (c :: cs) := by
  have plain (ps : List Piece) (cs : List Char) (made : assemble ps = some cs) :
      assemble (.char c :: ps) = some (c :: cs) := by
    rw [assemble, made]
    rfl
  unfold escaped
  split
  · exact ⟨.char '"', fun rest => rfl, plain⟩
  · exact ⟨.char '\\', fun rest => rfl, plain⟩
  · exact ⟨.char '\n', fun rest => rfl, plain⟩
  · exact ⟨.char '\r', fun rest => rfl, plain⟩
  · exact ⟨.char '\t', fun rest => rfl, plain⟩
  · exact ⟨.char '\x08', fun rest => rfl, plain⟩
  · exact ⟨.char '\x0c', fun rest => rfl, plain⟩
  · rename_i quote backslash _ _ _ _ _
    split_ifs with control
    · obtain ⟨h₁, h₂, h₃, h₄, padded, unit⟩ := unit?_control c.toNat control
      refine ⟨.unit c.toNat, ?_, ?_⟩
      · intro rest
        dsimp only
        rw [padded]
        simp [pieces, unit]
      · intro ps cs made
        have high : ¬(0xD800 ≤ c.toNat && c.toNat ≤ 0xDBFF) = true := by simp; omega
        have low : ¬(0xDC00 ≤ c.toNat && c.toNat ≤ 0xDFFF) = true := by simp; omega
        unfold assemble
        rw [if_neg high, if_neg low, made, Option.map_some, Char.ofNat_toNat]
    · refine ⟨.char c, ?_, plain⟩
      intro rest
      rw [List.singleton_append, pieces.eq_def]
      split <;> simp_all

theorem pieces_text (cs rest : List Char) : ∃ ps,
    pieces (cs.flatMap escaped ++ '"' :: rest) = some (ps, rest) ∧ assemble ps = some cs := by
  induction cs with
  | nil => exact ⟨[], rfl, rfl⟩
  | cons c cs ih =>
    obtain ⟨ps, read, made⟩ := ih
    obtain ⟨piece, first, whole⟩ := pieces_escaped c
    refine ⟨piece :: ps, ?_, whole ps cs made⟩
    rw [List.flatMap_cons, List.append_assoc, first, read]
    rfl

theorem literal_text (s : String) (rest : List Char) :
    literal (s.toList.flatMap escaped ++ '"' :: rest) = some (some s, rest) := by
  obtain ⟨ps, read, made⟩ := pieces_text s.toList rest
  rw [literal, read, Option.map_some]
  dsimp only
  rw [made, Option.map_some, String.ofList_toList]

def exponentText : Option Int → List Char
  | some e => 'e' :: (if e < 0 then ['-'] else []) ++ digitChars e.natAbs
  | none => []

def numeralText (negative : Bool) (whole places : List Char) (exponent? : Option Int) : List Char :=
  (if negative then ['-'] else []) ++ whole ++ (if places = [] then [] else '.' :: places) ++
    exponentText exponent?

structure IsWhole (whole : List Char) : Prop where
  digits : ∀ c ∈ whole, isDigit c = true
  start : ∃ first rest, whole = first :: rest ∧ (first = '0' → rest = [])

theorem digitChars_isWhole (n : Nat) : IsWhole (digitChars n) where
  digits := fun _ => isDigit_of_mem_digitChars
  start := by
    rcases Nat.eq_zero_or_pos n with rfl | positive
    · exact ⟨'0', [], rfl, fun _ => rfl⟩
    · obtain ⟨first, rest, digits, start⟩ := digitChars_head positive
      exact ⟨first, rest, digits, fun zero => absurd zero start⟩

def EndsNumber (rest : List Char) : Prop :=
  ∀ c ∈ rest.head?, isDigit c = false ∧ c ≠ '.' ∧ c ≠ 'e' ∧ c ≠ 'E'

theorem EndsNumber.endsDigits {rest : List Char} (ends : EndsNumber rest) : EndsDigits rest :=
  fun c first => (ends c first).1

theorem takeWhole_append {whole rest : List Char} (isWhole : IsWhole whole)
    (ends : EndsDigits rest) : takeWhole (whole ++ rest) = some (whole, rest) := by
  obtain ⟨digits, first, others, rfl, zero⟩ := isWhole
  by_cases start : first = '0'
  · rw [zero start, start]
    rfl
  · have taken := takeDigits_append digits ends
    rw [List.cons_append] at taken ⊢
    unfold takeWhole
    split
    · rename_i same
      exact absurd (List.cons.inj same).1 start
    · rw [taken]
      rfl

theorem takePlaces_append {places rest : List Char} (digits : ∀ c ∈ places, isDigit c = true)
    (ends : EndsDigits rest) (point : '.' ∉ rest.head?) :
    takePlaces ((if places = [] then [] else '.' :: places) ++ rest) = some (places, rest) := by
  split_ifs with none
  · rw [none, List.nil_append]
    unfold takePlaces
    split
    · exact absurd rfl point
    · rfl
  · rw [List.cons_append, takePlaces, takeDigits_append digits ends]
    exact if_neg none

theorem IsWhole.unsigned {whole : List Char} (isWhole : IsWhole whole) :
    ∃ first rest, whole = first :: rest ∧ first ≠ '-' ∧ first ≠ '+' := by
  obtain ⟨digits, first, rest, rfl, -⟩ := isWhole
  have digit := digits first List.mem_cons_self
  refine ⟨first, rest, rfl, ?_, ?_⟩
  · rintro rfl
    exact absurd digit (by decide)
  · rintro rfl
    exact absurd digit (by decide)

theorem takeMinus_append {whole : List Char} (isWhole : IsWhole whole) (negative : Bool)
    (rest : List Char) :
    takeMinus ((if negative then ['-'] else []) ++ (whole ++ rest)) =
      (negative, whole ++ rest) := by
  obtain ⟨first, others, rfl, minus, -⟩ := isWhole.unsigned
  cases negative with
  | true => rfl
  | false =>
    simp only [Bool.false_eq_true, if_false, List.nil_append, List.cons_append]
    unfold takeMinus
    split
    · rename_i same
      exact absurd (List.cons.inj same).1 minus
    · rfl

theorem takeSign_append {whole : List Char} (isWhole : IsWhole whole) (negative : Bool)
    (rest : List Char) :
    takeSign ((if negative then ['-'] else []) ++ (whole ++ rest)) = (negative, whole ++ rest) := by
  obtain ⟨first, others, rfl, minus, plus⟩ := isWhole.unsigned
  cases negative with
  | true => rfl
  | false =>
    simp only [Bool.false_eq_true, if_false, List.nil_append, List.cons_append]
    unfold takeSign
    split
    · rename_i same
      exact absurd (List.cons.inj same).1 minus
    · rename_i same
      exact absurd (List.cons.inj same).1 plus
    · rfl

theorem takeExponent_append {rest : List Char} (exponent? : Option Int) (ends : EndsNumber rest) :
    takeExponent (exponentText exponent? ++ rest) = some (exponent?, rest) := by
  cases exponent? with
  | none =>
    cases rest with
    | nil => rfl
    | cons c rest =>
      obtain ⟨-, -, lower, upper⟩ := ends c rfl
      exact if_neg (by simp [lower, upper])
  | some e =>
    have taken : takeDigits (digitChars e.natAbs ++ rest) = (digitChars e.natAbs, rest) :=
      takeDigits_append (fun _ => isDigit_of_mem_digitChars) ends.endsDigits
    have signed := takeSign_append (digitChars_isWhole e.natAbs) (decide (e < 0)) rest
    have text : exponentText (some e) ++ rest =
        'e' :: ((if decide (e < 0) then ['-'] else []) ++ (digitChars e.natAbs ++ rest)) := by
      simp [exponentText]
    rw [text, takeExponent, if_pos (by decide), signed]
    dsimp only
    rw [taken]
    dsimp only
    rw [if_neg (digitChars_ne_nil _), value_digitChars]
    by_cases negative : e < 0
    · rw [if_pos (by simpa using negative)]
      simp only [Option.some.injEq, Prod.mk.injEq, and_true]
      omega
    · rw [if_neg (by simpa using negative)]
      simp only [Option.some.injEq, Prod.mk.injEq, and_true]
      omega

/-- A numeral is read as its parts, if nothing continues it. -/
theorem number_numeralText (negative : Bool) {whole places rest : List Char}
    (isWhole : IsWhole whole) (digits : ∀ c ∈ places, isDigit c = true) (exponent? : Option Int)
    (ends : EndsNumber rest) :
    number (numeralText negative whole places exponent? ++ rest) =
      some (ofNumeral ⟨negative, value (whole ++ places), exponent?.getD 0 - places.length⟩
        (places.isEmpty && exponent?.isNone), rest) := by
  have last : EndsDigits (exponentText exponent? ++ rest) ∧
      '.' ∉ (exponentText exponent? ++ rest).head? := by
    cases exponent? with
    | none => exact ⟨ends.endsDigits, fun point => (ends '.' point).2.1 rfl⟩
    | some e => simp [exponentText, EndsDigits, isDigit]
  have middle : EndsDigits ((if places = [] then [] else '.' :: places) ++
      (exponentText exponent? ++ rest)) := by
    split_ifs with none
    · exact last.1
    · simp [EndsDigits, isDigit]
  have text : numeralText negative whole places exponent? ++ rest =
      (if negative then ['-'] else []) ++ (whole ++ ((if places = [] then [] else '.' :: places) ++
        (exponentText exponent? ++ rest))) := by
    simp [numeralText]
  rw [text, number, takeMinus_append isWhole]
  dsimp only
  rw [takeWhole_append isWhole middle, Option.bind_eq_bind, Option.bind_some]
  dsimp only
  rw [takePlaces_append digits last.1 last.2, Option.bind_eq_bind, Option.bind_some]
  dsimp only
  rw [takeExponent_append exponent? ends]
  rfl

theorem number_int {n : Int} (least : Int64.minValue.toInt ≤ n) (most : n < UInt64.size)
    {rest : List Char} (ends : EndsNumber rest) :
    number (int n ++ rest) = some (.integer n, rest) := by
  have text : int n = numeralText (decide (n < 0)) (digitChars n.natAbs) [] none := by
    by_cases negative : n < 0 <;> simp [int, numeralText, exponentText, negative]
  rw [text, number_numeralText _ (digitChars_isWhole _) (by simp) none ends, List.append_nil,
    value_digitChars]
  unfold ofNumeral
  dsimp only
  by_cases negative : n < 0
  · have size : -(n.natAbs : Int) = n := by omega
    have strict : 0 < (n.natAbs : Int) := by omega
    rw [size, if_neg (by simp [negative]), if_pos]
    simp only [List.isEmpty_nil, Option.isNone_none, negative, strict, least, decide_true,
      Bool.and_self]
  · have size : (n.natAbs : Int) = n := by omega
    rw [size, if_pos]
    simp only [List.isEmpty_nil, Option.isNone_none, negative, most, decide_true, decide_false,
      Bool.not_false, Bool.and_self]

end NoteChart.Json
