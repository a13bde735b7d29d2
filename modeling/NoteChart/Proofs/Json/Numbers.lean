import NoteChart.Proofs.Decimal.Shortest
import NoteChart.Proofs.Json.Literals

/-!
Doubles in JSON. However the digits of a double are laid out, with a point inside them, before them
or after them, or with an exponent, the text is a numeral of the number of those digits and not a
whole number. So it is read back as the double.
-/
namespace NoteChart.Json

open Decimal

def IsRealText (text : List Char) (size : ℝ) : Prop :=
  ∃ whole places exponent?, text = numeralText false whole places exponent? ∧ IsWhole whole ∧
    (∀ c ∈ places, isDigit c = true) ∧ (places.isEmpty && exponent?.isNone) = false ∧
      tens (value (whole ++ places)) (exponent?.getD 0 - places.length) = size

variable {d : Digits}

theorem isDigit_of_mem_zeros {n : Nat} {c : Char} (inside : c ∈ List.replicate n '0') :
    isDigit c = true := by
  rw [List.eq_of_mem_replicate inside]
  rfl

theorem isWhole_append {n : Nat} (positive : 0 < n) {front back after : List Char}
    (parts : digitChars n = front ++ back) (some : front ≠ [])
    (digits : ∀ c ∈ after, isDigit c = true) : IsWhole (front ++ after) := by
  obtain ⟨first, rest, all, start⟩ := digitChars_head positive
  obtain ⟨head, tail, rfl⟩ := List.exists_cons_of_ne_nil some
  have same : head = first := by
    rw [all] at parts
    exact (List.cons.inj parts).1.symm
  refine ⟨?_, head, tail ++ after, rfl, fun zero => absurd (same ▸ zero) start⟩
  intro c inside
  rcases List.mem_append.mp inside with near | far
  · exact isDigit_of_mem_digitChars (n := n) (parts ▸ List.mem_append_left _ near)
  · exact digits c far

theorem positional_whole (positive : 0 < d.digits) (whole : 0 ≤ d.exponent) :
    IsRealText (positional d ++ ['.', '0']) d.size := by
  obtain ⟨n, exponent⟩ := d
  obtain ⟨e, rfl⟩ := Int.eq_ofNat_of_zero_le whole
  have zero : value ['0'] = 0 := rfl
  refine ⟨digitChars n ++ List.replicate e '0', ['0'], none, ?_, ?_, by simp [isDigit], rfl, ?_⟩
  · simp [numeralText, exponentText, positional]
  · exact isWhole_append positive (List.append_nil _).symm (digitChars_ne_nil n)
      (fun _ => isDigit_of_mem_zeros)
  · rw [value_append, value_append, value_zeros, value_digitChars, zero, List.length_replicate]
    simp only [Digits.size, tens_eq, Option.getD_none, List.length_singleton, Nat.cast_one,
      zero_sub, zpow_neg_one, zpow_natCast]
    push_cast
    field_simp
    ring

theorem positional_among {n e : Nat} (positive : 0 < n) (among : e + 1 < (digitChars n).length) :
    IsRealText (positional ⟨n, .negSucc e⟩) (Digits.size ⟨n, .negSucc e⟩) := by
  have text : positional ⟨n, .negSucc e⟩ =
      (digitChars n).take ((digitChars n).length - (e + 1)) ++
        '.' :: (digitChars n).drop ((digitChars n).length - (e + 1)) := by
    simp only [positional, among, if_true]
  have places : ((digitChars n).drop ((digitChars n).length - (e + 1))).length = e + 1 := by
    rw [List.length_drop]
    omega
  have start : (digitChars n).take ((digitChars n).length - (e + 1)) ≠ [] :=
    List.ne_nil_of_length_pos (by rw [List.length_take]; omega)
  have parts := List.take_append_drop ((digitChars n).length - (e + 1)) (digitChars n)
  generalize (digitChars n).drop ((digitChars n).length - (e + 1)) = back at text places parts
  generalize (digitChars n).take ((digitChars n).length - (e + 1)) = front at text start parts
  have last : back ≠ [] := List.ne_nil_of_length_pos (by omega)
  refine ⟨front, back, none, ?_, ?_, ?_, by simpa using last, ?_⟩
  · simp [numeralText, exponentText, text, last]
  · simpa using isWhole_append positive parts.symm start (List.forall_mem_nil _)
  · intro c inside
    exact isDigit_of_mem_digitChars (n := n) (parts ▸ List.mem_append_right _ inside)
  · rw [parts, value_digitChars, places]
    rfl

theorem positional_before {n e : Nat} (before : ¬e + 1 < (digitChars n).length) :
    IsRealText (positional ⟨n, .negSucc e⟩) (Digits.size ⟨n, .negSucc e⟩) := by
  generalize filled : e + 1 - (digitChars n).length = zeros
  have text : positional ⟨n, .negSucc e⟩ =
      '0' :: '.' :: (List.replicate zeros '0' ++ digitChars n) := by
    simp only [positional, before, if_false, filled]
    rfl
  have places : (List.replicate zeros '0' ++ digitChars n).length = e + 1 := by
    rw [List.length_append, List.length_replicate]
    omega
  have number : value ('0' :: (List.replicate zeros '0' ++ digitChars n)) = n := by
    rw [← List.cons_append, ← List.replicate_succ, value_append, value_zeros, value_digitChars]
    omega
  refine ⟨['0'], List.replicate zeros '0' ++ digitChars n, none, ?_,
    ⟨by simp [isDigit], '0', [], rfl, fun _ => rfl⟩, ?_, by simp [digitChars_ne_nil], ?_⟩
  · simp [numeralText, exponentText, text, digitChars_ne_nil]
  · intro c inside
    rcases List.mem_append.mp inside with zero | digit
    · exact isDigit_of_mem_zeros zero
    · exact isDigit_of_mem_digitChars digit
  · rw [List.singleton_append, number, places]
    rfl

theorem positional_fraction (positive : 0 < d.digits) (fraction : d.exponent < 0) :
    IsRealText (positional d) d.size := by
  obtain ⟨n, exponent⟩ := d
  obtain ⟨e, rfl⟩ := Int.eq_negSucc_of_lt_zero fraction
  by_cases among : e + 1 < (digitChars n).length
  · exact positional_among positive among
  · exact positional_before among

theorem pointed_exponent (positive : 0 < d.digits) (e : Int)
    (point : e = (digitChars d.digits).length + d.exponent - 1) :
    IsRealText (pointed (digitChars d.digits) ++ exponentText (some e)) d.size := by
  obtain ⟨first, rest, parts, -⟩ := digitChars_head positive
  have places : (rest.length : Int) = (digitChars d.digits).length - 1 := by
    rw [parts, List.length_cons]
    omega
  refine ⟨[first], rest, some e, ?_, ?_, ?_, ?_, ?_⟩
  · rw [parts]
    cases rest <;> simp [numeralText, pointed]
  · exact isWhole_append positive parts (List.cons_ne_nil first []) (List.forall_mem_nil _)
  · intro c inside
    exact isDigit_of_mem_digitChars (n := d.digits) (parts ▸ List.mem_cons_of_mem _ inside)
  · simp
  · rw [List.singleton_append, ← parts, value_digitChars, Option.getD_some, places]
    unfold Digits.size
    congr 2
    omega

theorem layOut_isRealText (positive : 0 < d.digits) : IsRealText (layOut d) d.size := by
  unfold layOut
  dsimp only
  split
  · rename_i whole
    rw [Bool.and_eq_true, decide_eq_true_iff] at whole
    exact positional_whole positive whole.1
  split
  · rename_i whole middle
    refine positional_fraction positive ?_
    simp only [Bool.and_eq_true, decide_eq_true_iff] at whole middle
    omega
  · rw [List.append_assoc]
    exact pointed_exponent positive _ rfl

example : [layOut ⟨125, 1⟩, layOut ⟨125, -2⟩, layOut ⟨125, -5⟩, layOut ⟨125, 20⟩].map String.ofList =
    ["1250.0", "1.25", "0.00125", "1.25e22"] := by
  decide +kernel

theorem beq_zero_iff {x : Float} (finite : x.isFinite = true) :
    (x == 0) = true ↔ Binary64.value x = 0 := by
  have zero : Binary64.IsNumber 0 ∧ Binary64.value 0 = 0 := ⟨rfl, Binary64.value_zero⟩
  simp [Binary64.beq_iff, Binary64.isNumber_of_finite finite, zero]

/-- A finite double is read back, if nothing continues its text. -/
theorem number_float {x : Float} (finite : x.isFinite = true) {rest : List Char}
    (ends : EndsNumber rest) : number (float x ++ rest) = some (.real x, rest) := by
  have sign (whole places : List Char) (exponent? : Option Int) :
      (if isNegative x then '-' :: numeralText false whole places exponent?
        else numeralText false whole places exponent?) =
      numeralText (isNegative x) whole places exponent? := by
    cases isNegative x <;> rfl
  unfold float
  by_cases zero : (x == 0) = true
  · have digits : IsWhole ['0'] := ⟨by simp [isDigit], '0', [], rfl, fun _ => rfl⟩
    have text : ['0', '.', '0'] = numeralText false ['0'] ['0'] none := rfl
    rw [if_pos zero, text, sign, number_numeralText _ digits digits.digits none ends]
    change some (Json.real (Numeral.toFloat ⟨isNegative x, 0, -1⟩), rest) = _
    rw [Numeral.toFloat_zero finite ((beq_zero_iff finite).mp zero)]
  · have nonzero := mt (beq_zero_iff finite).mpr zero
    obtain ⟨positive, -⟩ := shortest_value finite nonzero .even
    obtain ⟨whole, places, exponent?, text, isWhole, digits, real, size⟩ :=
      layOut_isRealText positive
    rw [if_neg zero, text, sign, number_numeralText _ isWhole digits exponent? ends, real]
    have same := Numeral.toFloat_shortest (n := ⟨isNegative x, value (whole ++ places),
      exponent?.getD 0 - places.length⟩) finite nonzero rfl size
    simp [ofNumeral, same]

theorem float_start {x : Float} (finite : x.isFinite = true) :
    ∃ c cs, float x = c :: cs ∧ (c = '-' ∨ isDigit c = true) := by
  have numeral {whole : List Char} (isWhole : IsWhole whole) (places : List Char)
      (exponent? : Option Int) : ∃ c cs,
        numeralText false whole places exponent? = c :: cs ∧ (c = '-' ∨ isDigit c = true) := by
    obtain ⟨digits, first, rest, rfl, -⟩ := isWhole
    exact ⟨first, _, rfl, Or.inr (digits first List.mem_cons_self)⟩
  unfold float
  dsimp only
  split
  · exact ⟨'-', _, rfl, Or.inl rfl⟩
  split
  · exact ⟨'0', _, rfl, Or.inr rfl⟩
  · rename_i nonzero
    obtain ⟨positive, -⟩ := shortest_value finite (mt (beq_zero_iff finite).mpr nonzero) .even
    obtain ⟨whole, places, exponent?, text, isWhole, -⟩ := layOut_isRealText positive
    rw [text]
    exact numeral isWhole places exponent?

end NoteChart.Json
