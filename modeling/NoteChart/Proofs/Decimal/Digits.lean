import NoteChart.Decimal.Numeral
import NoteChart.Decimal.Shortest
import Mathlib.Algebra.Order.Ring.Nat
import Mathlib.Tactic.IntervalCases
import Mathlib.Tactic.Ring

/-!
Runs of digits. The digits of a number write that number, all of them are digits, and the first is
not 0 unless the number is; and reading digits stops where they end.
-/
namespace NoteChart.Decimal

theorem value_append (front back : List Char) :
    value (front ++ back) = value front * 10 ^ back.length + value back := by
  have shifted (cs : List Char) (n : Nat) :
      cs.foldl (fun n c => n * 10 + digitValue c) n = n * 10 ^ cs.length + value cs := by
    unfold value
    induction cs generalizing n with
    | nil => simp
    | cons c rest ih =>
      rw [List.foldl_cons, List.foldl_cons, ih, ih (0 * 10 + digitValue c), List.length_cons]
      ring
  rw [value, List.foldl_append, shifted]
  rfl

theorem value_zeros (n : Nat) : value (List.replicate n '0') = 0 := by
  induction n with
  | zero => rfl
  | succ n ih =>
    have first : value ['0'] = 0 := rfl
    rw [List.replicate_succ, ← List.singleton_append, value_append, ih, first, Nat.zero_mul]

theorem value_digitChars (n : Nat) : value (digitChars n) = n := by
  have same : value (digitChars n) = Nat.ofDigitChars 10 (Nat.toDigits 10 n) 0 := by
    unfold value Nat.ofDigitChars digitChars
    congr 1
    funext sofar c
    rw [Nat.mul_comm]
    rfl
  rw [same, Nat.ofDigitChars_toDigits (by decide) (by decide)]

theorem isDigit_of_mem_digitChars {n : Nat} {c : Char} (inside : c ∈ digitChars n) :
    isDigit c = true :=
  Nat.isDigit_of_mem_toDigits (by decide) (by decide) inside

theorem digitChars_ne_nil (n : Nat) : digitChars n ≠ [] := Nat.toDigits_ne_nil

theorem digitChars_head {n : Nat} (positive : 0 < n) :
    ∃ first rest, digitChars n = first :: rest ∧ first ≠ '0' := by
  induction n using Nat.strongRecOn with
  | ind n ih =>
    unfold digitChars
    by_cases small : n < 10
    · rw [Nat.toDigits_of_lt_base small]
      refine ⟨_, [], rfl, ?_⟩
      interval_cases n <;> decide
    · rw [Nat.toDigits_of_base_le (by decide) (by omega)]
      obtain ⟨first, rest, digits, start⟩ := ih (n / 10) (by omega) (by omega)
      unfold digitChars at digits
      rw [digits]
      exact ⟨first, _, rfl, start⟩

def EndsDigits (rest : List Char) : Prop := ∀ c ∈ rest.head?, isDigit c = false

theorem takeDigits_append {digits rest : List Char} (all : ∀ c ∈ digits, isDigit c = true)
    (ends : EndsDigits rest) : takeDigits (digits ++ rest) = (digits, rest) := by
  have stop : rest.takeWhile isDigit = [] ∧ rest.dropWhile isDigit = rest := by
    cases rest with
    | nil => exact ⟨rfl, rfl⟩
    | cons c rest =>
      have other := ends c rfl
      simp [other]
  unfold takeDigits
  rw [List.takeWhile_append_of_pos all, List.dropWhile_append_of_pos all, stop.1, stop.2,
    List.append_nil]

end NoteChart.Decimal
