import Mathlib.Data.List.TakeWhile

/-!
Lists in order, and tests that fail for good. Where an item that passes a test has none before it
that fails, what passes is the front of the list, and it can be taken in two steps.
-/
namespace NoteChart

theorem takeWhile_eq_filter {α : Type} {p : α → Bool} {items : List α}
    (first : items.Pairwise fun a b => p b = true → p a = true) :
    items.takeWhile p = items.filter p := by
  induction items with
  | nil => rfl
  | cons a rest ih =>
    obtain ⟨least, first⟩ := List.pairwise_cons.mp first
    by_cases now : p a = true
    · simp [now, ih first]
    · have none : rest.filter p = [] :=
        List.filter_eq_nil_iff.mpr fun b inside due => now (least b inside due)
      simp [now, none]

theorem takeWhile_twice {α : Type} {p q : α → Bool} (weaker : ∀ a, p a = true → q a = true)
    (items : List α) : items.takeWhile q =
      items.takeWhile p ++ (items.drop (items.takeWhile p).length).takeWhile q := by
  have split := List.takeWhile_append_dropWhile (p := p) (l := items)
  have rest : items.drop (items.takeWhile p).length = items.dropWhile p := by
    calc items.drop (items.takeWhile p).length
        = (items.takeWhile p ++ items.dropWhile p).drop (items.takeWhile p).length := by rw [split]
      _ = items.dropWhile p := List.drop_left
  have front : ∀ a ∈ items.takeWhile p, q a = true :=
    fun a inside => weaker a (List.mem_takeWhile_imp inside)
  calc items.takeWhile q = (items.takeWhile p ++ items.dropWhile p).takeWhile q := by rw [split]
    _ = items.takeWhile p ++ (items.dropWhile p).takeWhile q :=
      List.takeWhile_append_of_pos front
    _ = _ := by rw [rest]

theorem filter_split {α : Type} {p q : α → Bool} {items : List α}
    (first : items.Pairwise fun a b => p b = true → p a = true)
    (weaker : ∀ a ∈ items, p a = true → q a = true) :
    items.filter q = items.filter p ++ items.filter (fun a => q a && !p a) := by
  induction items with
  | nil => rfl
  | cons a rest ih =>
    obtain ⟨least, first⟩ := List.pairwise_cons.mp first
    have split := ih first fun b inside => weaker b (List.mem_cons_of_mem _ inside)
    by_cases now : p a = true
    · simp [now, weaker a List.mem_cons_self now, split]
    · have none : rest.filter p = [] :=
        List.filter_eq_nil_iff.mpr fun b inside due => now (least b inside due)
      rw [none] at split
      simp [List.filter_cons, now, none, split]

end NoteChart
