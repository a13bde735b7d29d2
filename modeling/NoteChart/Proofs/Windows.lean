import NoteChart.Density
import NoteChart.Proofs.Binary64.Precision
import NoteChart.Proofs.Fronts

/-!
The windows of times in order. They end in order too, so that a scan which never goes back finds the
place of every time and the number of times before the end of its window. The second may be less
than the first, but only where a time returns that is too late for a second to be added to it.
-/
namespace NoteChart.Density

open Binary64

variable {times left ahead : List Float} {t : Float}

/-- How many of the times come before the end of the window that begins at `x`. -/
def stopOf (times : List Float) (x : Float) : Nat := times.countP fun u => u < x + 1000.0

theorem length_takeWhile (ascending : left.Pairwise (· ≤ ·)) (stop : Float) :
    (left.takeWhile fun u => u < stop).length = left.countP fun u => u < stop := by
  have first : left.Pairwise fun a b => decide (b < stop) = true → decide (a < stop) = true := by
    refine ascending.imp ?_
    intro a b order early
    exact decide_eq_true (Binary64.lt_of_le_of_lt order (of_decide_eq_true early))
  rw [takeWhile_eq_filter first, List.countP_eq_length_filter]

theorem first_least (ascending : (t :: left).Pairwise (· ≤ ·)) (number : IsNumber t) :
    ∀ u ∈ t :: left, t ≤ u := by
  intro u inside
  rcases List.mem_cons.mp inside with rfl | later
  · exact Binary64.le_refl number
  · exact (List.pairwise_cons.mp ascending).1 u later

theorem ends_ascending (ascending : (t :: left).Pairwise (· ≤ ·)) :
    ∀ u ∈ left, t + 1000.0 ≤ u + 1000.0 := by
  intro u inside
  exact Binary64.add_le_add_right ((List.pairwise_cons.mp ascending).1 u inside) (by decide)

theorem windows_cons (t : Float) (rest ahead : List Float) (start stop : Nat) :
    windows (t :: rest) ahead start stop =
      (start, stop + (ahead.takeWhile fun u => u < t + 1000.0).length) ::
        windows rest (ahead.dropWhile fun u => u < t + 1000.0) (start + 1)
          (stop + (ahead.takeWhile fun u => u < t + 1000.0).length) :=
  rfl

theorem windows_eq (passed front : List Float) (ascending : times.Pairwise (· ≤ ·))
    (whole : passed ++ left = times) (split : front ++ ahead = times)
    (early : ∀ u ∈ front, ∀ t ∈ left, u < t + 1000.0) :
    windows left ahead passed.length front.length =
      (left.zipIdx passed.length).map fun (t, i) => (i, stopOf times t) := by
  induction left generalizing passed front ahead with
  | nil => rfl
  | cons t rest ih =>
    have order : (t :: rest).Pairwise (· ≤ ·) := by
      rw [← whole] at ascending
      exact (List.pairwise_append.mp ascending).2.1
    have order' : ahead.Pairwise (· ≤ ·) := by
      rw [← split] at ascending
      exact (List.pairwise_append.mp ascending).2.1
    have all : front.countP (fun u => u < t + 1000.0) = front.length :=
      List.countP_eq_length.mpr fun u inside => decide_eq_true (early u inside t List.mem_cons_self)
    have stop : stopOf times t = front.length + (ahead.takeWhile fun u => u < t + 1000.0).length := by
      rw [stopOf, ← split, List.countP_append, all, length_takeWhile order']
    have entered : ∀ u ∈ front ++ ahead.takeWhile (fun u => u < t + 1000.0), ∀ v ∈ rest,
        u < v + 1000.0 := by
      intro u inside v after
      refine Binary64.lt_of_lt_of_le ?_ (ends_ascending order v after)
      rcases List.mem_append.mp inside with old | entering
      · exact early u old t List.mem_cons_self
      · simpa using List.mem_takeWhile_imp entering
    have next := ih (passed ++ [t]) _ (by simpa using whole)
      (by rw [List.append_assoc, List.takeWhile_append_dropWhile, split]) entered
    rw [List.length_append, List.length_append, List.length_singleton, ← stop] at next
    rw [windows_cons, ← stop, next, List.zipIdx_cons, List.map_cons]

theorem windowsOf_eq (ascending : times.Pairwise (· ≤ ·)) :
    windowsOf times = times.zipIdx.map fun (t, i) => (i, stopOf times t) :=
  windows_eq [] [] ascending rfl rfl (by simp)

theorem eq_of_between {u : Float} (order : u ≤ t) (stands : t + 1000.0 ≤ u) : u = t := by
  obtain ⟨number, number'⟩ := isNumber_of_le order
  have forward : t ≤ t + 1000.0 := Binary64.le_add_of_finite number' (by decide) (by decide)
  have same : value u = value t :=
    le_antisymm (le_iff.mp order).2.2 (le_iff.mp (Binary64.le_trans forward stands)).2.2
  refine eq_of_value ?_ number number' same
  intro zero
  have nonneg : 0.0 ≤ t := nonneg_iff.mpr ⟨number', (same.symm.trans zero).ge⟩
  have more : (0.0 : Float) + 1000.0 ≤ u :=
    Binary64.le_trans (Binary64.add_le_add_right nonneg (by decide)) stands
  have positive : 0.0 < u := Binary64.lt_of_lt_of_le (by decide +kernel) more
  exact (pos_iff.mp positive).2.ne' zero

theorem returns_of_stopOf_lt {front back : List Float}
    (ascending : (front ++ t :: back).Pairwise (· ≤ ·))
    (below : stopOf (front ++ t :: back) t < front.length) : t ∈ front ∧ t + 1000.0 ≤ t := by
  rw [stopOf, List.countP_append] at below
  obtain ⟨u, given, late⟩ : ∃ u ∈ front, ¬u < t + 1000.0 := by
    by_contra none
    push Not at none
    have all := List.countP_eq_length.mpr fun u given => decide_eq_true (none u given)
    omega
  have order : u ≤ t := (List.pairwise_append.mp ascending).2.2 u given t List.mem_cons_self
  obtain ⟨number, number'⟩ := isNumber_of_le order
  have forward : t ≤ t + 1000.0 := Binary64.le_add_of_finite number' (by decide) (by decide)
  have stands : t + 1000.0 ≤ u := (Binary64.not_lt number (isNumber_of_le forward).2).mp late
  have same := eq_of_between order stands
  rw [same] at given stands
  exact ⟨given, stands⟩

theorem stopOf_le_of_stands {front back : List Float}
    (ascending : (front ++ t :: back).Pairwise (· ≤ ·)) (stands : t + 1000.0 ≤ t) :
    stopOf (front ++ t :: back) t ≤ front.length := by
  have after := first_least (List.pairwise_append.mp ascending).2.1 (isNumber_of_le stands).2
  have passed : (t :: back).countP (fun u => u < t + 1000.0) = 0 := by
    refine List.countP_eq_zero.mpr fun u inside early => ?_
    exact Binary64.not_lt_of_le (after u inside)
      (Binary64.lt_of_lt_of_le (of_decide_eq_true early) stands)
  rw [stopOf, List.countP_append, passed, Nat.add_zero]
  exact List.countP_le_length

/-- A window ends before the place where it begins if and only if a time returns to which a second
cannot be added. -/
theorem overflows_iff (ascending : times.Pairwise (· ≤ ·)) :
    overflows times = true ↔ ∃ t, [t, t].Sublist times ∧ t + 1000.0 ≤ t := by
  have places : overflows times = true ↔ ∃ t i, times[i]? = some t ∧ stopOf times t < i := by
    simp [overflows, windowsOf_eq ascending, List.mem_zipIdx_iff_getElem?]
  rw [places]
  constructor
  · rintro ⟨t, i, here, below⟩
    obtain ⟨inside, rfl⟩ := List.getElem?_eq_some_iff.mp here
    have split : times.take i ++ times[i] :: times.drop (i + 1) = times := by simp
    have place : (times.take i).length = i := List.length_take_of_le inside.le
    obtain ⟨before, stands⟩ :=
      returns_of_stopOf_lt (split.symm ▸ ascending) (by rwa [split, place])
    have again : times[i] ∈ times.drop i := by
      rw [List.drop_eq_getElem_cons inside]
      exact List.mem_cons_self
    exact ⟨times[i], List.cons_sublist_iff.mpr ⟨times.take i, times.drop i,
      (List.take_append_drop i times).symm, before, List.singleton_sublist.mpr again⟩, stands⟩
  · rintro ⟨t, returns, stands⟩
    obtain ⟨before, rest, rfl, first, again⟩ := List.cons_sublist_iff.mp returns
    obtain ⟨a, b, rfl⟩ := List.append_of_mem first
    have few := stopOf_le_of_stands (by simpa using ascending) stands
    obtain ⟨c, d, rfl⟩ := List.append_of_mem (List.singleton_sublist.mp again)
    refine ⟨t, (a ++ t :: b ++ c).length, by simp, ?_⟩
    rw [List.append_assoc, List.cons_append]
    simp only [List.length_append, List.length_cons]
    omega

theorem not_overflows (ascending : times.Pairwise (· ≤ ·)) (forward : ∀ t ∈ times, t < t + 1000.0) :
    overflows times = false := by
  by_contra below
  obtain ⟨t, returns, stands⟩ := (overflows_iff ascending).mp (by simpa using below)
  exact Binary64.not_lt_of_le stands (forward t (returns.subset List.mem_cons_self))

theorem not_overflows_of_length (few : times.length ≤ 1) : overflows times = false := by
  match times, few with
  | [], _ => rfl
  | [t], _ => simp [overflows, windowsOf, windows]

end NoteChart.Density
