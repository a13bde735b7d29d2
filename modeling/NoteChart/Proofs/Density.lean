import NoteChart.Proofs.Binary64.Tenfold
import NoteChart.Proofs.Roll
import NoteChart.Proofs.Timeline
import NoteChart.Proofs.Windows

/-!
The density of a chart, counted without a scan. Of the times not yet passed the scan counts all that
come before the end of the window; times equal to the first of these may be passed already, but then
the first of them has counted them all.
-/
namespace NoteChart.Density

open Binary64

/-- How many of the times lie in the window that begins at `x`. -/
def windowCount (times : List Float) (x : Float) : Nat :=
  times.countP fun t => x ≤ t && t < x + 1000.0

def busiest (times : List Float) : Nat := (times.map (windowCount times)).max?.getD 0

def openingCount (times : List Float) : Nat :=
  times.countP fun t => t < times.headD 0.0 + 10000.0

/-- Times in order, each of them in the window that it begins; so none of them is infinite. -/
structure IsSpread (times : List Float) : Prop where
  ascending : times.Pairwise (· ≤ ·)
  forward : ∀ t ∈ times, t < t + 1000.0

structure IsDescribed (times : List Float) (start peak : Float) : Prop where
  peak_eq : peak = Float.ofNat (busiest times)
  positive : 1.0 ≤ peak
  attained : ∃ t ∈ times, windowCount times t = busiest times
  greatest : ∀ x, windowCount times x ≤ busiest times
  start_eq : start = Float.ofNat (openingCount times) / 10.0
  tenfold : openingCount times < 5 * 2 ^ 50 → start * 10.0 = Float.ofNat (openingCount times)

variable {times left rest : List Float} {t : Float}

theorem IsSpread.tail (spread : IsSpread (t :: rest)) : IsSpread rest :=
  ⟨spread.ascending.tail, fun u inside => spread.forward u (List.mem_cons_of_mem _ inside)⟩

def greatestCount : List Float → Nat
  | [] => 0
  | t :: rest => max ((t :: rest).countP fun u => u < t + 1000.0) (greatestCount rest)

theorem max?_cons (n : Nat) (rest : List Nat) :
    (n :: rest).max?.getD 0 = max n (rest.max?.getD 0) := by
  rw [List.max?_cons]
  cases rest.max? <;> simp

theorem widths_eq (passed : List Float) (spread : IsSpread times) (whole : passed ++ left = times) :
    (((left.zipIdx passed.length).map fun (t, i) => (i, stopOf times t)).map width).max?.getD 0 =
      greatestCount left := by
  induction left generalizing passed with
  | nil => rfl
  | cons t rest ih =>
    have here : t ∈ times := by simp [← whole]
    have before : ∀ u ∈ passed, u < t + 1000.0 := by
      intro u inside
      have ascending := spread.ascending
      rw [← whole] at ascending
      exact Binary64.lt_of_le_of_lt
        ((List.pairwise_append.mp ascending).2.2 u inside t List.mem_cons_self)
        (spread.forward t here)
    have stop : stopOf times t =
        passed.length + (t :: rest).countP fun u => u < t + 1000.0 := by
      rw [stopOf, ← whole, List.countP_append,
        List.countP_eq_length.mpr fun u inside => decide_eq_true (before u inside)]
    have first : width (passed.length, stopOf times t) =
        (t :: rest).countP fun u => u < t + 1000.0 := by
      rw [stop, width, if_neg (by omega), Nat.add_sub_cancel_left]
    have later := ih (passed ++ [t]) (by simpa using whole)
    rw [List.length_append, List.length_singleton] at later
    rw [greatestCount, ← later, List.zipIdx_cons, List.map_cons, List.map_cons, first,
      max?_cons]

theorem peakCount_eq (spread : IsSpread times) : peakCount times = greatestCount times := by
  rw [peakCount, windowsOf_eq spread.ascending]
  exact widths_eq [] spread rfl

theorem le_busiest (inside : t ∈ times) : windowCount times t ≤ busiest times :=
  List.le_max?_getD_of_mem (List.mem_map_of_mem inside)

theorem busiest_attained (inside : t ∈ times) :
    ∃ u ∈ times, windowCount times u = busiest times := by
  cases most : (times.map (windowCount times)).max? with
  | none =>
    rw [List.max?_eq_none_iff, List.map_eq_nil_iff] at most
    rw [most] at inside
    cases inside
  | some n =>
    obtain ⟨u, given, same⟩ := List.mem_map.mp (List.max?_mem most)
    refine ⟨u, given, ?_⟩
    rw [same, busiest, most, Option.getD_some]

theorem windowCount_pos (spread : IsSpread times) (inside : t ∈ times) :
    1 ≤ windowCount times t := by
  have forward := spread.forward t inside
  have number : IsNumber t := (lt_iff.mp forward).1
  exact List.one_le_countP_iff.mpr ⟨t, inside, by simp [Binary64.le_refl number, forward]⟩

/-- Wherever a window begins, it holds no more than the one that begins with its first time. -/
theorem windowCount_le (spread : IsSpread left) (x : Float) :
    windowCount left x ≤ greatestCount left := by
  induction left with
  | nil => rfl
  | cons t rest ih =>
    by_cases before : x ≤ t
    · have ends : x + 1000.0 ≤ t + 1000.0 := Binary64.add_le_add_right before (by decide)
      refine le_trans (List.countP_mono_left ?_) (le_max_left _ _)
      intro u _ inside
      simp only [Bool.and_eq_true, decide_eq_true_eq] at inside ⊢
      exact Binary64.lt_of_lt_of_le inside.2 ends
    · have past : windowCount (t :: rest) x = windowCount rest x :=
        List.countP_cons_of_neg (by simp [before])
      rw [past]
      exact le_trans (ih spread.tail) (le_max_right _ _)

theorem greatestCount_le (spread : IsSpread left) (part : left.Sublist times) :
    greatestCount left ≤ busiest times := by
  induction left with
  | nil => exact Nat.zero_le _
  | cons t rest ih =>
    apply max_le
    · have number : IsNumber t := (lt_iff.mp (spread.forward t List.mem_cons_self)).1
      have after := first_least spread.ascending number
      calc (t :: rest).countP (fun u => u < t + 1000.0) ≤ windowCount (t :: rest) t := by
            apply List.countP_mono_left
            intro u inside early
            simp [after u inside, of_decide_eq_true early]
        _ ≤ windowCount times t := part.countP_le
        _ ≤ busiest times := le_busiest (part.subset List.mem_cons_self)
    · exact ih spread.tail (List.sublist_of_cons_sublist part)

theorem greatestCount_eq (spread : IsSpread times) : greatestCount times = busiest times := by
  apply le_antisymm (greatestCount_le spread (List.Sublist.refl _))
  cases times with
  | nil => rfl
  | cons t rest =>
    have first : t ∈ t :: rest := List.mem_cons_self
    obtain ⟨u, -, most⟩ := busiest_attained first
    rw [← most]
    exact windowCount_le spread u

theorem openingWindow_seconds : openingWindow / 1000.0 = 10.0 := by decide +kernel

theorem peakWindow_seconds : peakWindow / 1000.0 = 1.0 := by decide +kernel

theorem ofTimes_start (spread : IsSpread times) (inside : t ∈ times) (duration : Float) :
    (ofTimes times duration).start = Float.ofNat (openingCount times) / 10.0 := by
  cases times with
  | nil => cases inside
  | cons first rest =>
    have count := length_takeWhile spread.ascending (first + openingWindow)
    simp only [ofTimes]
    rw [openingWindow_seconds, count]
    rfl

theorem ofTimes_peak (spread : IsSpread times) (inside : t ∈ times) (duration : Float) :
    (ofTimes times duration).peak = Float.ofNat (busiest times) := by
  have count : peakCount times = busiest times :=
    (peakCount_eq spread).trans (greatestCount_eq spread)
  have positive : 0 < busiest times := (windowCount_pos spread inside).trans (le_busiest inside)
  cases times with
  | nil => cases inside
  | cons first rest =>
    simp only [ofTimes]
    rw [peakWindow_seconds, count]
    exact div_one_eq (ofNat_value _).1 (value_ofNat_ne_zero positive)

theorem isDescribed_ofTimes (spread : IsSpread times) (nonempty : times ≠ []) (duration : Float) :
    IsDescribed times (ofTimes times duration).start (ofTimes times duration).peak := by
  obtain ⟨t, inside⟩ := List.exists_mem_of_ne_nil times nonempty
  have peak := ofTimes_peak spread inside duration
  have start := ofTimes_start spread inside duration
  refine ⟨peak, ?_, busiest_attained inside, ?_, start, ?_⟩
  · have one : 1.0 ≤ Float.ofNat 1 := by decide
    have more := ofNat_mono ((windowCount_pos spread inside).trans (le_busiest inside))
    rw [peak]
    exact Binary64.le_trans one more
  · intro x
    rw [← greatestCount_eq spread]
    exact windowCount_le spread x
  · intro small
    rw [start]
    exact tenfold small

/-- The figures of times in order are those that are counted without a scan, and the scan never
takes a place from one before it. The figures of a chart are those of its notes. Ten times the
density of the opening is its count, up to numbers that no list in memory comes to: there a double
does not hold the tenth closely enough. -/
theorem densities_counted :
    (∀ (times : List Float) (duration : Float), IsSpread times → times ≠ [] →
      IsDescribed times (ofTimes times duration).start (ofTimes times duration).peak ∧
      overflows times = false) ∧
    ∀ arithmetic (text : String) (chart : Chart), Chart.ofText arithmetic text = .ok chart →
      IsSpread (chart.notes.map Note.time) → chart.notes ≠ [] →
      IsDescribed (chart.notes.map Note.time) chart.startDensity chart.peakDensity := by
  constructor
  · intro times duration spread nonempty
    exact ⟨isDescribed_ofTimes spread nonempty duration,
      not_overflows spread.ascending spread.forward⟩
  · intro arithmetic text chart compiled spread nonempty
    obtain ⟨source, md5, sha256, -, rfl⟩ := Chart.ofText_eq compiled
    exact isDescribed_ofTimes spread (by simpa using nonempty) source.timeline.2.time

theorem densities_counted_of_chords :
    let times := [100.0, 100.0, 100.0, 2000.0]
    IsSpread times ∧ times ≠ [] ∧
      IsDescribed times (ofTimes times 3000.0).start (ofTimes times 3000.0).peak ∧
      overflows times = false ∧
      windowCount times 100.0 = 3 ∧ windowCount times 1000.1 = 1 ∧
    ∃ chart, Chart.ofText .checked (rollText 3) = .ok chart ∧ IsSpread (chart.notes.map Note.time) ∧
      chart.notes ≠ [] ∧
      IsDescribed (chart.notes.map Note.time) chart.startDensity chart.peakDensity := by
  intro times
  have spread : IsSpread times := ⟨by decide +kernel, by decide +kernel⟩
  have nonempty : times ≠ [] := List.cons_ne_nil _ _
  obtain ⟨described, places⟩ := densities_counted.1 times 3000.0 spread nonempty
  obtain ⟨chart, compiled, notes, -, -⟩ := ofText_roll .checked 3
  have spread' : IsSpread (chart.notes.map Note.time) := by
    refine ⟨roll_sorted notes, ?_⟩
    intro t inside
    rw [roll_times notes t inside]
    decide +kernel
  have nonempty' : chart.notes ≠ [] := by
    rw [notes]
    exact List.cons_ne_nil _ _
  exact ⟨spread, nonempty, described, places, by decide +kernel, by decide +kernel, chart, compiled,
    spread', nonempty', densities_counted.2 _ _ chart compiled spread' nonempty'⟩

end NoteChart.Density
