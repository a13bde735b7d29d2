import NoteChart.Chart
import NoteChart.Play.Cursor
import NoteChart.Proofs.Binary64.Order
import NoteChart.Proofs.Fronts
import Mathlib.Data.List.Nodup

/-!
Cursors over a list of which more or less is shown. A cursor keeps the place up to which it has
handed out the list, but no place beyond what it is shown: shown less than it has handed out, it goes
back, and hands out again what is shown to it later. Shown at least that much every time, it only
goes forward, and what it hands out is the front of the list.
-/
namespace NoteChart
namespace Cursor

/-- A call to a cursor, which is shown the first items of a list at some time. -/
structure Look where
  shown : Nat
  now : Float

section Looks

variable {α : Type} (time : α → Float) (items : List α)

def Look.fire (look : Look) (cursor : Cursor) : List α × Cursor :=
  cursor.fire time (items.take look.shown) look.now

def run (cursor : Cursor) : List Look → List (List α) × Cursor
  | [] => ([], cursor)
  | look :: rest =>
    let (due, next) := look.fire time items cursor
    let (later, last) := next.run rest
    (due :: later, last)

def places (cursor : Cursor) : List Look → List Nat
  | [] => [cursor.index]
  | look :: rest => cursor.index :: (look.fire time items cursor).2.places rest

/-- No look shows less than has been handed out before it. -/
def Covers (cursor : Cursor) : List Look → Prop
  | [] => True
  | look :: rest => cursor.index ≤ look.shown ∧ (look.fire time items cursor).2.Covers rest

instance (cursor : Cursor) : (looks : List Look) → Decidable (cursor.Covers time items looks)
  | [] => inferInstanceAs (Decidable True)
  | look :: rest =>
    have : Decidable ((look.fire time items cursor).2.Covers time items rest) :=
      instDecidableCovers _ rest
    inferInstanceAs (Decidable (_ ∧ _))

end Looks

variable {α : Type} {time : α → Float} {items : List α} {cursor : Cursor}

theorem fire_index (cursor : Cursor) (time : α → Float) (items : List α) (now : Float) :
    (cursor.fire time items now).2.index =
      min cursor.index items.length + (cursor.fire time items now).1.length := rfl

theorem take_fire (cursor : Cursor) (time : α → Float) (items : List α) (now : Float) :
    items.take (cursor.fire time items now).2.index =
      items.take cursor.index ++ (cursor.fire time items now).1 := by
  unfold fire
  dsimp only
  generalize due : (items.drop (min cursor.index items.length)).takeWhile
    (fun item => decide (time item ≤ now)) = front
  have start : items.take (min cursor.index items.length) = items.take cursor.index :=
    List.take_eq_take_min.symm
  have next : (items.drop (min cursor.index items.length)).take front.length = front :=
    (List.prefix_iff_eq_take.mp (due ▸ List.takeWhile_prefix _)).symm
  rw [List.take_add, start, next]

theorem fire_index_le (cursor : Cursor) (time : α → Float) (items : List α) (now : Float) :
    (cursor.fire time items now).2.index ≤ items.length := by
  have pieces := congrArg List.length (cursor.take_fire time items now)
  have index := cursor.fire_index time items now
  rw [List.length_append, List.length_take, List.length_take] at pieces
  omega

theorem mem_take_fire (cursor : Cursor) {now : Float} {item : α}
    (timed : items.Pairwise (time · ≤ time ·)) (inside : item ∈ items) (due : time item ≤ now) :
    item ∈ items.take (cursor.fire time items now).2.index := by
  have first : (items.drop (min cursor.index items.length)).Pairwise fun a b =>
      decide (time b ≤ now) = true → decide (time a ≤ now) = true := by
    refine (timed.sublist (List.drop_sublist _ _)).imp ?_
    intro a b order late
    exact decide_eq_true (Binary64.le_trans order (of_decide_eq_true late))
  have handed : (cursor.fire time items now).1 =
      (items.drop (min cursor.index items.length)).filter fun item => time item ≤ now :=
    takeWhile_eq_filter first
  rw [cursor.take_fire, List.take_eq_take_min, handed]
  rw [← List.take_append_drop (min cursor.index items.length) items] at inside
  rcases List.mem_append.mp inside with before | ahead
  · exact List.mem_append_left _ before
  · exact List.mem_append_right _ (List.mem_filter.mpr ⟨ahead, decide_eq_true due⟩)

namespace Look

section Places

variable (time items) (look : Look) (cursor : Cursor)

theorem fire_index_le_min :
    (look.fire time items cursor).2.index ≤ min look.shown items.length := by
  rw [← List.length_take]
  exact cursor.fire_index_le time (items.take look.shown) look.now

theorem take_fire : items.take (look.fire time items cursor).2.index =
    items.take (min cursor.index look.shown) ++ (look.fire time items cursor).1 := by
  have within := Nat.le_trans (look.fire_index_le_min time items cursor) (Nat.min_le_left _ _)
  have pieces := cursor.take_fire time (items.take look.shown) look.now
  rw [List.take_take, List.take_take] at pieces
  rwa [← Nat.min_eq_left within]

/-- A look takes an item from ahead of the cursor to behind it, and back only if it does not show
the item. -/
theorem count_fire_le [DecidableEq α] (distinct : items.Nodup) (item : α) :
    (look.fire time items cursor).1.count item + (items.take cursor.index).count item ≤
      (items.take (look.fire time items cursor).2.index).count item +
        if item ∉ items.take look.shown then 1 else 0 := by
  have once : (items.take cursor.index).count item ≤ 1 :=
    List.nodup_iff_count_le_one.mp (distinct.sublist (List.take_sublist _ _)) item
  have kept (shown : item ∈ items.take look.shown) : (items.take cursor.index).count item ≤
      (items.take (min cursor.index look.shown)).count item := by
    rcases Nat.le_total cursor.index look.shown with covered | short
    · rw [Nat.min_eq_left covered]
    · rw [Nat.min_eq_right short]
      exact Nat.le_trans once (List.one_le_count_iff.mpr shown)
  rw [look.take_fire, List.count_append]
  split_ifs with shown
  · have kept := kept shown
    omega
  · omega

theorem mem_take_fire {item : α} (timed : items.Pairwise (time · ≤ time ·))
    (shown : item ∈ items.take look.shown) (due : time item ≤ look.now) :
    item ∈ items.take (look.fire time items cursor).2.index := by
  have handed := cursor.mem_take_fire (timed.sublist (List.take_sublist _ _)) shown due
  rw [List.take_take] at handed
  exact List.take_subset_take_left _ (Nat.min_le_left _ _) handed

end Places

theorem le_fire_index_iff {look : Look} (inside : cursor.index ≤ items.length) :
    cursor.index ≤ (look.fire time items cursor).2.index ↔ cursor.index ≤ look.shown := by
  have within := look.fire_index_le_min time items cursor
  constructor
  · intro forward
    exact Nat.le_trans forward (Nat.le_trans within (Nat.min_le_left _ _))
  · intro covered
    have index := cursor.fire_index time (items.take look.shown) look.now
    rw [List.length_take, Nat.min_eq_left (Nat.le_min.mpr ⟨covered, inside⟩)] at index
    exact Nat.le.intro index.symm

end Look

theorem places_cons (time : α → Float) (items : List α) (cursor : Cursor) (looks : List Look) :
    ∃ later, cursor.places time items looks = cursor.index :: later := by
  cases looks with
  | nil => exact ⟨_, rfl⟩
  | cons look rest => exact ⟨_, rfl⟩

theorem places_ascending_iff (inside : cursor.index ≤ items.length) (looks : List Look) :
    (cursor.places time items looks).Pairwise (· ≤ ·) ↔ cursor.Covers time items looks := by
  rw [← List.isChain_iff_pairwise]
  induction looks generalizing cursor with
  | nil => exact iff_of_true (.singleton _) trivial
  | cons look rest ih =>
    obtain ⟨later, next⟩ := places_cons time items (look.fire time items cursor).2 rest
    have within := look.fire_index_le_min time items cursor
    have onward := ih (Nat.le_trans within (Nat.min_le_right _ _))
    rw [places, Covers, next, List.isChain_cons_cons, ← next, onward,
      Look.le_fire_index_iff inside]

theorem take_run (looks : List Look) (covered : cursor.Covers time items looks) :
    items.take (cursor.run time items looks).2.index =
      items.take cursor.index ++ (cursor.run time items looks).1.flatten := by
  induction looks generalizing cursor with
  | nil => simp [run]
  | cons look rest ih =>
    obtain ⟨enough, covered⟩ := covered
    have first := look.take_fire time items cursor
    rw [Nat.min_eq_left enough] at first
    have later := ih covered
    rw [first, List.append_assoc] at later
    exact later

theorem mem_take_run {looks : List Look} {item : α} (timed : items.Pairwise (time · ≤ time ·))
    (covered : cursor.Covers time items looks) {look : Look} (called : look ∈ looks)
    (shown : item ∈ items.take look.shown) (due : time item ≤ look.now) :
    item ∈ items.take (cursor.run time items looks).2.index := by
  induction looks generalizing cursor with
  | nil => cases called
  | cons first rest ih =>
    obtain ⟨-, covered⟩ := covered
    rcases List.mem_cons.mp called with rfl | later
    · have handed := look.mem_take_fire time items cursor timed shown due
      have onward := take_run rest covered
      rw [run, onward]
      exact List.mem_append_left _ handed
    · exact ih covered later

theorem count_run_le [DecidableEq α] (time : α → Float) (distinct : items.Nodup) (item : α)
    (cursor : Cursor) (looks : List Look) :
    (cursor.run time items looks).1.flatten.count item + (items.take cursor.index).count item ≤
      (items.take (cursor.run time items looks).2.index).count item +
        looks.countP fun look => item ∉ items.take look.shown := by
  induction looks generalizing cursor with
  | nil => simp [run]
  | cons look rest ih =>
    have first := look.count_fire_le time items cursor distinct item
    have later := ih (look.fire time items cursor).2
    simp only [run, List.flatten_cons, List.count_append, List.countP_cons, decide_eq_true_eq]
    omega

/-- A new cursor never goes back if and only if each look shows all that has been handed out before
it. What it hands out is then the front of the list, each item once, and of a list in order all that
was shown when it was due. However much is shown, an item is handed out once, and again at most once
for each look that does not show it. -/
theorem forward_while_covered [DecidableEq α] (time : α → Float) (items : List α)
    (looks : List Look) :
    ((start.places time items looks).Pairwise (· ≤ ·) ↔ start.Covers time items looks) ∧
    (start.Covers time items looks →
      (start.run time items looks).1.flatten =
        items.take (start.run time items looks).2.index ∧
      (items.Pairwise (time · ≤ time ·) → ∀ look ∈ looks, ∀ item ∈ items.take look.shown,
        time item ≤ look.now → item ∈ (start.run time items looks).1.flatten)) ∧
    (items.Nodup → ∀ item, (start.run time items looks).1.flatten.count item ≤
      1 + looks.countP fun look => item ∉ items.take look.shown) := by
  refine ⟨places_ascending_iff (Nat.zero_le _) looks, ?_, ?_⟩
  · intro covered
    have front : (start.run time items looks).1.flatten =
        items.take (start.run time items looks).2.index := (take_run looks covered).symm
    refine ⟨front, ?_⟩
    intro timed look called item shown due
    rw [front]
    exact mem_take_run timed covered called shown due
  · intro distinct item
    have bound := count_run_le time distinct item start looks
    have once : (items.take (start.run time items looks).2.index).count item ≤ 1 :=
      List.nodup_iff_count_le_one.mp (distinct.sublist (List.take_sublist _ _)) item
    omega

def twoSounds : List Sound := [⟨0.0, ⟨1⟩⟩, ⟨100.0, ⟨2⟩⟩]

theorem forward_while_covered_of_two_sounds :
    let covered : List Look := [⟨1, 0.0⟩, ⟨1, 100.0⟩, ⟨2, 50.0⟩, ⟨2, 100.0⟩]
    let short : List Look := [⟨2, 100.0⟩, ⟨1, 100.0⟩, ⟨2, 100.0⟩]
    start.Covers Sound.time twoSounds covered ∧ twoSounds.Nodup ∧
      twoSounds.Pairwise (·.time ≤ ·.time) ∧
      (start.places Sound.time twoSounds covered).Pairwise (· ≤ ·) ∧
      (start.run Sound.time twoSounds covered).1.flatten = twoSounds ∧
      ⟨100.0, ⟨2⟩⟩ ∈ (start.run Sound.time twoSounds covered).1.flatten ∧
      (start.run Sound.time twoSounds short).1.flatten.count ⟨100.0, ⟨2⟩⟩ = 2 ∧
      (start.run Sound.time twoSounds short).1.flatten.count ⟨100.0, ⟨2⟩⟩ ≤
        1 + short.countP fun look => ⟨100.0, ⟨2⟩⟩ ∉ twoSounds.take look.shown := by
  intro covered short
  have covers : start.Covers Sound.time twoSounds covered := by decide +kernel
  have distinct : twoSounds.Nodup := by decide +kernel
  have timed : twoSounds.Pairwise (·.time ≤ ·.time) := by decide +kernel
  have last : (start.run Sound.time twoSounds covered).2.index = 2 := by decide +kernel
  obtain ⟨ascending, handed, -⟩ := forward_while_covered Sound.time twoSounds covered
  obtain ⟨front, due⟩ := handed covers
  obtain ⟨-, -, again⟩ := forward_while_covered Sound.time twoSounds short
  refine ⟨covers, distinct, timed, ascending.mpr covers, ?_, ?_, by decide +kernel,
    again distinct _⟩
  · rw [front, last]
    rfl
  · exact due timed ⟨2, 100.0⟩ (by simp [covered]) _ (by simp [twoSounds]) (by decide +kernel)

/-- Shown less for a moment, a cursor goes back and hands out both sounds twice. -/
theorem cursor_goes_back :
    let looks : List Look := [⟨2, 100.0⟩, ⟨0, 100.0⟩, ⟨2, 100.0⟩]
    (twoSounds.map Sound.time).Pairwise (· ≤ ·) ∧ twoSounds.Nodup ∧
      start.places Sound.time twoSounds looks = [0, 2, 0, 2] ∧
      ¬(start.places Sound.time twoSounds looks).Pairwise (· ≤ ·) ∧
      (start.run Sound.time twoSounds looks).1 = [twoSounds, [], twoSounds] ∧
      ¬(start.run Sound.time twoSounds looks).1.flatten.Nodup := by
  decide +kernel

end Cursor
end NoteChart
