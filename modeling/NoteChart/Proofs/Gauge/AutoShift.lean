import NoteChart.Gauge.AutoShift
import NoteChart.Proofs.Fronts
import Mathlib.Tactic.SplitIfs

/-!
Where auto shift leads. A fall ends on the strictest kind below the active one that can be played
on, if the floor allows any; a rise stays among the light kinds, one step up.
-/
namespace NoteChart

namespace GaugeKind

theorem le_iff_rank {a b : GaugeKind} : a ≤ b ↔ a.rank ≤ b.rank := Iff.rfl

theorem lt_iff_rank {a b : GaugeKind} : a < b ↔ a.rank < b.rank := Iff.rfl

theorem rank_injective {a b : GaugeKind} (same : a.rank = b.rank) : a = b := by
  cases a <;> cases b <;> first | rfl | cases same

theorem lt_or_eq_or_gt (a b : GaugeKind) : a < b ∨ a = b ∨ b < a := by
  rcases Nat.lt_trichotomy a.rank b.rank with below | same | above
  · exact Or.inl below
  · exact Or.inr (Or.inl (rank_injective same))
  · exact Or.inr (Or.inr above)

theorem isSurvival_iff_rank {a : GaugeKind} : a.isSurvival = true ↔ 3 ≤ a.rank := by
  cases a <;> decide

theorem mem_all (a : GaugeKind) : a ∈ all := by
  cases a <;> decide

theorem mem_below {a active : GaugeKind} : a ∈ active.below ↔ a < active := by
  simp [below, mem_all]

theorem mem_between {a floor start : GaugeKind} :
    a ∈ between floor start ↔ floor ≤ a ∧ a ≤ start := by
  simp [between, mem_all]

theorem below_descending (active : GaugeKind) : active.below.Pairwise fun a b => b < a := by
  cases active <;> decide

theorem mem_takeWhile_floor {kinds : List GaugeKind} (descending : kinds.Pairwise fun a b => b < a)
    {floor a : GaugeKind} :
    a ∈ kinds.takeWhile (fun kind => floor ≤ kind) ↔ a ∈ kinds ∧ floor ≤ a := by
  have first : kinds.Pairwise fun a b =>
      decide (floor ≤ b) = true → decide (floor ≤ a) = true := by
    refine descending.imp ?_
    intro a b lower above
    rw [lt_iff_rank] at lower
    rw [decide_eq_true_eq, le_iff_rank] at above ⊢
    omega
  rw [takeWhile_eq_filter first]
  simp

end GaugeKind

namespace GaugeLadder

open GaugeKind

variable {ladder : GaugeLadder} {floor start kind : GaugeKind}

theorem isPlayable_eq_false :
    ladder.isPlayable kind = false ↔
      kind.isSurvival = true ∧ (ladder.gauge kind).isDead = true := by
  simp [isPlayable]

theorem fallTo?_some (found : ladder.fallTo? floor = some kind) :
    floor ≤ kind ∧ kind < ladder.active ∧ ladder.isPlayable kind = true ∧
      ∀ k, kind < k → k < ladder.active → ladder.isPlayable k = false := by
  have descending := below_descending ladder.active
  obtain ⟨playable, front, back, split, skipped⟩ := List.find?_eq_some_iff_append.mp found
  have inside : kind ∈ ladder.active.below.takeWhile (fun k => floor ≤ k) := by
    rw [split]
    exact List.mem_append_right _ List.mem_cons_self
  obtain ⟨below, above⟩ := (mem_takeWhile_floor descending).mp inside
  refine ⟨above, mem_below.mp below, playable, ?_⟩
  intro k higher lower
  have between : k ∈ ladder.active.below.takeWhile (fun k => floor ≤ k) := by
    refine (mem_takeWhile_floor descending).mpr ⟨mem_below.mpr lower, ?_⟩
    rw [le_iff_rank] at above ⊢
    rw [lt_iff_rank] at higher
    omega
  have part := descending.sublist (List.takeWhile_sublist fun k => decide (floor ≤ k))
  rw [split] at between part
  rcases List.mem_append.mp between with early | late
  · simpa using skipped k early
  · rcases List.mem_cons.mp late with rfl | late
    · exact absurd higher (Nat.lt_irrefl _)
    · have order := (List.pairwise_cons.mp (List.pairwise_append.mp part).2.1).1 k late
      exact absurd higher (Nat.lt_asymm order)

theorem fallTo?_none (missed : ladder.fallTo? floor = none) {k : GaugeKind} (above : floor ≤ k)
    (lower : k < ladder.active) : ladder.isPlayable k = false := by
  have inside := (mem_takeWhile_floor (below_descending ladder.active)).mpr
    ⟨mem_below.mpr lower, above⟩
  simpa using List.find?_eq_none.mp missed k inside

theorem riseTo?_some (found : ladder.riseTo? start = some kind) :
    ladder.active < kind ∧ kind ≤ start ∧ ladder.active.isSurvival = false ∧
      kind.isSurvival = false := by
  unfold riseTo? at found
  split at found
  · rename_i active
    split_ifs at found with reached
    cases found
    rw [active]
    exact ⟨by decide, (by simpa using reached : _ ∧ _).1, rfl, rfl⟩
  · rename_i active
    split_ifs at found with reached
    cases found
    rw [active]
    exact ⟨by decide, (by simpa using reached : _ ∧ _).1, rfl, rfl⟩
  · cases found

theorem decideShift_to (shift : ladder.decideShift start floor = .to kind) :
    (ladder.mustFall = true ∧ ladder.fallTo? floor = some kind) ∨
      (ladder.mustFall = false ∧ ladder.riseTo? start = some kind) := by
  unfold decideShift at shift
  split at shift
  · rename_i falls
    split at shift
    · rename_i found
      cases shift
      exact Or.inl ⟨falls, found⟩
    · split_ifs at shift
  · rename_i stays
    split at shift
    · rename_i found
      cases shift
      exact Or.inr ⟨by simpa using stays, found⟩
    · cases shift

theorem decideShift_fail (shift : ladder.decideShift start floor = .fail) :
    ladder.active.isSurvival = true ∧ ladder.activeGauge.isDead = true ∧
      ladder.fallTo? floor = none := by
  unfold decideShift at shift
  split at shift
  · rename_i falls
    split at shift
    · cases shift
    · rename_i missed
      split_ifs at shift with survival
      unfold mustFall at falls
      rw [if_pos survival] at falls
      exact ⟨survival, falls, missed⟩
  · split at shift <;> cases shift

theorem decideShift_stay (shift : ladder.decideShift start floor = .stay)
    (survival : ladder.active.isSurvival = true) : ladder.activeGauge.isDead = false := by
  unfold decideShift at shift
  split at shift
  · split at shift
    · cases shift
    · cases shift
  · rename_i stays
    unfold mustFall at stays
    rw [if_pos survival] at stays
    simpa using stays

end GaugeLadder
end NoteChart
