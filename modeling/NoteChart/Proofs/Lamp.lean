import NoteChart.Proofs.Play.FullCombo

/-!
Full clears. The lamps from full combo up compare the hits of a play with the number of its notes,
of which a word is kept. Below 2^32 notes nothing is lost, and such a lamp is given just if every
note was hit well enough; from there on it can be given for a play that left notes alone.
-/
namespace NoteChart
namespace Lamp

theorem eq_perfect_iff {lamp : Lamp} : lamp = perfect ↔ perfect ≤ lamp ∧ ¬max ≤ lamp := by
  cases lamp <;> decide

theorem eq_fullCombo_iff {lamp : Lamp} : lamp = fullCombo ↔ fullCombo ≤ lamp ∧ ¬perfect ≤ lamp := by
  cases lamp <;> decide

theorem word_eq_ofNat_iff {word : UInt32} {n : Nat} :
    word = .ofNat n ↔ word.toNat = n % UInt32.size := by
  rw [← UInt32.toNat_inj, UInt32.toNat_ofNat']

variable {score : Score}
  (few : score.counts.pgreat.toNat + score.counts.great.toNat + score.counts.good.toNat +
    score.counts.bad.toNat + score.counts.poor.toNat < UInt32.size)
  (noteCount : Nat) (ladder : GaugeLadder) (candidates : List GaugeKind) (failed : Bool)

include few

theorem le_classify_iff_kept (lamp : Lamp) (high : fullCombo ≤ lamp) :
    lamp ≤ classify score noteCount ladder candidates failed ↔
      failed = false ∧ noteCount ≠ 0 ∧
        (score.counts.pgreat.toNat = noteCount % UInt32.size ∨
          score.counts.pgreat.toNat + score.counts.great.toNat = noteCount % UInt32.size ∧
            lamp ≤ perfect ∨
          score.counts.pgreat.toNat + score.counts.great.toNat + score.counts.good.toNat =
              noteCount % UInt32.size ∧
            lamp ≤ fullCombo) := by
  have word : UInt32.size = 2 ^ 32 := rfl
  have greats : (score.counts.pgreat + score.counts.great).toNat =
      score.counts.pgreat.toNat + score.counts.great.toNat := by
    rw [UInt32.toNat_add]
    omega
  have hits : (score.counts.pgreat + score.counts.great + score.counts.good).toNat =
      score.counts.pgreat.toNat + score.counts.great.toNat + score.counts.good.toNat := by
    rw [UInt32.toNat_add, greats]
    omega
  rw [le_classify_iff high, word_eq_ofNat_iff, word_eq_ofNat_iff, word_eq_ofNat_iff, greats, hits]

theorem full_clear_kept :
    (classify score noteCount ladder candidates failed = max ↔
      failed = false ∧ noteCount ≠ 0 ∧
        score.counts.pgreat.toNat = noteCount % UInt32.size) ∧
    (classify score noteCount ladder candidates failed = perfect ↔
      failed = false ∧ noteCount ≠ 0 ∧ 0 < score.counts.great.toNat ∧
        score.counts.pgreat.toNat + score.counts.great.toNat = noteCount % UInt32.size) ∧
    (classify score noteCount ladder candidates failed = fullCombo ↔
      failed = false ∧ noteCount ≠ 0 ∧ 0 < score.counts.good.toNat ∧
        score.counts.pgreat.toNat + score.counts.great.toNat + score.counts.good.toNat =
          noteCount % UInt32.size) := by
  have reaches := le_classify_iff_kept few noteCount ladder candidates failed
  have best := reaches max (by decide)
  have good := reaches perfect (by decide)
  have full := reaches fullCombo (by decide)
  have order : ¬max ≤ perfect ∧ ¬max ≤ fullCombo ∧ ¬perfect ≤ fullCombo ∧ perfect ≤ perfect ∧
      fullCombo ≤ perfect ∧ fullCombo ≤ fullCombo := by decide
  simp only [order, and_false, or_false, and_true] at best good full
  rw [eq_perfect_iff, eq_fullCombo_iff, ← max_le_iff, best, good, full]
  cases failed with
  | true => simp
  | false =>
    simp only [true_and]
    omega

/-- With fewer than 2^32 notes a lamp of a full clear is given just for a play that has not failed
and in which every note was hit: as well as can be, or with some GREAT at worst, or some GOOD. -/
theorem full_clear_complete (size : noteCount < UInt32.size) :
    (classify score noteCount ladder candidates failed = max ↔
      failed = false ∧ 0 < noteCount ∧ score.counts.pgreat.toNat = noteCount) ∧
    (classify score noteCount ladder candidates failed = perfect ↔
      failed = false ∧ 0 < noteCount ∧ 0 < score.counts.great.toNat ∧
        score.counts.pgreat.toNat + score.counts.great.toNat = noteCount) ∧
    (classify score noteCount ladder candidates failed = fullCombo ↔
      failed = false ∧ 0 < noteCount ∧ 0 < score.counts.good.toNat ∧
        score.counts.pgreat.toNat + score.counts.great.toNat + score.counts.good.toNat =
          noteCount) := by
  have whole : noteCount % UInt32.size = noteCount := Nat.mod_eq_of_lt size
  have kept := full_clear_kept few noteCount ladder candidates failed
  rwa [whole, ← Nat.pos_iff_ne_zero] at kept

omit few

theorem full_clear_complete_of_one_great :
    let score : Score := { Score.zero with counts := ⟨9, 1, 0, 0, 0⟩ }
    let ladder := GaugeLadder.ofElements (GaugeElement.standard false) .groove 300.0 10
    score.counts.pgreat.toNat + score.counts.great.toNat + score.counts.good.toNat +
        score.counts.bad.toNat + score.counts.poor.toNat < UInt32.size ∧ 10 < UInt32.size ∧
      classify score 10 ladder [.groove] false = perfect ∧
      classify score 11 ladder [.groove] false ≠ perfect := by
  intro score ladder
  have few : score.counts.pgreat.toNat + score.counts.great.toNat + score.counts.good.toNat +
      score.counts.bad.toNat + score.counts.poor.toNat < UInt32.size := by decide
  obtain ⟨-, all, -⟩ := full_clear_complete few 10 ladder [.groove] false (by decide)
  obtain ⟨-, missing, -⟩ := full_clear_complete few 11 ladder [.groove] false (by decide)
  refine ⟨few, by decide, all.mpr (by decide), ?_⟩
  intro given
  exact absurd (missing.mp given) (by decide)

/-- Nothing is kept of 2^32 notes, so a play without a hit has the lamp of the best play. -/
theorem max_without_a_hit :
    let ladder := GaugeLadder.ofElements (GaugeElement.standard false) .groove 300.0 100
    let counts := Score.zero.counts
    counts.pgreat.toNat + counts.great.toNat + counts.good.toNat + counts.bad.toNat +
        counts.poor.toNat < UInt32.size ∧
      UInt32.size < UInt64.size ∧
      classify Score.zero UInt32.size ladder [.groove] false = max ∧
      ¬counts.pgreat.toNat = UInt32.size := by
  intro ladder counts
  have few : counts.pgreat.toNat + counts.great.toNat + counts.good.toNat + counts.bad.toNat +
      counts.poor.toNat < UInt32.size := by decide
  obtain ⟨best, -⟩ := full_clear_kept few UInt32.size ladder [.groove] false
  exact ⟨few, by decide, best.mpr (by decide), by decide⟩

end Lamp
end NoteChart
