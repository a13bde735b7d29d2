import NoteChart.Proofs.Gauge.Bounds
import NoteChart.Proofs.Play.Judging

/-!
Playing better never hurts a gauge without guts. If one play of it is at least as good as another at
every judgment, it ends at least as high: an update grows with the value it starts from and with the
judgment. Guts break this, since they soften the losses of the lower of two values.
-/
namespace NoteChart

open Binary64

def InstantDeath.IsFair (death : InstantDeath) : Prop :=
  ∀ (better worse : Judgment) (empty : Bool), better.rank ≤ worse.rank →
    death.kills better empty = true → death.kills worse empty = true

def Changes.IsFair (changes : Changes) : Prop :=
  ∀ (better worse : Judgment) (empty : Bool), better.rank ≤ worse.rank →
    changes.get worse empty ≤ changes.get better empty

theorem InstantDeath.isFair (death : InstantDeath) : death.IsFair := by
  intro better worse empty
  cases death <;> cases empty <;> cases better <;> cases worse <;> decide

namespace Gauge

/-- Without guts, and kinder to better judgments. -/
structure IsFair (g : Gauge) : Prop where
  guts : g.element.guts = []
  min_nonneg : 0.0 ≤ g.element.min
  border : IsNumber g.element.border
  changes : g.changes.IsFair

structure Ahead (ahead behind : Gauge) : Prop where
  element : behind.element = ahead.element
  changes : behind.changes = ahead.changes
  fair : ahead.IsFair
  kept : ahead.Kept
  kept_behind : behind.Kept
  order : behind.value ≤ ahead.value

theorem change_without_guts {g : Gauge} (none : g.element.guts = []) (judgment : Judgment)
    (empty : Bool) : g.change judgment empty = g.changes.get judgment empty := by
  have outcome := g.change_mem_outcomes judgment empty
  rwa [outcomes_without_guts none, List.mem_singleton] at outcome

namespace Ahead

variable {ahead behind : Gauge}

theorem guts_behind (lead : ahead.Ahead behind) : behind.element.guts = [] := by
  rw [lead.element, lead.fair.guts]

theorem dominates (lead : ahead.Ahead behind) : ahead.Dominates behind where
  softer := by
    intro judgment empty
    have same := lead.fair.changes judgment judgment empty (Nat.le_refl _)
    rw [outcomes_without_guts lead.fair.guts, outcomes_without_guts lead.guts_behind, lead.element,
      lead.changes]
    simp only [List.mem_singleton, forall_eq]
    exact ⟨id, (isNumber_of_le same).1, fun _ => same⟩
  same_min := by rw [lead.element]
  same_max := by rw [lead.element]
  border := by
    rw [lead.element]
    exact Binary64.le_refl lead.fair.border
  min_nonneg := lead.fair.min_nonneg
  max_finite := lead.kept.max_finite
  least := by
    rw [← lead.element]
    exact lead.kept_behind.least
  order := lead.order
  most := lead.kept.most

variable {better worse : Judgment}

theorem aim_le (lead : ahead.Ahead behind) (good : better.rank ≤ worse.rank) (empty : Bool) :
    behind.aim worse empty = 0.0 ∨ behind.aim worse empty ≤ ahead.aim better empty := by
  by_cases killed : behind.element.death.kills worse empty = true
  · exact Or.inl (if_pos killed)
  · have spared : ¬ahead.element.death.kills better empty = true := by
      intro kills
      apply killed
      rw [lead.element]
      exact ahead.element.death.isFair better worse empty good kills
    have changes := lead.fair.changes better worse empty good
    right
    unfold aim
    rw [if_neg killed, if_neg spared, change_without_guts lead.guts_behind,
      change_without_guts lead.fair.guts, lead.changes]
    exact Binary64.add_le_add lead.order changes lead.kept_behind.finite lead.kept.finite

theorem update (lead : ahead.Ahead behind) (good : better.rank ≤ worse.rank) (empty : Bool) :
    (ahead.update better empty).Ahead (behind.update worse empty) where
  element := by
    rw [(behind.update_element worse empty).1, (ahead.update_element better empty).1, lead.element]
  changes := by
    rw [(behind.update_element worse empty).2, (ahead.update_element better empty).2, lead.changes]
  fair := by
    obtain ⟨element, changes⟩ := ahead.update_element better empty
    have fair := lead.fair
    exact
      { guts := by rw [element]; exact fair.guts
        min_nonneg := by rw [element]; exact fair.min_nonneg
        border := by rw [element]; exact fair.border
        changes := by rw [changes]; exact fair.changes }
  kept := lead.kept.update better empty
  kept_behind := lead.kept_behind.update worse empty
  order := by
    rw [update_eq_setValue, update_eq_setValue]
    rcases lead.aim_le good empty with zero | below
    · rw [zero]
      exact lead.dominates.setValue_zero_le (lead.kept.isNumber_aim better empty)
    · exact lead.dominates.setValue_mono below

end Ahead

/-- At every hit the first play is at least as good as the second, and its press empty when that is. -/
def AtLeastAsGood (better worse : List (Judgment × Bool)) : Prop :=
  List.Forall₂ (fun b w => b.1.rank ≤ w.1.rank ∧ b.2 = w.2) better worse

theorem Ahead.run {ahead behind : Gauge} (lead : ahead.Ahead behind)
    {better worse : List (Judgment × Bool)} (good : AtLeastAsGood better worse) :
    (ahead.run better).Ahead (behind.run worse) := by
  induction good generalizing ahead behind with
  | nil => exact lead
  | @cons b w better worse hit rest ih =>
    apply ih
    change (ahead.update b.1 b.2).Ahead (behind.update w.1 w.2)
    rw [hit.2]
    exact lead.update hit.1 w.2

section Standard

variable {total : Float} {noteCount : Nat}

theorem light_isFair {changes : Changes} (nonneg : 0.0 ≤ total) (word : noteCount < UInt64.size)
    (finite : changes.Finite) (fair : changes.IsFair) :
    (ofElement (.light changes) total noteCount).IsFair where
  guts := rfl
  min_nonneg := show (0.0 : Float) ≤ 2.0 by decide
  border := show IsNumber 80.0 by decide
  changes := by
    intro better worse empty good
    simp only [ofElement, GaugeElement.light, if_true, Changes.get_map]
    exact scaleGain_mono nonneg word (fair better worse empty good) (finite worse empty)
      (finite better empty)

theorem survival_isFair {changes : Changes} (fair : changes.IsFair) (death : InstantDeath) :
    (ofElement (.survival changes [] death) total noteCount).IsFair where
  guts := rfl
  min_nonneg := show (0.0 : Float) ≤ 0.0 by decide
  border := show IsNumber 0.0 by decide
  changes := fair

theorem standard_isFair (emptyKills : Bool) (nonneg : 0.0 ≤ total) (word : noteCount < UInt64.size)
    {kind : GaugeKind} (plain : kind ≠ .hard ∧ kind ≠ .exHard) :
    (standard emptyKills total noteCount kind).IsFair := by
  cases kind with
  | assist | easy | groove =>
    apply light_isFair nonneg word
    · intro judgment empty
      cases empty <;> cases judgment <;> decide
    · intro better worse empty
      cases empty <;> cases better <;> cases worse <;> decide
  | hard => exact absurd rfl plain.1
  | exHard => exact absurd rfl plain.2
  | hazard =>
    apply survival_isFair
    intro better worse empty
    cases empty <;> cases better <;> cases worse <;> decide

end Standard
end Gauge

namespace GaugeLadder

/-- Of two plays of one chart the one that is at least as good at every hit ends with gauges at least
as high, guts apart. -/
theorem better_play_ends_higher (emptyKills : Bool) (active : GaugeKind) (total : Float)
    (noteCount : Nat) {better worse : List (Judgment × Bool)} (nonneg : 0.0 ≤ total)
    (word : noteCount < UInt64.size) (good : Gauge.AtLeastAsGood better worse) :
    let start := ofElements (GaugeElement.standard emptyKills) active total noteCount
    ∃ ahead behind, start.run? better = some ahead ∧ start.run? worse = some behind ∧
      ∀ kind ∈ [GaugeKind.assist, .easy, .groove, .hazard],
        behind.value kind ≤ ahead.value kind := by
  intro start
  have number : IsNumber total := (isNumber_of_le nonneg).2
  obtain ⟨ahead, reached, gauges⟩ := standard_run emptyKills active number word better
  obtain ⟨behind, reached', gauges'⟩ := standard_run emptyKills active number word worse
  refine ⟨ahead, behind, reached, reached', ?_⟩
  intro kind inside
  have plain : kind ≠ .hard ∧ kind ≠ .exHard := by
    constructor <;> rintro rfl <;> exact absurd inside (by decide)
  have kept := Gauge.standard_kept emptyKills kind number word
  have level : (Gauge.standard emptyKills total noteCount kind).Ahead
      (Gauge.standard emptyKills total noteCount kind) :=
    ⟨rfl, rfl, Gauge.standard_isFair emptyKills nonneg word plain, kept, kept,
      Binary64.le_refl (isNumber_of_finite kept.finite)⟩
  rw [value, value, gauges, gauges']
  exact (level.run good).order

theorem better_play_ends_higher_of_two_hits :
    let better := [(Judgment.great, false), (.poor, true), (.good, false)]
    let worse := [(Judgment.good, false), (.poor, true), (.poor, false)]
    let start := ofElements (GaugeElement.standard false) .groove 300.0 1000
    (0.0 : Float) ≤ 300.0 ∧ 1000 < UInt64.size ∧ Gauge.AtLeastAsGood better worse ∧
    ∃ ahead behind, start.run? better = some ahead ∧ start.run? worse = some behind ∧
      behind.value .groove ≤ ahead.value .groove ∧ behind.value .hazard ≤ ahead.value .hazard := by
  intro better worse start
  have nonneg : (0.0 : Float) ≤ 300.0 := by decide
  have word : 1000 < UInt64.size := by decide
  have good : Gauge.AtLeastAsGood better worse := by
    refine .cons ⟨by decide, rfl⟩ (.cons ⟨by decide, rfl⟩ (.cons ⟨by decide, rfl⟩ .nil))
  obtain ⟨ahead, behind, reached, reached', higher⟩ :=
    better_play_ends_higher false .groove 300.0 1000 nonneg word good
  exact ⟨nonneg, word, good, ahead, behind, reached, reached', higher .groove (by decide),
    higher .hazard (by decide)⟩

end GaugeLadder

/-- With guts the better play can end lower: it stops short of the softening. -/
example :
    let better := List.replicate 7 (Judgment.poor, false) ++ [(.bad, false), (.poor, false)]
    let worse := List.replicate 9 (Judgment.poor, false)
    ((Gauge.standard false 300.0 1000 .hard).run better).value <
      ((Gauge.standard false 300.0 1000 .hard).run worse).value := by
  decide +kernel

end NoteChart
