import NoteChart.Chart.Compile
import NoteChart.Proofs.Gauge.Update

/-!
Order among the gauges of play with seven keys. The three light gauges stay in the order of their
kinds, and so do the three survival gauges: no run of judgments brings a stricter gauge above a
looser one. One gauge alone is not monotone, since guts can soften the loss of the lower of two
values; two different gauges are compared by all the changes they may ever make.
-/
namespace NoteChart

open Binary64

theorem Changes.get_map (f : Float → Float) (changes : Changes) (judgment : Judgment)
    (empty : Bool) : (changes.map f).get judgment empty = f (changes.get judgment empty) := by
  cases empty
  · cases judgment <;> rfl
  · rfl

section ScaleGain

variable {total c d : Float} {noteCount : Nat}

theorem scaleGain_of_loss (loss : ¬0.0 < c) : scaleGain total noteCount c = c := if_neg loss

theorem scaleGain_nonneg (nonneg : 0.0 ≤ total) (word : noteCount < UInt64.size) (gain : 0.0 < c)
    (finite : c.isFinite = true) : 0.0 ≤ scaleGain total noteCount c := by
  unfold scaleGain
  rw [if_pos gain]
  split
  · rename_i notes
    exact Binary64.div_nonneg (pos_mul_nonneg gain finite nonneg) (ofNat_pos notes)
      (ofNat_isFinite word)
  · exact Binary64.le_refl isNumber_zero

theorem scaleGain_mono (nonneg : 0.0 ≤ total) (word : noteCount < UInt64.size) (below : c ≤ d)
    (hc : c.isFinite = true) (hd : d.isFinite = true) :
    scaleGain total noteCount c ≤ scaleGain total noteCount d := by
  have zero := Binary64.le_refl isNumber_zero
  by_cases gain : 0.0 < c
  · have gain' : 0.0 < d := Binary64.lt_of_lt_of_le gain below
    unfold scaleGain
    rw [if_pos gain, if_pos gain']
    split
    · rename_i notes
      exact Binary64.div_le_div (Binary64.mul_le_mul below gain hc hd nonneg) (ofNat_pos notes)
        (ofNat_isFinite word)
    · exact zero
  · rw [scaleGain_of_loss gain]
    by_cases gain' : 0.0 < d
    · have loss : c ≤ 0.0 := (Binary64.not_lt isNumber_zero (isNumber_of_finite hc)).mp gain
      exact Binary64.le_trans loss (scaleGain_nonneg nonneg word gain' hd)
    · rwa [scaleGain_of_loss gain']

end ScaleGain

theorem defaultTotal_nonneg (noteCount : Nat) : 0.0 ≤ defaultTotal noteCount := by
  have count := ofNat_nonneg noteCount
  have spare : IsNumber (Float.ofNat noteCount - 400.0) :=
    isNumber_sub (ofNat_value noteCount).1 (by decide)
  have extra := (within_between (a := 0.0) (b := 200.0) (by decide) spare).1
  have sum := Binary64.le_trans count (Binary64.le_add_of_nonneg count extra)
  have scaled := Binary64.mul_nonneg (y := 0.16) sum (by decide) (by decide)
  exact Binary64.le_trans (by decide) (Binary64.le_add_of_nonneg (by decide) scaled)

theorem Source.total_nonneg (source : Source) (noteCount : Nat) :
    0.0 ≤ source.total noteCount := by
  have default := defaultTotal_nonneg noteCount
  unfold Source.total
  split
  · split
    · rename_i positive
      exact Binary64.le_of_lt positive
    · exact default
  · exact default

namespace Gauge

def outcomes (g : Gauge) (judgment : Judgment) (empty : Bool) : List Float :=
  let base := g.changes.get judgment empty
  base :: if base < 0.0 then g.element.guts.map fun guts => base * guts.multiplier else []

theorem change_mem_outcomes (g : Gauge) (judgment : Judgment) (empty : Bool) :
    g.change judgment empty ∈ g.outcomes judgment empty := by
  unfold change outcomes
  generalize g.changes.get judgment empty = base
  by_cases loss : base < 0.0
  · simp only [if_pos loss]
    cases found : g.gutsFactor? with
    | none => exact List.mem_cons_self
    | some factor =>
      obtain ⟨guts, inside, rfl⟩ := Option.map_eq_some_iff.mp found
      exact List.mem_cons_of_mem _ (List.mem_map.mpr ⟨guts, List.mem_of_find?_eq_some inside, rfl⟩)
  · simp only [if_neg loss]
    exact List.mem_cons_self

theorem outcomes_without_guts {g : Gauge} (none : g.element.guts = []) (judgment : Judgment)
    (empty : Bool) : g.outcomes judgment empty = [g.changes.get judgment empty] := by
  unfold outcomes
  rw [none]
  simp

/-- No judgment is harder on `loose` than on `strict`, whatever their values are. -/
def Softer (loose strict : Gauge) : Prop :=
  ∀ judgment empty,
    (loose.element.death.kills judgment empty = true →
      strict.element.death.kills judgment empty = true) ∧
    (∀ y ∈ loose.outcomes judgment empty, IsNumber y) ∧
    (strict.element.death.kills judgment empty = false →
      ∀ x ∈ strict.outcomes judgment empty, ∀ y ∈ loose.outcomes judgment empty, x ≤ y)

/-- Both gauges lie within the same bounds, the strict one not above the loose one. -/
structure Dominates (loose strict : Gauge) : Prop where
  softer : Softer loose strict
  same_min : strict.element.min = loose.element.min
  same_max : strict.element.max = loose.element.max
  border : loose.element.border ≤ strict.element.border
  min_nonneg : 0.0 ≤ loose.element.min
  max_finite : loose.element.max.isFinite = true
  least : loose.element.min ≤ strict.value
  order : strict.value ≤ loose.value
  most : loose.value ≤ loose.element.max

namespace Dominates

variable {loose strict : Gauge}

theorem bounds (dominates : Dominates loose strict) : loose.element.min ≤ loose.element.max :=
  Binary64.le_trans dominates.least (Binary64.le_trans dominates.order dominates.most)

theorem finite (dominates : Dominates loose strict) :
    strict.value.isFinite = true ∧ loose.value.isFinite = true := by
  have low := Binary64.le_trans dominates.min_nonneg dominates.least
  exact ⟨isFinite_of_between low (Binary64.le_trans dominates.order dominates.most) (by decide)
      dominates.max_finite,
    isFinite_of_between (Binary64.le_trans low dominates.order) dominates.most (by decide)
      dominates.max_finite⟩

theorem isAlive_of_strict (dominates : Dominates loose strict) (alive : strict.isAlive = true) :
    loose.isAlive = true := by
  have positive : 0.0 < strict.value := by simpa [isAlive] using alive
  exact decide_eq_true (Binary64.lt_of_lt_of_le positive dominates.order)

theorem not_isDead (dominates : Dominates loose strict) (alive : strict.isAlive = true) :
    loose.isDead = false := by
  have positive : 0.0 < loose.value := by
    simpa [isAlive] using dominates.isAlive_of_strict alive
  have number := isNumber_of_finite dominates.finite.2
  exact decide_eq_false fun dead =>
    (Binary64.not_lt isNumber_zero number).mpr dead positive

theorem isQualified_of_strict (dominates : Dominates loose strict)
    (qualified : strict.isQualified = true) : loose.isQualified = true := by
  simp only [isQualified, Bool.and_eq_true, decide_eq_true_eq] at qualified ⊢
  obtain ⟨alive, reached⟩ := qualified
  exact ⟨dominates.isAlive_of_strict alive,
    Binary64.le_trans dominates.border (Binary64.le_trans reached dominates.order)⟩

theorem setValue_between (dominates : Dominates loose strict) {x : Float} (hx : IsNumber x) :
    (loose.element.min ≤ (strict.setValue x).value ∧
      (strict.setValue x).value ≤ loose.element.max) ∧
    (loose.element.min ≤ (loose.setValue x).value ∧
      (loose.setValue x).value ≤ loose.element.max) := by
  have bounds := dominates.bounds
  constructor
  · by_cases alive : strict.isAlive = true
    · rw [setValue_alive alive, dominates.same_min, dominates.same_max]
      exact within_between bounds hx
    · rw [setValue_dead alive]
      exact ⟨dominates.least, Binary64.le_trans dominates.order dominates.most⟩
  · by_cases alive : loose.isAlive = true
    · rw [setValue_alive alive]
      exact within_between bounds hx
    · rw [setValue_dead alive]
      exact ⟨Binary64.le_trans dominates.least dominates.order, dominates.most⟩

theorem le_min_of_dead (dominates : Dominates loose strict) (dead : ¬strict.isAlive = true) :
    strict.value ≤ loose.element.min := by
  have nonpos : ¬0.0 < strict.value := by simpa [isAlive] using dead
  have number := isNumber_of_finite dominates.finite.1
  exact Binary64.le_trans ((Binary64.not_lt isNumber_zero number).mp nonpos) dominates.min_nonneg

theorem setValue_mono (dominates : Dominates loose strict) {x y : Float} (below : x ≤ y) :
    (strict.setValue x).value ≤ (loose.setValue y).value := by
  obtain ⟨low, high⟩ := isNumber_of_le dominates.bounds
  by_cases alive : strict.isAlive = true
  · rw [setValue_alive alive, setValue_alive (dominates.isAlive_of_strict alive),
      dominates.same_min, dominates.same_max]
    exact within_mono low high below
  · rw [setValue_dead alive]
    exact Binary64.le_trans (dominates.le_min_of_dead alive)
      (dominates.setValue_between (isNumber_of_le below).2).2.1

/-- An emptied gauge is at its lower bound, below all that another may be brought to. -/
theorem setValue_zero_le (dominates : Dominates loose strict) {y : Float} (hy : IsNumber y) :
    (strict.setValue 0.0).value ≤ (loose.setValue y).value := by
  have target := (dominates.setValue_between hy).2.1
  obtain ⟨low, high⟩ := isNumber_of_le dominates.bounds
  by_cases alive : strict.isAlive = true
  · refine Binary64.le_trans ?_ target
    rw [setValue_alive alive, dominates.same_min, dominates.same_max]
    refine Binary64.le_trans (within_mono low high dominates.min_nonneg) ?_
    have same := (within_value low high low).2
    rw [max_self, min_eq_right (le_iff.mp dominates.bounds).2.2] at same
    exact le_iff.mpr ⟨(within_value low high low).1, low, same.le⟩
  · rw [setValue_dead alive]
    exact Binary64.le_trans (dominates.le_min_of_dead alive) target

theorem aim_cases (dominates : Dominates loose strict) (judgment : Judgment) (empty : Bool) :
    IsNumber (loose.aim judgment empty) ∧
      (strict.aim judgment empty = 0.0 ∨
        strict.aim judgment empty ≤ loose.aim judgment empty) := by
  obtain ⟨kills, numbers, ordered⟩ := dominates.softer judgment empty
  have change := numbers _ (loose.change_mem_outcomes judgment empty)
  unfold aim
  by_cases strict_dies : strict.element.death.kills judgment empty = true
  · rw [if_pos strict_dies]
    refine ⟨?_, Or.inl rfl⟩
    split
    · exact isNumber_zero
    · exact isNumber_add dominates.finite.2 change
  · have loose_lives : ¬loose.element.death.kills judgment empty = true :=
      fun dies => strict_dies (kills dies)
    rw [if_neg strict_dies, if_neg loose_lives]
    have changes := ordered (by simpa using strict_dies) _
      (strict.change_mem_outcomes judgment empty) _ (loose.change_mem_outcomes judgment empty)
    exact ⟨isNumber_add dominates.finite.2 change,
      Or.inr (Binary64.add_le_add dominates.order changes dominates.finite.1 dominates.finite.2)⟩

theorem update (dominates : Dominates loose strict) (judgment : Judgment) (empty : Bool) :
    Dominates (loose.update judgment empty) (strict.update judgment empty) := by
  obtain ⟨number, cases⟩ := dominates.aim_cases judgment empty
  have number' : IsNumber (strict.aim judgment empty) := by
    rcases cases with zero | below
    · rw [zero]
      exact isNumber_zero
    · exact (isNumber_of_le below).1
  have order : (strict.setValue (strict.aim judgment empty)).value ≤
      (loose.setValue (loose.aim judgment empty)).value := by
    rcases cases with zero | below
    · rw [zero]
      exact dominates.setValue_zero_le number
    · exact dominates.setValue_mono below
  rw [update_eq_setValue, update_eq_setValue, setValue_eq, setValue_eq strict]
  exact
    { softer := dominates.softer
      same_min := dominates.same_min
      same_max := dominates.same_max
      border := dominates.border
      min_nonneg := dominates.min_nonneg
      max_finite := dominates.max_finite
      least := (dominates.setValue_between number').1.1
      order
      most := (dominates.setValue_between number).2.2 }

end Dominates
end Gauge
section Standard

variable {total : Float} {noteCount : Nat}

def Changes.Below (strict loose : Changes) : Prop :=
  ∀ judgment empty, strict.get judgment empty ≤ loose.get judgment empty

def Changes.Finite (changes : Changes) : Prop :=
  ∀ judgment empty, (changes.get judgment empty).isFinite = true

theorem light_dominates {loose strict : Changes} (nonneg : 0.0 ≤ total)
    (word : noteCount < UInt64.size) (below : strict.Below loose) (finite : loose.Finite)
    (finite' : strict.Finite) :
    (Gauge.ofElement (.light loose) total noteCount).Dominates
      (Gauge.ofElement (.light strict) total noteCount) where
  softer := by
    intro judgment empty
    have scaled := scaleGain_mono nonneg word (below judgment empty) (finite' judgment empty)
      (finite judgment empty)
    rw [Gauge.outcomes_without_guts rfl, Gauge.outcomes_without_guts rfl]
    simp only [Gauge.ofElement, GaugeElement.light, if_true, Changes.get_map, List.mem_singleton,
      forall_eq]
    exact ⟨id, (isNumber_of_le scaled).2, fun _ => scaled⟩
  same_min := rfl
  same_max := rfl
  border := show (80.0 : Float) ≤ 80.0 by decide
  min_nonneg := show (0.0 : Float) ≤ 2.0 by decide
  max_finite := show (100.0 : Float).isFinite = true by decide
  least := show (2.0 : Float) ≤ 20.0 by decide
  order := show (20.0 : Float) ≤ 20.0 by decide
  most := show (20.0 : Float) ≤ 100.0 by decide

theorem survival_dominates {loose strict : Changes} {guts guts' : List Guts}
    {death death' : InstantDeath}
    (softer : (Gauge.ofElement (.survival loose guts death) 0.0 0).Softer
      (Gauge.ofElement (.survival strict guts' death') 0.0 0)) :
    (Gauge.ofElement (.survival loose guts death) total noteCount).Dominates
      (Gauge.ofElement (.survival strict guts' death') total noteCount) where
  softer := softer
  same_min := rfl
  same_max := rfl
  border := show (0.0 : Float) ≤ 0.0 by decide
  min_nonneg := show (0.0 : Float) ≤ 0.0 by decide
  max_finite := show (100.0 : Float).isFinite = true by decide
  least := show (0.0 : Float) ≤ 100.0 by decide
  order := show (100.0 : Float) ≤ 100.0 by decide
  most := show (100.0 : Float) ≤ 100.0 by decide

theorem standard_dominates (emptyKills : Bool) (nonneg : 0.0 ≤ total)
    (word : noteCount < UInt64.size) {loose strict : GaugeKind} (below : loose < strict)
    (family : loose.isSurvival = strict.isSurvival) :
    (Gauge.ofElement ((GaugeElement.standard emptyKills).get loose) total noteCount).Dominates
      (Gauge.ofElement ((GaugeElement.standard emptyKills).get strict) total noteCount) := by
  -- light gauges differ by fixed changes; of survival gauges all outcomes are compared, since guts
  -- may soften one and not the other
  cases loose <;> cases strict <;> first
    | exact absurd below (by decide)
    | exact absurd family (by decide)
    | refine light_dominates nonneg word ?_ ?_ ?_ <;> intro judgment empty <;>
        cases empty <;> cases judgment <;> decide
    | refine survival_dominates ?_
      intro judgment empty
      cases emptyKills <;> cases empty <;> cases judgment <;> decide

end Standard

namespace GaugeLadder

def IsOrdered (ladder : GaugeLadder) : Prop :=
  ∀ loose strict : GaugeKind, loose < strict → loose.isSurvival = strict.isSurvival →
    (ladder.gauge loose).Dominates (ladder.gauge strict)

theorem IsOrdered.update {ladder : GaugeLadder} (ordered : ladder.IsOrdered) (judgment : Judgment)
    (empty : Bool) : (ladder.update judgment empty).IsOrdered := by
  intro loose strict below family
  rw [gauge_update, gauge_update]
  exact (ordered loose strict below family).update judgment empty

theorem IsOrdered.forall_gauge {ladder : GaugeLadder} {P : Gauge → Prop} (ordered : ladder.IsOrdered)
    (pair : ∀ loose strict : Gauge, loose.Dominates strict → P loose ∧ P strict)
    (kind : GaugeKind) : P (ladder.gauge kind) := by
  cases kind with
  | assist => exact (pair _ _ (ordered .assist .easy (by decide) rfl)).1
  | easy => exact (pair _ _ (ordered .assist .easy (by decide) rfl)).2
  | groove => exact (pair _ _ (ordered .assist .groove (by decide) rfl)).2
  | hard => exact (pair _ _ (ordered .hard .exHard (by decide) rfl)).1
  | exHard => exact (pair _ _ (ordered .hard .exHard (by decide) rfl)).2
  | hazard => exact (pair _ _ (ordered .hard .hazard (by decide) rfl)).2

theorem IsOrdered.isBounded {ladder : GaugeLadder} (ordered : ladder.IsOrdered)
    (kind : GaugeKind) : (ladder.gauge kind).isBounded = true := by
  refine ordered.forall_gauge (P := fun g => g.isBounded = true) ?_ kind
  intro loose strict pair
  have strict_bounds := pair.bounds
  rw [← pair.same_min, ← pair.same_max] at strict_bounds
  simp [Gauge.isBounded, pair.bounds, strict_bounds]

theorem IsOrdered.isNumber {ladder : GaugeLadder} (ordered : ladder.IsOrdered)
    (kind : GaugeKind) : IsNumber (ladder.gauge kind).value := by
  refine ordered.forall_gauge (P := fun g => IsNumber g.value) ?_ kind
  intro loose strict pair
  exact ⟨isNumber_of_finite pair.finite.2, isNumber_of_finite pair.finite.1⟩

theorem update?_of_isBounded {ladder : GaugeLadder}
    (bounded : ∀ kind, (ladder.gauge kind).isBounded = true) (judgment : Judgment) (empty : Bool) :
    ladder.update? judgment empty = some (ladder.update judgment empty) := by
  refine if_pos (List.all_eq_true.mpr ?_)
  intro g inside
  simp only [PerGauge.toList, List.mem_cons, List.not_mem_nil, or_false] at inside
  rcases inside with rfl | rfl | rfl | rfl | rfl | rfl
  · exact bounded .assist
  · exact bounded .easy
  · exact bounded .groove
  · exact bounded .hard
  · exact bounded .exHard
  · exact bounded .hazard

def run? (ladder : GaugeLadder) (hits : List (Judgment × Bool)) : Option GaugeLadder :=
  hits.foldlM (fun l hit => l.update? hit.1 hit.2) ladder

theorem IsOrdered.run {ladder : GaugeLadder} (ordered : ladder.IsOrdered)
    (hits : List (Judgment × Bool)) : ∃ final, ladder.run? hits = some final ∧ final.IsOrdered := by
  induction hits generalizing ladder with
  | nil => exact ⟨ladder, rfl, ordered⟩
  | cons hit rest ih =>
    obtain ⟨final, reached, kept⟩ := ih (ordered.update hit.1 hit.2)
    refine ⟨final, ?_, kept⟩
    unfold run? at reached ⊢
    rw [List.foldlM_cons, update?_of_isBounded ordered.isBounded hit.1 hit.2]
    exact reached

theorem standard_isOrdered (emptyKills : Bool) (active : GaugeKind) {total : Float}
    {noteCount : Nat} (nonneg : 0.0 ≤ total) (word : noteCount < UInt64.size) :
    (ofElements (GaugeElement.standard emptyKills) active total noteCount).IsOrdered := by
  intro loose strict below family
  rw [ofElements_gauge, ofElements_gauge]
  exact standard_dominates emptyKills nonneg word below family

/-- However a play goes, no update of the standard gauges is refused, and in each family the value
of a stricter gauge stays at or below that of a looser one: a stricter gauge does not live on after
a looser one, and is not qualified before it. The totals of all charts are covered. -/
theorem standard_dominance (emptyKills : Bool) (active : GaugeKind) (total : Float)
    (noteCount : Nat) (hits : List (Judgment × Bool)) (nonneg : 0.0 ≤ total)
    (word : noteCount < UInt64.size) :
    (∀ source : Source, 0.0 ≤ (Chart.ofSource source).total) ∧
    ∃ ladder,
      (ofElements (GaugeElement.standard emptyKills) active total noteCount).run? hits =
        some ladder ∧
      ∀ loose strict : GaugeKind, loose < strict → loose.isSurvival = strict.isSurvival →
        ladder.value strict ≤ ladder.value loose ∧
        ((ladder.gauge strict).isAlive = true →
          (ladder.gauge loose).isAlive = true ∧ (ladder.gauge loose).isDead = false) ∧
        ((ladder.gauge strict).isQualified = true → (ladder.gauge loose).isQualified = true) := by
  refine ⟨fun source => source.total_nonneg _, ?_⟩
  obtain ⟨final, reached, kept⟩ := (standard_isOrdered emptyKills active nonneg word).run hits
  refine ⟨final, reached, ?_⟩
  intro loose strict below family
  have pair := kept loose strict below family
  exact ⟨pair.order, fun alive => ⟨pair.isAlive_of_strict alive, pair.not_isDead alive⟩,
    pair.isQualified_of_strict⟩

theorem standard_dominance_of_short_play :
    (0.0 : Float) ≤ 260.0 ∧ 1000 < UInt64.size ∧
    ∃ ladder, (ofElements (GaugeElement.standard true) .hazard 260.0 1000).run?
        [(.pgreat, false), (.great, false), (.poor, false), (.poor, true)] = some ladder ∧
      ladder.value .groove ≤ ladder.value .easy ∧ ladder.value .hazard ≤ ladder.value .exHard := by
  have nonneg : (0.0 : Float) ≤ 260.0 := by decide
  have word : 1000 < UInt64.size := by decide
  obtain ⟨-, ladder, reached, pairs⟩ := standard_dominance true .hazard 260.0 1000
    [(.pgreat, false), (.great, false), (.poor, false), (.poor, true)] nonneg word
  exact ⟨nonneg, word, ladder, reached, (pairs .easy .groove (by decide) rfl).1,
    (pairs .exHard .hazard (by decide) rfl).1⟩

end GaugeLadder

end NoteChart
