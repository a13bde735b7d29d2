import NoteChart.Proofs.Gauge.Dominance

/-!
How far the gauges of play with seven keys can go. A gain may be negative or infinite if the total
of the chart is, but it is always a number, and no gauge leaves its bounds. So a light gauge is never
at 0, and a survival gauge that comes to 0 is there for good; the strictest one comes there with the
first miss.
-/
namespace NoteChart

open Binary64

theorem isNumber_scaleGain {total c : Float} {noteCount : Nat} (number : IsNumber total)
    (word : noteCount < UInt64.size) (finite : c.isFinite = true) :
    IsNumber (scaleGain total noteCount c) := by
  by_cases gain : 0.0 < c
  · unfold scaleGain
    rw [if_pos gain]
    split
    · rename_i notes
      have product := mul_value (isNumber_of_finite finite) number
        (Or.inl (pos_iff.mp gain).2.ne') (Or.inr (isFinite_iff.mp finite).2)
      have count := isFinite_iff.mp (ofNat_isFinite word)
      exact (div_value product.1 count.1 (value_ofNat_ne_zero notes) (Or.inr count.2)).1
    · exact isNumber_zero
  · rw [scaleGain_of_loss gain]
    exact isNumber_of_finite finite

namespace Gauge

/-- A gauge within finite bounds, whatever judgment comes next. -/
structure Kept (g : Gauge) : Prop where
  min_finite : g.element.min.isFinite = true
  max_finite : g.element.max.isFinite = true
  changes : ∀ judgment empty, ∀ x ∈ g.outcomes judgment empty, IsNumber x
  least : g.element.min ≤ g.value
  most : g.value ≤ g.element.max

def run (g : Gauge) (hits : List (Judgment × Bool)) : Gauge :=
  hits.foldl (fun g hit => g.update hit.1 hit.2) g

variable {g : Gauge}

theorem run_append (g : Gauge) (first second : List (Judgment × Bool)) :
    g.run (first ++ second) = (g.run first).run second :=
  List.foldl_append

theorem update_element (g : Gauge) (judgment : Judgment) (empty : Bool) :
    (g.update judgment empty).element = g.element ∧
      (g.update judgment empty).changes = g.changes := by
  rw [update_eq_setValue, setValue_eq]
  exact ⟨rfl, rfl⟩

namespace Kept

theorem bounds (kept : g.Kept) : g.element.min ≤ g.element.max :=
  Binary64.le_trans kept.least kept.most

theorem isBounded (kept : g.Kept) : g.isBounded = true := by
  simp [Gauge.isBounded, kept.bounds]

theorem finite (kept : g.Kept) : g.value.isFinite = true :=
  isFinite_of_between kept.least kept.most kept.min_finite kept.max_finite

theorem isNumber_aim (kept : g.Kept) (judgment : Judgment) (empty : Bool) :
    IsNumber (g.aim judgment empty) := by
  unfold aim
  split
  · exact isNumber_zero
  · exact isNumber_add kept.finite (kept.changes _ _ _ (g.change_mem_outcomes judgment empty))

theorem setValue (kept : g.Kept) {x : Float} (number : IsNumber x) : (g.setValue x).Kept := by
  by_cases alive : g.isAlive = true
  · rw [setValue_alive alive]
    obtain ⟨least, most⟩ := within_between kept.bounds number
    exact ⟨kept.min_finite, kept.max_finite, kept.changes, least, most⟩
  · rwa [setValue_dead alive]

theorem update (kept : g.Kept) (judgment : Judgment) (empty : Bool) :
    (g.update judgment empty).Kept := by
  rw [update_eq_setValue]
  exact kept.setValue (kept.isNumber_aim judgment empty)

theorem isDead_iff (kept : g.Kept) (bottom : g.element.min = 0.0) :
    g.isDead = true ↔ (g.value == 0.0) = true := by
  have above : 0 ≤ Binary64.value g.value := (nonneg_iff.mp (bottom ▸ kept.least)).2
  have number := isNumber_of_finite kept.finite
  rw [beq_iff, isDead, decide_eq_true_iff, le_iff]
  simp only [number, isNumber_zero, value_zero, true_and]
  exact ⟨fun below => le_antisymm below above, le_of_eq⟩

theorem run (kept : g.Kept) (hits : List (Judgment × Bool)) : (g.run hits).Kept := by
  induction hits generalizing g with
  | nil => exact kept
  | cons hit rest ih => exact ih (kept.update hit.1 hit.2)

end Kept

theorem run_element (g : Gauge) (hits : List (Judgment × Bool)) :
    (g.run hits).element = g.element := by
  induction hits generalizing g with
  | nil => rfl
  | cons hit rest ih =>
    calc ((g.update hit.1 hit.2).run rest).element = (g.update hit.1 hit.2).element := ih _
      _ = g.element := (g.update_element hit.1 hit.2).1

theorem run_of_still {hits : List (Judgment × Bool)}
    (still : ∀ hit ∈ hits, g.update hit.1 hit.2 = g) : g.run hits = g := by
  induction hits with
  | nil => rfl
  | cons hit rest ih =>
    change (g.update hit.1 hit.2).run rest = g
    rw [still hit List.mem_cons_self]
    exact ih fun other inside => still other (List.mem_cons_of_mem _ inside)

theorem run_of_dead (dead : g.isDead = true) (hits : List (Judgment × Bool)) : g.run hits = g :=
  run_of_still fun hit _ => update_of_dead dead hit.1 hit.2

theorem run_of_kills (kept : g.Kept) (bounds : g.element.min = 0.0 ∧ g.element.max = 100.0)
    {hits : List (Judgment × Bool)} {hit : Judgment × Bool} (inside : hit ∈ hits)
    (kills : g.element.death.kills hit.1 hit.2 = true) : (g.run hits).isDead = true := by
  obtain ⟨front, back, rfl⟩ := List.append_of_mem inside
  have element := g.run_element front
  have dead : ((g.run front).update hit.1 hit.2).isDead = true := by
    apply update_kills (isNumber_of_finite (kept.run front).finite)
    · rwa [element]
    · rwa [element]
  rw [run_append]
  change (((g.run front).update hit.1 hit.2).run back).isDead = true
  rwa [run_of_dead dead]

end Gauge

section Standard

variable {total : Float} {noteCount : Nat}

theorem light_kept {changes : Changes} (number : IsNumber total) (word : noteCount < UInt64.size)
    (finite : changes.Finite) : (Gauge.ofElement (.light changes) total noteCount).Kept where
  min_finite := show (2.0 : Float).isFinite = true by decide
  max_finite := show (100.0 : Float).isFinite = true by decide
  changes := by
    intro judgment empty
    rw [Gauge.outcomes_without_guts rfl]
    simp only [Gauge.ofElement, GaugeElement.light, if_true, Changes.get_map, List.mem_singleton,
      forall_eq]
    exact isNumber_scaleGain number word (finite judgment empty)
  least := show (2.0 : Float) ≤ 20.0 by decide
  most := show (20.0 : Float) ≤ 100.0 by decide

theorem survival_kept {changes : Changes} {guts : List Guts} {death : InstantDeath}
    (numbers : ∀ judgment empty,
      ∀ x ∈ (Gauge.ofElement (.survival changes guts death) 0.0 0).outcomes judgment empty,
        IsNumber x) :
    (Gauge.ofElement (.survival changes guts death) total noteCount).Kept where
  min_finite := show (0.0 : Float).isFinite = true by decide
  max_finite := show (100.0 : Float).isFinite = true by decide
  changes := numbers
  least := show (0.0 : Float) ≤ 100.0 by decide
  most := show (100.0 : Float) ≤ 100.0 by decide

namespace Gauge

def standard (emptyKills : Bool) (total : Float) (noteCount : Nat) (kind : GaugeKind) : Gauge :=
  ofElement ((GaugeElement.standard emptyKills).get kind) total noteCount

variable {emptyKills : Bool} {kind : GaugeKind} {hits : List (Judgment × Bool)}

theorem standard_limits (emptyKills : Bool) (total : Float) (noteCount : Nat) (kind : GaugeKind) :
    (standard emptyKills total noteCount kind).element.min =
        (if kind.isSurvival then 0.0 else 2.0) ∧
      (standard emptyKills total noteCount kind).element.max = 100.0 := by
  cases kind <;> exact ⟨rfl, rfl⟩

theorem standard_kept (emptyKills : Bool) (kind : GaugeKind) (number : IsNumber total)
    (word : noteCount < UInt64.size) : (standard emptyKills total noteCount kind).Kept := by
  cases kind with
  | assist | easy | groove =>
    apply light_kept number word
    intro judgment empty
    cases empty <;> cases judgment <;> decide
  | hard | exHard | hazard =>
    apply survival_kept
    intro judgment empty
    cases emptyKills <;> cases empty <;> cases judgment <;> decide

theorem run_between (emptyKills : Bool) (number : IsNumber total) (word : noteCount < UInt64.size)
    (kind : GaugeKind) (hits : List (Judgment × Bool)) :
    let g := (standard emptyKills total noteCount kind).run hits
    (if kind.isSurvival then 0.0 else 2.0) ≤ g.value ∧ g.value ≤ 100.0 := by
  intro g
  have kept : g.Kept := (standard_kept emptyKills kind number word).run hits
  obtain ⟨bottom, top⟩ := standard_limits emptyKills total noteCount kind
  rw [← run_element _ hits] at bottom top
  rw [← bottom, ← top]
  exact ⟨kept.least, kept.most⟩

theorem light_between (emptyKills : Bool) (number : IsNumber total) (word : noteCount < UInt64.size)
    (light : kind.isSurvival = false) (hits : List (Judgment × Bool)) :
    let g := (standard emptyKills total noteCount kind).run hits
    2.0 ≤ g.value ∧ g.value ≤ 100.0 ∧ g.isDead = false := by
  intro g
  have kept : g.Kept := (standard_kept emptyKills kind number word).run hits
  obtain ⟨least, most⟩ := run_between emptyKills number word kind hits
  rw [if_neg (by simp [light])] at least
  have positive : 0.0 < g.value :=
    Binary64.lt_of_lt_of_le (by decide : (0.0 : Float) < 2.0) least
  have alive : g.isAlive = true := decide_eq_true positive
  exact ⟨least, most, (isAlive_iff (isNumber_of_finite kept.finite)).mp alive⟩

theorem survival_between (emptyKills : Bool) (number : IsNumber total)
    (word : noteCount < UInt64.size) (survival : kind.isSurvival = true)
    (hits : List (Judgment × Bool)) :
    let g := (standard emptyKills total noteCount kind).run hits
    0.0 ≤ g.value ∧ g.value ≤ 100.0 ∧ (g.value == 0.0 → ∀ later, g.run later = g) := by
  intro g
  have kept : g.Kept := (standard_kept emptyKills kind number word).run hits
  have bottom : g.element.min = 0.0 := by
    rw [run_element, (standard_limits emptyKills total noteCount kind).1, if_pos survival]
  obtain ⟨least, most⟩ := run_between emptyKills number word kind hits
  rw [if_pos survival] at least
  refine ⟨least, most, ?_⟩
  intro zero later
  exact run_of_dead ((kept.isDead_iff bottom).mpr zero) later

theorem hazard_killed (number : IsNumber total) (word : noteCount < UInt64.size)
    {hit : Judgment × Bool} (inside : hit ∈ hits)
    (kills : (standard emptyKills total noteCount .hazard).element.death.kills hit.1 hit.2 = true) :
    ((standard emptyKills total noteCount .hazard).run hits).value == 0.0 := by
  have kept := standard_kept emptyKills .hazard number word
  have limits : (standard emptyKills total noteCount .hazard).element.min = 0.0 ∧
    (standard emptyKills total noteCount .hazard).element.max = 100.0 := ⟨rfl, rfl⟩
  apply ((kept.run hits).isDead_iff (by rw [run_element, limits.1])).mp
  exact run_of_kills kept limits inside kills

theorem hazard_full (good : ∀ hit ∈ hits, hit.1 ≠ .bad ∧ hit.1 ≠ .poor ∧ hit.2 = false) :
    ((standard emptyKills total noteCount .hazard).run hits).value = 100.0 := by
  rw [run_of_still]
  · rfl
  · rintro ⟨judgment, empty⟩ inside
    obtain ⟨bad, poor, full⟩ := good _ inside
    obtain rfl : empty = false := full
    cases judgment with
    | pgreat | great | good => cases emptyKills <;> exact update_full rfl rfl _ _ _
    | bad => exact absurd rfl bad
    | poor => exact absurd rfl poor

end Gauge
end Standard

namespace GaugeLadder

theorem run?_of_kept {ladder : GaugeLadder} (kept : ∀ kind, (ladder.gauge kind).Kept)
    (hits : List (Judgment × Bool)) :
    ∃ final, ladder.run? hits = some final ∧
      ∀ kind, final.gauge kind = (ladder.gauge kind).run hits := by
  induction hits generalizing ladder with
  | nil => exact ⟨ladder, rfl, fun _ => rfl⟩
  | cons hit rest ih =>
    have next : ∀ kind, ((ladder.update hit.1 hit.2).gauge kind).Kept := by
      intro kind
      rw [gauge_update]
      exact (kept kind).update hit.1 hit.2
    obtain ⟨final, reached, gauges⟩ := ih next
    refine ⟨final, ?_, ?_⟩
    · unfold run? at reached ⊢
      rw [List.foldlM_cons, update?_of_isBounded (fun kind => (kept kind).isBounded) hit.1 hit.2]
      exact reached
    · intro kind
      rw [gauges, gauge_update]
      rfl

theorem standard_run (emptyKills : Bool) (active : GaugeKind) {total : Float} {noteCount : Nat}
    (number : IsNumber total) (word : noteCount < UInt64.size) (hits : List (Judgment × Bool)) :
    ∃ ladder,
      (ofElements (GaugeElement.standard emptyKills) active total noteCount).run? hits =
        some ladder ∧
      ∀ kind, ladder.gauge kind = (Gauge.standard emptyKills total noteCount kind).run hits := by
  have start : ∀ kind,
      (ofElements (GaugeElement.standard emptyKills) active total noteCount).gauge kind =
        Gauge.standard emptyKills total noteCount kind := by
    intro kind
    exact ofElements_gauge _ _ kind _ _
  have kept : ∀ kind,
      ((ofElements (GaugeElement.standard emptyKills) active total noteCount).gauge kind).Kept := by
    intro kind
    rw [start]
    exact Gauge.standard_kept emptyKills kind number word
  obtain ⟨ladder, reached, gauges⟩ := run?_of_kept kept hits
  refine ⟨ladder, reached, ?_⟩
  intro kind
  rw [gauges, start]

/-- However a play goes and whatever the total of the chart is, no update of the standard gauges is
refused and every gauge stays within its bounds: a light one between 2 and 100, so that it never dies,
and one that needs survival between 0 and 100, where 0 is for good. The strictest is at 0 after a miss.
If empty presses kill it too, it is full up to the first of either, and at 0 from there on. -/
theorem standard_bounded (emptyKills : Bool) (active : GaugeKind) (total : Float)
    (noteCount : Nat) (hits : List (Judgment × Bool)) (number : total.isNaN = false)
    (word : noteCount < UInt64.size) :
    ∃ ladder,
      (ofElements (GaugeElement.standard emptyKills) active total noteCount).run? hits =
        some ladder ∧
      (∀ kind, (ladder.value kind).isNaN = false) ∧
      (∀ kind, kind.isSurvival = false →
        2.0 ≤ ladder.value kind ∧ ladder.value kind ≤ 100.0 ∧
          (ladder.gauge kind).isDead = false) ∧
      (∀ kind, kind.isSurvival = true →
        0.0 ≤ ladder.value kind ∧ ladder.value kind ≤ 100.0 ∧
          (ladder.value kind == 0.0 → ∀ later, ∃ final, ladder.run? later = some final ∧
            final.value kind = ladder.value kind)) ∧
      ((.bad, false) ∈ hits ∨ (.poor, false) ∈ hits → ladder.value .hazard == 0.0) ∧
      (emptyKills = true →
        ((∀ hit ∈ hits, hit.1 ≠ .bad ∧ hit.1 ≠ .poor ∧ hit.2 = false) →
          ladder.value .hazard = 100.0) ∧
        ((∃ hit ∈ hits, hit.1 = .bad ∨ hit.1 = .poor ∨ hit.2 = true) →
          ladder.value .hazard == 0.0)) := by
  obtain ⟨ladder, reached, gauges⟩ := standard_run emptyKills active number word hits
  have kept : ∀ kind, (ladder.gauge kind).Kept := by
    intro kind
    rw [gauges]
    exact (Gauge.standard_kept emptyKills kind number word).run hits
  refine ⟨ladder, reached, ?_, ?_, ?_, ?_, ?_⟩
  · exact fun kind => isNumber_of_finite (kept kind).finite
  · intro kind light
    rw [value, gauges]
    exact Gauge.light_between emptyKills number word light hits
  · intro kind survival
    obtain ⟨least, most, lasting⟩ :=
      Gauge.survival_between emptyKills number word survival hits
    simp only [value, gauges]
    refine ⟨least, most, ?_⟩
    intro zero later
    obtain ⟨final, after, others⟩ := run?_of_kept kept later
    exact ⟨final, after, by rw [others, gauges, lasting zero]⟩
  · simp only [value, gauges]
    rintro (bad | poor)
    · exact Gauge.hazard_killed number word bad (by cases emptyKills <;> rfl)
    · exact Gauge.hazard_killed number word poor (by cases emptyKills <;> rfl)
  · rintro rfl
    simp only [value, gauges]
    refine ⟨Gauge.hazard_full, ?_⟩
    rintro ⟨⟨judgment, empty⟩, inside, (rfl | rfl | rfl)⟩
    · exact Gauge.hazard_killed number word inside (by cases empty <;> rfl)
    · exact Gauge.hazard_killed number word inside (by cases empty <;> rfl)
    · exact Gauge.hazard_killed number word inside rfl

theorem standard_bounded_of_negative_total :
    let total : Float := -1.0 / 0.0
    let hits := [(Judgment.pgreat, false), (.great, false), (.poor, true)]
    total.isNaN = false ∧ 100 < UInt64.size ∧
    ∃ ladder, (ofElements (GaugeElement.standard true) .groove total 100).run? hits = some ladder ∧
      2.0 ≤ ladder.value .assist ∧ ladder.value .hazard == 0.0 := by
  intro total hits
  have number : total.isNaN = false := by decide
  have word : 100 < UInt64.size := by decide
  obtain ⟨ladder, reached, -, light, -, -, strict⟩ :=
    standard_bounded true .groove total 100 hits number word
  refine ⟨number, word, ladder, reached, (light .assist rfl).1, ?_⟩
  exact (strict rfl).2 ⟨(.poor, true), by simp [hits], Or.inr (Or.inr rfl)⟩

end GaugeLadder
end NoteChart
