import NoteChart.Proofs.Gauge.Dominance
import NoteChart.Proofs.Play.FullCombo
import Mathlib.Order.Bounds.Defs

/-!
Clears by gauge. A play short of a full combo has the lamp of the strictest allowed gauge that is
cleared. A survival gauge is cleared by being alive, and all above the active one are dead; a light
gauge is cleared at 80 or more. The strictest gauge of all outlives no miss, so to end on it is to
have a full combo.
-/
namespace NoteChart

open Binary64

theorem Chart.IsCompiled.total_nonneg {chart : Chart} (compiled : chart.IsCompiled) :
    0.0 ≤ chart.total := by
  obtain ⟨source, md5, sha256, rfl⟩ := compiled
  exact source.total_nonneg _

namespace GaugeKind

theorem strictest?_concat (kinds : List GaugeKind) (kind : GaugeKind) :
    strictest? (kinds ++ [kind]) =
      match strictest? kinds with
      | some best => if best < kind then some kind else some best
      | none => some kind := by
  unfold strictest?
  rw [List.foldl_append]
  rfl

theorem strictest?_spec (kinds : List GaugeKind) :
    match strictest? kinds with
    | some kind => IsGreatest {k | k ∈ kinds} kind
    | none => kinds = [] := by
  induction kinds using List.reverseRecOn with
  | nil => rfl
  | append_singleton kinds kind ih =>
    rw [strictest?_concat]
    cases found : strictest? kinds with
    | none =>
      rw [found] at ih
      simp [ih, IsGreatest, upperBounds, le_iff_rank]
    | some best =>
      rw [found] at ih
      obtain ⟨inside, most⟩ := ih
      dsimp only
      split_ifs with higher
      · refine ⟨by simp, ?_⟩
        intro k member
        rcases List.mem_append.mp member with before | last
        · exact Nat.le_trans (most before) (Nat.le_of_lt higher)
        · rw [List.mem_singleton.mp last]
          exact Nat.le_refl _
      · refine ⟨List.mem_append_left _ inside, ?_⟩
        intro k member
        rcases List.mem_append.mp member with before | last
        · exact most before
        · rw [List.mem_singleton.mp last]
          exact Nat.le_of_not_lt higher

theorem strictest?_eq_some_iff {kinds : List GaugeKind} {kind : GaugeKind} :
    strictest? kinds = some kind ↔ IsGreatest {k | k ∈ kinds} kind := by
  have spec := strictest?_spec kinds
  constructor
  · intro found
    rwa [found] at spec
  · rintro ⟨inside, most⟩
    cases found : strictest? kinds with
    | none =>
      rw [found] at spec
      rw [spec] at inside
      cases inside
    | some best =>
      rw [found] at spec
      exact congrArg some (rank_injective (Nat.le_antisymm (most spec.1) (spec.2 inside)))

theorem strictest?_eq_none_iff {kinds : List GaugeKind} : strictest? kinds = none ↔ kinds = [] := by
  constructor
  · intro missed
    have spec := strictest?_spec kinds
    rwa [missed] at spec
  · rintro rfl
    rfl

end GaugeKind

namespace Gauge

variable {g : Gauge}

theorem isQualified_iff_border (border : 0.0 < g.element.border) :
    g.isQualified = true ↔ g.element.border ≤ g.value := by
  simp only [isQualified, isAlive, Bool.and_eq_true, decide_eq_true_eq, and_iff_right_iff_imp]
  exact fun reached => Binary64.lt_of_lt_of_le border reached

theorem not_isQualified_of_dead (dead : g.isDead = true) : ¬g.isQualified = true := by
  simp [isQualified, not_alive_of_dead dead]

end Gauge

namespace GaugeLadder

/-- The standard gauges at some point of a play. -/
structure Follows (emptyKills : Bool) (ladder : GaugeLadder) (given : List Judgment) : Prop where
  ordered : ladder.IsOrdered
  element : ∀ kind, (ladder.gauge kind).element = (GaugeElement.standard emptyKills).get kind
  spotless : (ladder.gauge .hazard).isDead = false → IsUnbroken given

namespace Follows

variable {emptyKills : Bool} {ladder other : GaugeLadder} {given : List Judgment}

theorem fresh (active : GaugeKind) {total : Float} {noteCount : Nat} (nonneg : 0.0 ≤ total)
    (word : noteCount < UInt64.size) :
    Follows emptyKills (ofElements (GaugeElement.standard emptyKills) active total noteCount) [] where
  ordered := standard_isOrdered emptyKills active nonneg word
  element := by
    intro kind
    rw [ofElements_gauge]
    rfl
  spotless := by
    intro _ judgment inside
    cases inside

theorem of_gauges (follows : Follows emptyKills ladder given)
    (same : other.gauges = ladder.gauges) : Follows emptyKills other given := by
  obtain ⟨ordered, element, spotless⟩ := follows
  unfold IsOrdered at ordered
  unfold gauge at ordered element spotless
  rw [← same] at ordered element spotless
  exact ⟨ordered, element, spotless⟩

theorem update_element (follows : Follows emptyKills ladder given) (judgment : Judgment)
    (empty : Bool) (kind : GaugeKind) : ((ladder.update judgment empty).gauge kind).element =
      (GaugeElement.standard emptyKills).get kind := by
  rw [gauge_update, Gauge.update_eq_setValue, Gauge.setValue_eq]
  exact follows.element kind

theorem update_early (follows : Follows emptyKills ladder given) (judgment : Judgment) :
    Follows emptyKills (ladder.update judgment true) given where
  ordered := follows.ordered.update judgment true
  element := follows.update_element judgment true
  spotless := fun living => follows.spotless (not_isDead_of_update living)

theorem update (follows : Follows emptyKills ladder given) (judgment : Judgment) :
    Follows emptyKills (ladder.update judgment false) (given ++ [judgment]) where
  ordered := follows.ordered.update judgment false
  element := follows.update_element judgment false
  spotless := by
    intro living
    have number := follows.ordered.isNumber .hazard
    have element := follows.element .hazard
    have hits : judgment.breaksCombo = false := by
      by_contra breaks
      have miss : judgment.breaksCombo = true := by simpa using breaks
      have kills : (ladder.gauge .hazard).element.death.kills judgment false = true := by
        rw [element]
        cases emptyKills <;> exact miss
      have dead := Gauge.update_kills number (by rw [element]; exact ⟨rfl, rfl⟩) kills
      rw [gauge_update, dead] at living
      cases living
    exact isUnbroken_concat.mpr ⟨follows.spotless (not_isDead_of_update living), hits⟩

theorem after (follows : Follows emptyKills ladder []) (judgments : List JudgeEvent) :
    Follows emptyKills (ladder.after judgments) (verdicts judgments) := by
  induction judgments using List.reverseRecOn with
  | nil => exact follows
  | append_singleton front event ih =>
    rw [after_append, verdicts_append, verdicts_single]
    change Follows _ ((ladder.after front).update event.judgment event.empty) _
    cases empty : event.empty with
    | true => simpa using ih.update_early event.judgment
    | false => exact ih.update event.judgment

end Follows
end GaugeLadder

theorem GaugeElement.standard_border (emptyKills : Bool) (kind : GaugeKind) :
    ((standard emptyKills).get kind).border = if kind.isSurvival then 0.0 else 80.0 := by
  cases kind <;> rfl

theorem Lamp.classify_of_lt {score : Score} {noteCount : Nat} {ladder : GaugeLadder}
    {candidates : List GaugeKind} {failed : Bool} (playing : failed = false)
    (some : noteCount ≠ 0)
    (short : ¬fullCombo ≤ classify score noteCount ladder candidates failed) :
    classify score noteCount ladder candidates failed =
      ((GaugeKind.strictest? (candidates.filter fun kind => (ladder.gauge kind).isQualified)).map
        ofGauge).getD .failed := by
  have own : fullCombo ≤ fullCombo := Nat.le_refl _
  have lower : fullCombo ≤ perfect := by decide
  rw [le_classify_iff own] at short
  simp only [playing, some, own, lower, and_true, ne_eq, not_false_eq_true, true_and, not_or]
    at short
  obtain ⟨best, good, hits⟩ := short
  unfold classify
  dsimp only
  rw [playing, if_neg (by decide), if_neg some, if_neg best, if_neg good, if_neg hits]
  cases GaugeKind.strictest? (candidates.filter fun kind => (ladder.gauge kind).isQualified) <;> rfl

namespace Session

variable {s : Session} {given : List Judgment} {emptyKills : Bool} {kind : GaugeKind}

theorem Surviving.candidates_eq (surviving : s.Surviving) :
    s.candidates = s.setup.config.kinds := by
  unfold candidates
  split_ifs with shifting
  · rw [surviving.placed.start, PlayConfig.kinds, if_pos shifting]
  · have active := (PlayConfig.mem_kinds_fixed shifting).mp surviving.placed.allowed
    rw [active, PlayConfig.kinds, if_neg shifting]

def cleared (s : Session) : List GaugeKind :=
  s.candidates.filter fun kind => (s.ladder.gauge kind).isQualified

theorem Surviving.mem_cleared (surviving : s.Surviving) :
    kind ∈ s.cleared ↔ kind ∈ s.setup.config.kinds ∧ (s.ladder.gauge kind).isQualified = true := by
  rw [cleared, surviving.candidates_eq, List.mem_filter]

theorem isQualified_survival (follows : s.ladder.Follows emptyKills given)
    (survival : kind.isSurvival = true) (living : (s.ladder.gauge kind).isDead = false) :
    (s.ladder.gauge kind).isQualified = true := by
  have alive := (Gauge.isAlive_iff (follows.ordered.isNumber kind)).mpr living
  have positive : 0.0 < (s.ladder.gauge kind).value := by simpa [Gauge.isAlive] using alive
  have border : (s.ladder.gauge kind).element.border = 0.0 := by
    rw [follows.element, GaugeElement.standard_border, if_pos survival]
  rw [Gauge.isQualified, alive, border, Bool.true_and]
  exact decide_eq_true (Binary64.le_of_lt positive)

theorem isQualified_light (follows : s.ladder.Follows emptyKills given)
    (light : kind.isSurvival = false) :
    (s.ladder.gauge kind).isQualified = true ↔ 80.0 ≤ s.ladder.value kind := by
  have border : (s.ladder.gauge kind).element.border = 80.0 := by
    rw [follows.element, GaugeElement.standard_border, if_neg (by simp [light])]
  have positive : (0.0 : Float) < 80.0 := by decide
  rw [Gauge.isQualified_iff_border (border ▸ positive), border]
  rfl

theorem Surviving.cleared_survival (surviving : s.Surviving)
    (follows : s.ladder.Follows emptyKills given) (playing : s.failed = false)
    (survival : s.ladder.active.isSurvival = true) :
    IsGreatest {kind | kind ∈ s.cleared} s.ladder.active := by
  constructor
  · exact surviving.mem_cleared.mpr ⟨surviving.placed.allowed,
      isQualified_survival follows survival (surviving.living playing survival)⟩
  · intro kind member
    obtain ⟨allowed, qualified⟩ := surviving.mem_cleared.mp member
    refine Nat.le_of_not_lt ?_
    intro higher
    have strict : kind.isSurvival = true := by
      rw [GaugeKind.isSurvival_iff_rank] at survival ⊢
      exact Nat.le_trans survival (Nat.le_of_lt higher)
    exact Gauge.not_isQualified_of_dead (surviving.placed.above kind allowed strict higher) qualified

theorem Surviving.cleared_light (surviving : s.Surviving)
    (follows : s.ladder.Follows emptyKills given) (light : s.ladder.active.isSurvival = false) :
    kind ∈ s.cleared ↔ kind ∈ s.setup.config.kinds ∧ 80.0 ≤ s.ladder.value kind := by
  rw [surviving.mem_cleared]
  refine and_congr_right ?_
  intro allowed
  cases family : kind.isSurvival with
  | false => exact isQualified_light follows family
  | true =>
    have higher : s.ladder.active < kind := by
      rw [← Bool.not_eq_true, GaugeKind.isSurvival_iff_rank] at light
      rw [GaugeKind.isSurvival_iff_rank] at family
      rw [GaugeKind.lt_iff_rank]
      omega
    have dead := surviving.placed.above kind allowed family higher
    have low : s.ladder.value kind ≤ 0.0 := of_decide_eq_true dead
    have short : ¬(80.0 : Float) ≤ 0.0 := by decide
    exact iff_of_false (Gauge.not_isQualified_of_dead dead)
      fun reached => short (Binary64.le_trans reached low)

theorem lamp_of_short (playing : s.failed = false) (some : s.setup.chart.noteCount ≠ 0)
    (short : ¬.fullCombo ≤ s.result.lamp) :
    s.result.lamp = ((GaugeKind.strictest? s.cleared).map Lamp.ofGauge).getD .failed :=
  Lamp.classify_of_lt playing some short

/-- The lamp of the strictest gauge is given only while that gauge is alive. -/
theorem hazard_isAlive (some : s.setup.chart.noteCount ≠ 0) (lamp : s.result.lamp = .hazard) :
    (s.ladder.gauge .hazard).isAlive = true := by
  cases playing : s.failed with
  | true =>
    have failed : s.result.lamp = .failed := if_pos playing
    rw [failed] at lamp
    cases lamp
  | false =>
    have short : ¬.fullCombo ≤ s.result.lamp := by
      rw [lamp]
      decide
    rw [lamp_of_short playing some short] at lamp
    cases found : GaugeKind.strictest? s.cleared with
    | none =>
      rw [found] at lamp
      cases lamp
    | some kind =>
      rw [found] at lamp
      obtain rfl : kind = .hazard := by
        cases kind <;> first | rfl | cases lamp
      have member := (GaugeKind.strictest?_eq_some_iff.mp found).1
      have qualified := (List.mem_filter.mp member).2
      rw [Gauge.isQualified, Bool.and_eq_true] at qualified
      exact qualified.1

theorem Surviving.lasts_with_hazard (surviving : s.Surviving)
    (follows : s.ladder.Follows emptyKills given)
    (alive : (s.ladder.gauge .hazard).isAlive = true) : s.failed = false := by
  by_contra failed
  obtain ⟨survival, dead⟩ :=
    surviving.failed_iff.mp (by simpa using failed) _ surviving.placed.allowed
  have living : (s.ladder.gauge s.ladder.active).isDead = false := by
    rcases GaugeKind.lt_or_eq_or_gt s.ladder.active .hazard with lower | same | higher
    · exact (follows.ordered _ _ lower survival).not_isDead alive
    · rw [same]
      exact (Gauge.isAlive_iff (follows.ordered.isNumber .hazard)).mp alive
    · have top : s.ladder.active.rank ≤ 5 := by
        cases s.ladder.active <;> decide
      exact absurd higher (Nat.not_lt_of_le top)
  rw [dead] at living
  cases living

theorem follows_of_run (setup : Setup) (nonneg : 0.0 ≤ setup.chart.total)
    (word : setup.chart.noteCount < UInt64.size) (calls : List Call) :
    (setup.start.run calls).2.ladder.Follows setup.config.emptyPoorKills
      (setup.start.given calls) := by
  have fresh : setup.start.ladder.Follows setup.config.emptyPoorKills [] :=
    .fresh setup.config.gauge nonneg word
  have attempt := restart_not_mem_lastAttempt calls
  have accounts := Accounts.moves (run_moves setup.start (lastAttempt calls) attempt)
  rw [run_lastAttempt]
  exact (fresh.after _).of_gauges accounts.gauges

theorem run_follows {chart : Chart} {config : PlayConfig} {s₀ : Session}
    (compiled : chart.IsCompiled) (word : chart.noteCount < UInt64.size)
    (accepted : Session.new chart config = .ok s₀) (calls : List Call) :
    (s₀.run calls).2.ladder.Follows config.emptyPoorKills (s₀.given calls) := by
  obtain ⟨-, rfl⟩ := new_start accepted
  have total : (chart.modify config.modifier).total = chart.total := by rw [modify_eq]
  have count : (chart.modify config.modifier).noteCount = chart.noteCount := by rw [modify_eq]
  exact follows_of_run ⟨chart.modify config.modifier, config, config.windowsFor chart.rank⟩
    (total ▸ compiled.total_nonneg) (count ▸ word) calls

/-- The lamp of a play short of a full combo is that of a gauge. On a survival gauge it is the lamp
of that gauge. On a light one it is the lamp of the strictest allowed gauge at 80 or more, or that
of a failure if there is none. Once all notes are judged it is not the lamp of the strictest gauge,
for where that gauge is still alive the play has a full combo. -/
theorem gauge_lamps {chart : Chart} {config : PlayConfig} {s₀ : Session}
    (compiled : chart.IsCompiled) (some : chart.noteCount ≠ 0) (few : chart.noteCount < 2 ^ 31)
    (accepted : Session.new chart config = .ok s₀) (calls : List Call) :
    let s := (s₀.run calls).2
    let reached := {kind | kind ∈ config.kinds ∧ 80.0 ≤ s.ladder.value kind}
    (config.autoShift = false → config.kinds = [s.ladder.active]) ∧
    (s.failed = false → ¬.fullCombo ≤ s.result.lamp →
      (s.ladder.active.isSurvival = true → s.result.lamp = .ofGauge s.ladder.active) ∧
      (s.ladder.active.isSurvival = false →
        (∃ kind, IsGreatest reached kind ∧ s.result.lamp = .ofGauge kind) ∨
          reached = ∅ ∧ s.result.lamp = .failed)) ∧
    ((∀ i < chart.noteCount, s.isJudged i = true) →
      s.result.lamp ≠ .hazard ∧
      ((s.ladder.gauge .hazard).isAlive = true →
        s.failed = false ∧ .fullCombo ≤ s.result.lamp)) := by
  intro s reached
  obtain ⟨surviving, same⟩ : s.Surviving ∧ s.setup.config = config := run_surviving accepted calls
  obtain ⟨told, -, counted, length⟩ :=
    compiled_run compiled (Nat.lt_trans few (by decide)) accepted calls
  have follows := run_follows compiled (Nat.lt_trans few (by decide)) accepted calls
  have notes : s.setup.chart.noteCount ≠ 0 := by rwa [counted]
  refine ⟨?_, ?_, ?_⟩
  · intro fixed
    have only : config.kinds = [config.gauge] := by simp [PlayConfig.kinds, fixed]
    have allowed : s.ladder.active ∈ s.setup.config.kinds := surviving.placed.allowed
    rw [same, only, List.mem_singleton] at allowed
    rw [only, allowed]
  · intro playing short
    rw [lamp_of_short playing notes short]
    constructor
    · intro survival
      rw [GaugeKind.strictest?_eq_some_iff.mpr (surviving.cleared_survival follows playing survival)]
      rfl
    · intro light
      have exact_set : {kind | kind ∈ s.cleared} = reached := by
        ext kind
        rw [Set.mem_ofPred, surviving.cleared_light follows light, same]
        rfl
      cases found : GaugeKind.strictest? s.cleared with
      | some kind =>
        have greatest := GaugeKind.strictest?_eq_some_iff.mp found
        rw [exact_set] at greatest
        exact Or.inl ⟨kind, greatest, rfl⟩
      | none =>
        rw [← exact_set, GaugeKind.strictest?_eq_none_iff.mp found]
        exact Or.inr ⟨by simp, rfl⟩
  · intro complete
    have spotless (alive : (s.ladder.gauge .hazard).isAlive = true) :
        s.failed = false ∧ .fullCombo ≤ s.result.lamp := by
      have playing := surviving.lasts_with_hazard follows alive
      have living := (Gauge.isAlive_iff (follows.ordered.isNumber .hazard)).mp alive
      exact ⟨playing, (told.fullCombo_iff counted length few some playing).mpr
        ⟨complete, isUnbroken_iff.mp (follows.spotless living)⟩⟩
    refine ⟨?_, spotless⟩
    intro lamp
    have full := (spotless (hazard_isAlive notes lamp)).2
    rw [lamp] at full
    exact absurd full (by decide)

theorem gauge_lamps_of_recovery :
    let chart := Chart.ofSource ⟨[.row 0 ⟨0x11, "01", 1⟩, .row 1 ⟨0x11, "02", 2⟩]⟩
    let config := { PlayConfig.standard with autoShift := true }
    let recovery := [Call.advance 1000.0, .press (.key .p1 1) 1846.0]
    let flawless := [Call.press (.key .p1 1) 0.0, .press (.key .p1 1) 1846.0]
    ∃ s₀, Session.new chart config = .ok s₀ ∧
      .shift .groove .easy ∈ (s₀.run recovery).1 ∧ .shift .easy .groove ∈ (s₀.run recovery).1 ∧
      (∀ i < chart.noteCount, (s₀.run recovery).2.isJudged i = true) ∧
      (∃ kind, kind ∈ config.kinds ∧ 80.0 ≤ (s₀.run recovery).2.ladder.value kind ∧
        (s₀.run recovery).2.result.lamp = .ofGauge kind) ∧
      (s₀.run recovery).2.result.lamp ≠ .hazard ∧
      ((s₀.run flawless).2.ladder.gauge .hazard).isAlive = true ∧
      .fullCombo ≤ (s₀.run flawless).2.result.lamp := by
  intro chart config recovery flawless
  have compiled : chart.IsCompiled := Chart.ofSource_isCompiled _
  have count : chart.noteCount = 2 := by decide +kernel
  have valid : config.validate = .ok () := by decide +kernel
  obtain ⟨s₀, accepted⟩ : ∃ s₀, Session.new chart config = .ok s₀ := by
    unfold Session.new
    rw [valid]
    exact ⟨_, rfl⟩
  have start := (new_start accepted).2
  obtain ⟨-, lamps, ends⟩ := gauge_lamps compiled (by omega) (by omega) accepted recovery
  obtain ⟨-, -, ends'⟩ := gauge_lamps compiled (by omega) (by omega) accepted flawless
  obtain ⟨falls, rises, all, playing, short, light, high⟩ :
      .shift .groove .easy ∈ (s₀.run recovery).1 ∧ .shift .easy .groove ∈ (s₀.run recovery).1 ∧
      (∀ i < chart.noteCount, (s₀.run recovery).2.isJudged i = true) ∧
      (s₀.run recovery).2.failed = false ∧ ¬.fullCombo ≤ (s₀.run recovery).2.result.lamp ∧
      (s₀.run recovery).2.ladder.active.isSurvival = false ∧
      80.0 ≤ (s₀.run recovery).2.ladder.value .groove := by
    rw [start]
    decide +kernel
  obtain ⟨all', alive⟩ : (∀ i < chart.noteCount, (s₀.run flawless).2.isJudged i = true) ∧
      ((s₀.run flawless).2.ladder.gauge .hazard).isAlive = true := by
    rw [start]
    decide +kernel
  have reached : ∃ kind, kind ∈ config.kinds ∧ 80.0 ≤ (s₀.run recovery).2.ladder.value kind ∧
      (s₀.run recovery).2.result.lamp = .ofGauge kind := by
    rcases (lamps playing short).2 light with ⟨kind, greatest, lamp⟩ | ⟨none, -⟩
    · exact ⟨kind, greatest.1.1, greatest.1.2, lamp⟩
    · have inside : GaugeKind.groove ∈ (∅ : Set GaugeKind) := none ▸ ⟨by decide, high⟩
      exact inside.elim
  exact ⟨s₀, accepted, falls, rises, all, reached, (ends all).1, alive, ((ends' all').2 alive).2⟩

end Session
end NoteChart
