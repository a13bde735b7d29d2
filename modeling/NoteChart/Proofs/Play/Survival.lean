import NoteChart.Proofs.Gauge.AutoShift
import NoteChart.Proofs.Gauge.Update
import NoteChart.Proofs.Play.Move

/-!
Which gauge a session is on. Of the kinds that the settings allow, all survival gauges above the
active one are dead, and death is for good; so the active gauge, while it needs survival, is the
strictest one alive, and a session fails only when nothing is left to fall to.
-/
namespace NoteChart

/-- The kinds a play may be on: from floor to start with auto shift, else the start alone. -/
def PlayConfig.kinds (config : PlayConfig) : List GaugeKind :=
  if config.autoShift then GaugeKind.between config.shiftFloor config.gauge else [config.gauge]

theorem PlayConfig.mem_kinds_shifting {config : PlayConfig} (shifting : config.autoShift = true)
    {kind : GaugeKind} : kind ∈ config.kinds ↔ config.shiftFloor ≤ kind ∧ kind ≤ config.gauge := by
  unfold kinds
  rw [if_pos shifting, GaugeKind.mem_between]

theorem PlayConfig.mem_kinds_fixed {config : PlayConfig} (fixed : ¬config.autoShift = true)
    {kind : GaugeKind} : kind ∈ config.kinds ↔ kind = config.gauge := by
  unfold kinds
  rw [if_neg fixed, List.mem_singleton]

theorem PlayConfig.floor_le_of_valid {config : PlayConfig} (valid : config.validate = .ok ())
    (shifting : config.autoShift = true) : config.shiftFloor ≤ config.gauge := by
  unfold validate at valid
  split at valid
  · cases valid
  · split_ifs at valid with high
    have below : ¬config.gauge < config.shiftFloor := by simpa [shifting] using high
    exact Nat.le_of_not_lt below

namespace Session

def IsLost (s : Session) (kind : GaugeKind) : Prop :=
  kind.isSurvival = true ∧ (s.ladder.gauge kind).isDead = true

/-- What holds of the active kind even before the gauges decide. -/
structure Placed (s : Session) : Prop where
  start : s.ladder.start = s.setup.config.gauge
  allowed : s.ladder.active ∈ s.setup.config.kinds
  above : ∀ k ∈ s.setup.config.kinds, k.isSurvival = true → s.ladder.active < k →
    (s.ladder.gauge k).isDead = true

/-- What holds of it at any other moment. -/
structure Surviving (s : Session) : Prop where
  placed : s.Placed
  failed_iff : s.failed = true ↔ ∀ k ∈ s.setup.config.kinds, s.IsLost k
  living : s.failed = false → s.ladder.active.isSurvival = true →
    s.ladder.activeGauge.isDead = false

variable {s t : Session}

theorem Placed.entered (placed : s.Placed) (judgment : Judgment) (diff : Float) (empty : Bool) :
    (s.entered judgment diff empty).Placed where
  start := placed.start
  allowed := placed.allowed
  above := fun k inside survival higher =>
    GaugeLadder.isDead_update (placed.above k inside survival higher) judgment empty

theorem Placed.surviving (placed : s.Placed) (playing : s.failed = false)
    (kept : ¬s.IsLost s.ladder.active) : s.Surviving where
  placed := placed
  failed_iff := by
    rw [playing]
    constructor
    · intro failed
      cases failed
    · intro lost
      exact absurd (lost _ placed.allowed) kept
  living := by
    intro _ survival
    by_contra dead
    exact kept ⟨survival, by simpa [GaugeLadder.activeGauge] using dead⟩

theorem Placed.fail (placed : s.Placed) (lost : ∀ k ∈ s.setup.config.kinds, s.IsLost k) :
    s.fail.2.Surviving where
  placed := ⟨placed.start, placed.allowed, placed.above⟩
  failed_iff := ⟨fun _ => lost, fun _ => rfl⟩
  living := by
    intro playing
    cases playing

theorem Placed.fall (placed : s.Placed) (shifting : s.setup.config.autoShift = true)
    {kind : GaugeKind} (falls : s.ladder.mustFall = true)
    (found : s.ladder.fallTo? s.setup.config.shiftFloor = some kind) :
    ({ s with ladder := s.ladder.activate kind } : Session).Placed where
  start := placed.start
  allowed := by
    obtain ⟨above, below, -, -⟩ := GaugeLadder.fallTo?_some found
    have limit := ((PlayConfig.mem_kinds_shifting shifting).mp placed.allowed).2
    exact (PlayConfig.mem_kinds_shifting shifting).mpr
      ⟨above, Nat.le_trans (Nat.le_of_lt below) limit⟩
  above := by
    intro k inside survival higher
    obtain ⟨-, -, -, passed⟩ := GaugeLadder.fallTo?_some found
    rcases GaugeKind.lt_or_eq_or_gt k s.ladder.active with lower | rfl | upper
    · exact (GaugeLadder.isPlayable_eq_false.mp (passed k higher lower)).2
    · unfold GaugeLadder.mustFall at falls
      rwa [if_pos survival] at falls
    · exact placed.above k inside survival upper

theorem Placed.rise (placed : s.Placed) (shifting : s.setup.config.autoShift = true)
    {kind : GaugeKind} (found : s.ladder.riseTo? s.ladder.start = some kind) :
    ({ s with ladder := s.ladder.activate kind } : Session).Placed where
  start := placed.start
  allowed := by
    obtain ⟨higher, limit, -, -⟩ := GaugeLadder.riseTo?_some found
    have floor := ((PlayConfig.mem_kinds_shifting shifting).mp placed.allowed).1
    rw [placed.start] at limit
    exact (PlayConfig.mem_kinds_shifting shifting).mpr
      ⟨Nat.le_trans floor (Nat.le_of_lt higher), limit⟩
  above := by
    intro k inside survival higher
    obtain ⟨step, -, -, -⟩ := GaugeLadder.riseTo?_some found
    exact placed.above k inside survival (Nat.lt_trans step higher)

theorem Placed.all_lost (placed : s.Placed) (shifting : s.setup.config.autoShift = true)
    (shift : s.ladder.decideShift s.ladder.start s.setup.config.shiftFloor = .fail) :
    ∀ k ∈ s.setup.config.kinds, s.IsLost k := by
  intro k inside
  obtain ⟨survival, dead, missed⟩ := GaugeLadder.decideShift_fail shift
  have floor := ((PlayConfig.mem_kinds_shifting shifting).mp inside).1
  rcases GaugeKind.lt_or_eq_or_gt k s.ladder.active with lower | rfl | upper
  · exact GaugeLadder.isPlayable_eq_false.mp (GaugeLadder.fallTo?_none missed floor lower)
  · exact ⟨survival, dead⟩
  · have strict : k.isSurvival = true := by
      rw [GaugeKind.isSurvival_iff_rank] at survival ⊢
      exact Nat.le_trans survival (Nat.le_of_lt upper)
    exact ⟨strict, placed.above k inside strict upper⟩

theorem Placed.settle (placed : s.Placed) (playing : s.failed = false) :
    s.settle.2.Surviving := by
  unfold Session.settle
  split_ifs with shifting lost
  · split
    · rename_i stay
      refine placed.surviving playing ?_
      intro lost
      have alive := GaugeLadder.decideShift_stay stay lost.1
      rw [GaugeLadder.activeGauge, lost.2] at alive
      cases alive
    · rename_i kind shift
      rcases GaugeLadder.decideShift_to shift with ⟨falls, found⟩ | ⟨-, found⟩
      · refine (placed.fall shifting falls found).surviving playing ?_
        intro lost
        have playable := (GaugeLadder.fallTo?_some found).2.2.1
        have dead : s.IsLost kind := lost
        rw [GaugeLadder.isPlayable_eq_false.mpr dead] at playable
        cases playable
      · refine (placed.rise shifting found).surviving playing ?_
        intro lost
        have light := (GaugeLadder.riseTo?_some found).2.2.2
        have dead : s.IsLost kind := lost
        rw [dead.1] at light
        cases light
    · rename_i shift
      exact placed.fail (placed.all_lost shifting shift)
  · refine placed.fail ?_
    intro k inside
    have active := (PlayConfig.mem_kinds_fixed shifting).mp placed.allowed
    rw [(PlayConfig.mem_kinds_fixed shifting).mp inside, ← active]
    exact (Bool.and_eq_true _ _).mp lost
  · exact placed.surviving playing fun dead => lost ((Bool.and_eq_true _ _).mpr dead)

theorem Surviving.apply (surviving : s.Surviving) (playing : s.failed = false)
    (index? : Option Nat) (lane : Lane) (judgment : Judgment) (diff : Float) (empty : Bool) :
    (s.apply index? lane judgment diff empty).2.Surviving :=
  (surviving.placed.entered judgment diff empty).settle playing

theorem Surviving.move (surviving : s.Surviving) {events : List PlayEvent}
    (move : Move s events t) : t.Surviving := by
  obtain ⟨placed, failed_iff, living⟩ := surviving
  have marked (index : Nat) : (s.mark index).Surviving :=
    ⟨⟨placed.start, placed.allowed, placed.above⟩, failed_iff, living⟩
  cases move with
  | tick time playing => exact ⟨⟨placed.start, placed.allowed, placed.above⟩, failed_iff, living⟩
  | timed playing near fresh due => exact (marked _).apply playing _ _ _ _ _
  | hit playing manual found => exact (marked _).apply playing _ _ _ _ _
  | early playing manual missed found =>
    exact (show s.Surviving from ⟨placed, failed_iff, living⟩).apply playing _ _ _ _ _
  | skip => exact ⟨⟨placed.start, placed.allowed, placed.above⟩, failed_iff, living⟩

theorem survival_starts_alive (emptyKills : Bool) (total : Float) (noteCount : Nat)
    {kind : GaugeKind} (survival : kind.isSurvival = true) :
    (Gauge.ofElement ((GaugeElement.standard emptyKills).get kind) total noteCount).isDead =
      false := by
  have full : decide ((100.0 : Float) ≤ 0.0) = false := by decide
  cases kind with
  | assist => cases survival
  | easy => cases survival
  | groove => cases survival
  | hard => exact full
  | exHard => exact full
  | hazard => exact full

theorem Surviving.start {setup : Setup}
    (valid : setup.config.autoShift = true → setup.config.shiftFloor ≤ setup.config.gauge) :
    setup.start.Surviving := by
  have allowed : setup.config.gauge ∈ setup.config.kinds := by
    by_cases shifting : setup.config.autoShift = true
    · exact (PlayConfig.mem_kinds_shifting shifting).mpr ⟨valid shifting, Nat.le_refl _⟩
    · exact (PlayConfig.mem_kinds_fixed shifting).mpr rfl
  have highest (k : GaugeKind) (inside : k ∈ setup.config.kinds) : ¬setup.config.gauge < k := by
    by_cases shifting : setup.config.autoShift = true
    · exact Nat.not_lt_of_le ((PlayConfig.mem_kinds_shifting shifting).mp inside).2
    · rw [(PlayConfig.mem_kinds_fixed shifting).mp inside]
      exact Nat.lt_irrefl _
  have placed : setup.start.Placed :=
    ⟨rfl, allowed, fun k inside _ higher => absurd higher (highest k inside)⟩
  refine placed.surviving rfl ?_
  intro lost
  have survival : setup.config.gauge.isSurvival = true := lost.1
  have dead : (setup.start.ladder.gauge setup.config.gauge).isDead = true := lost.2
  rw [Setup.start, GaugeLadder.ofElements_gauge, survival_starts_alive _ _ _ survival] at dead
  cases dead

theorem Surviving.restart (surviving : s.Surviving) : s.restart.Surviving := by
  refine .start ?_
  intro shifting
  obtain ⟨floor, limit⟩ :=
    (PlayConfig.mem_kinds_shifting shifting).mp surviving.placed.allowed
  exact Nat.le_trans floor limit

theorem settle_light (light : s.ladder.active.isSurvival = false) :
    s.settle.2.ladder.active.isSurvival = false := by
  unfold settle
  split_ifs
  · split
    · exact light
    · rename_i kind shift
      rcases GaugeLadder.decideShift_to shift with ⟨-, found⟩ | ⟨-, found⟩
      · have below := (GaugeLadder.fallTo?_some found).2.1
        change kind.isSurvival = false
        rw [← Bool.not_eq_true, GaugeKind.isSurvival_iff_rank] at light ⊢
        rw [GaugeKind.lt_iff_rank] at below
        omega
      · exact (GaugeLadder.riseTo?_some found).2.2.2
    · exact light
  · exact light
  · exact light

theorem move_light {events : List PlayEvent} (light : s.ladder.active.isSurvival = false)
    (move : Move s events t) : t.ladder.active.isSurvival = false := by
  cases move with
  | tick time playing => exact light
  | timed playing near fresh due => exact settle_light light
  | hit playing manual found => exact settle_light light
  | early playing manual missed found => exact settle_light light
  | skip => exact light

theorem Surviving.lasts (surviving : s.Surviving) {kind : GaugeKind}
    (allowed : kind ∈ s.setup.config.kinds) (light : kind.isSurvival = false) :
    s.failed = false := by
  by_contra failed
  have lost := surviving.failed_iff.mp (by simpa using failed) kind allowed
  rw [lost.1] at light
  cases light

theorem Surviving.moves (surviving : s.Surviving) {events : List PlayEvent}
    (moves : Moves s events t) : t.Surviving :=
  moves.preserves (fun _ _ _ before move => before.move move) surviving

theorem run_surviving {chart : Chart} {config : PlayConfig} {s₀ : Session}
    (accepted : Session.new chart config = .ok s₀) (calls : List Call) :
    (s₀.run calls).2.Surviving ∧ (s₀.run calls).2.setup.config = config := by
  obtain ⟨valid, rfl⟩ := new_start accepted
  refine ⟨?_, congrArg Setup.config (run_setup _ calls)⟩
  refine run_preserves (step_preserves ?_ ?_) _ calls (.start (PlayConfig.floor_le_of_valid valid))
  · exact fun s before => before.restart
  · exact fun s events t before move => before.move move

/-- After any calls a session is on one of the kinds that its settings allow. All survival gauges
above it are dead, so one that has not failed is on the strictest survival gauge alive or on a light
one; it has failed exactly when every allowed gauge needs survival and is dead; and short of a
restart, which begins a new session, it does not come back from a light gauge to one that needs
survival. -/
theorem active_gauge {chart : Chart} {config : PlayConfig} {s₀ : Session}
    (accepted : Session.new chart config = .ok s₀) (calls : List Call) :
    let s := (s₀.run calls).2
    s.ladder.active ∈ config.kinds ∧
    (∀ k ∈ config.kinds, k.isSurvival = true → s.ladder.active < k →
      (s.ladder.gauge k).isDead = true) ∧
    (s.failed = true ↔
      ∀ k ∈ config.kinds, k.isSurvival = true ∧ (s.ladder.gauge k).isDead = true) ∧
    ((∃ k ∈ config.kinds, k.isSurvival = false) → s.failed = false) ∧
    (s.failed = false → s.ladder.active.isSurvival = true →
      (s.ladder.gauge s.ladder.active).isDead = false ∧
      ∀ k ∈ config.kinds, k.isSurvival = true → (s.ladder.gauge k).isDead = false →
        k ≤ s.ladder.active) ∧
    (s.ladder.active.isSurvival = false → ∀ more, .restart ∉ more →
      (s.run more).2.ladder.active.isSurvival = false) := by
  intro s
  obtain ⟨⟨⟨-, allowed, above⟩, failed_iff, living⟩, same⟩ := run_surviving accepted calls
  rw [same] at allowed above failed_iff
  refine ⟨allowed, above, failed_iff, ?_, ?_, ?_⟩
  · rintro ⟨k, inside, light⟩
    by_contra failed
    have lost := failed_iff.mp (by simpa using failed) k inside
    rw [lost.1] at light
    cases light
  · intro playing survival
    refine ⟨living playing survival, ?_⟩
    intro k inside strict alive
    refine Nat.le_of_not_lt ?_
    intro higher
    rw [above k inside strict higher] at alive
    cases alive
  · intro light more attempt
    exact attempt_preserves (P := fun s => s.ladder.active.isSurvival = false)
      (fun s events t before move => move_light before move) s more attempt light

theorem active_gauge_of_two_misses :
    let chart := { Chart.empty with
      notes := [⟨1000.0, 0x11, ⟨.p1, .key 1⟩, ⟨1⟩⟩, ⟨2000.0, 0x11, ⟨.p1, .key 1⟩, ⟨2⟩⟩]
      noteCount := 2 }
    let config := { PlayConfig.standard with gauge := .hazard, autoShift := true }
    let calls := [Call.advance 1500.0, .advance 5000.0]
    ∃ s₀, Session.new chart config = .ok s₀ ∧
      let s := (s₀.run calls).2
      s.score.counts.poor = 2 ∧ s.ladder.active = .exHard ∧ .exHard ∈ config.kinds ∧
        (s.ladder.gauge .hazard).isDead = true ∧ s.failed = false ∧
        (s.ladder.gauge .exHard).isDead = false := by
  intro chart config calls
  have valid : config.validate = .ok () := by decide +kernel
  obtain ⟨s₀, accepted⟩ : ∃ s₀, Session.new chart config = .ok s₀ := by
    unfold Session.new
    rw [valid]
    exact ⟨_, rfl⟩
  obtain ⟨allowed, above, -, light, living, -⟩ := active_gauge accepted calls
  obtain ⟨missed, active⟩ : (s₀.run calls).2.score.counts.poor = 2 ∧
      (s₀.run calls).2.ladder.active = .exHard := by
    rw [(new_start accepted).2]
    decide +kernel
  have playing : (s₀.run calls).2.failed = false := light ⟨.assist, by decide, rfl⟩
  rw [active] at allowed above living
  exact ⟨s₀, accepted, missed, active, allowed, above .hazard (by decide) rfl (by decide), playing,
    (living playing rfl).1⟩

end Session
end NoteChart
