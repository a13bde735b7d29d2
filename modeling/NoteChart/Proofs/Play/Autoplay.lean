import NoteChart.Proofs.Play.Exhausting

/-!
Autoplay. The clock hits every note at its time with the best judgment and presses are ignored, so a
gauge that starts full stays full and the play cannot fail. A replay aims at the time at which a
note is to be missed; as long as the offset does not put that before the note itself, the play is
perfect.
-/
namespace NoteChart

open Binary64

theorem Gauge.update_start (emptyKills : Bool) (total : Float) (noteCount : Nat)
    {kind : GaugeKind} (survival : kind.isSurvival = true) :
    (ofElement ((GaugeElement.standard emptyKills).get kind) total noteCount).update .pgreat
      false = ofElement ((GaugeElement.standard emptyKills).get kind) total noteCount := by
  cases kind with
  | assist | easy | groove => cases survival
  | hard | exHard => exact update_full rfl rfl _ _ _
  | hazard => cases emptyKills <;> exact update_full rfl rfl _ _ _

namespace Session

theorem settle_gauges (s : Session) : s.settle.2.ladder.gauges = s.ladder.gauges := by
  unfold settle
  split_ifs
  · split <;> rfl
  · rfl
  · rfl

/-- A session in autoplay: as many best judgments as notes judged, no others, and all gauges that
need survival still full. -/
structure Flawless (s : Session) : Prop where
  auto : s.setup.config.autoplay = true
  aligned : s.Aligned
  counts : s.score.counts = ⟨.ofNat (s.judged.toList.count true), 0, 0, 0, 0⟩
  full : ∀ kind, kind.isSurvival = true → s.ladder.gauge kind = s.setup.start.ladder.gauge kind

variable {s t : Session}

namespace Flawless

theorem start {setup : Setup} (auto : setup.config.autoplay = true) : setup.start.Flawless := by
  refine ⟨auto, .start setup, ?_, fun _ _ => rfl⟩
  simp [Setup.start, Score.zero, JudgeCounts.zero, List.count_replicate]

theorem judgeNote (flawless : s.Flawless) {index : Nat} (inside : index < s.judged.size)
    (fresh : s.isJudged index = false) (lane : Lane) (diff : Float) :
    (s.judgeNote index lane .pgreat diff).2.Flawless := by
  obtain ⟨auto, aligned, counts, full⟩ := flawless
  refine ⟨by simpa using auto, aligned.judgeNote inside lane _ diff, ?_, ?_⟩
  · rw [judgeNote_flags inside fresh, judgeNote_counts, counts, UInt32.ofNat_add]
    rfl
  · intro kind survival
    have updated : (s.judgeNote index lane .pgreat diff).2.ladder.gauge kind =
        (s.ladder.gauge kind).update .pgreat false := by
      rw [← GaugeLadder.gauge_update]
      exact congrArg (·.get kind) (settle_gauges _)
    rw [updated, full kind survival, judgeNote_setup, Setup.start, GaugeLadder.ofElements_gauge,
      Gauge.update_start _ _ _ survival]

theorem move (flawless : s.Flawless) {events : List PlayEvent} (move : Move s events t) :
    t.Flawless := by
  have ⟨auto, aligned, counts, full⟩ := flawless
  cases move with
  | tick time playing => exact ⟨auto, aligned.move (.tick time playing), counts, full⟩
  | timed playing near fresh due =>
    rcases due?_some due with ⟨-, -, rfl, rfl⟩ | ⟨manual, -⟩
    · exact flawless.judgeNote (aligned.inside_of_window near) fresh _ _
    · exact absurd (auto.symm.trans manual) (by decide)
  | hit playing manual found => exact absurd (auto.symm.trans manual) (by decide)
  | early playing manual missed found => exact absurd (auto.symm.trans manual) (by decide)
  | skip => exact ⟨auto, aligned.move (.skip s), counts, full⟩

theorem moves (flawless : s.Flawless) {events : List PlayEvent} (moves : Moves s events t) :
    t.Flawless :=
  moves.preserves (fun _ _ _ before move => before.move move) flawless

theorem total (flawless : s.Flawless) : s.score.counts.total = s.score.counts.pgreat := by
  rw [flawless.counts]
  simp [JudgeCounts.total]

theorem lasts (flawless : s.Flawless) (surviving : s.Surviving) : s.failed = false := by
  by_contra failed
  have lost := surviving.failed_iff.mp (by simpa using failed) _ surviving.placed.allowed
  have dead := lost.2
  rw [flawless.full _ lost.1, Setup.start, GaugeLadder.ofElements_gauge,
    survival_starts_alive _ _ _ lost.1] at dead
  cases dead

theorem result (flawless : s.Flawless) (playing : s.failed = false)
    (hasNotes : s.setup.chart.noteCount ≠ 0)
    (all : s.score.counts.total = .ofNat s.setup.chart.noteCount) :
    s.result.counts.pgreat = .ofNat s.setup.chart.noteCount ∧
      s.result.exScore = s.result.maxExScore ∧ s.result.missCount = 0 ∧ s.result.lamp = .max := by
  rw [flawless.total] at all
  refine ⟨all, ?_, ?_, ?_⟩
  · change s.score.counts.pgreat * 2 + s.score.counts.great = _ * 2
    rw [all, flawless.counts]
    exact UInt32.add_zero _
  · change s.score.counts.bad + s.score.counts.poor = 0
    rw [flawless.counts]
    rfl
  · change Lamp.classify s.score _ s.ladder s.candidates s.failed = .max
    simp [Lamp.classify, playing, hasNotes, all]

end Flawless
end Session

namespace Setup

variable {setup : Setup} {note : Note}

theorem isDue_auto (auto : setup.config.autoplay = true) {now : Float} :
    setup.isDue now note = true ↔ ¬now + futureTolerance < note.time ∧ note.time ≤ now := by
  rw [isDue_iff, if_pos auto]

theorem InRange.isDue_time_auto (range : setup.InRange note)
    (auto : setup.config.autoplay = true) : setup.isDue note.time note = true := by
  obtain ⟨T, O, n, figures, -, -⟩ := range.figures
  have ⟨time, _, _, _, ⟨_, _, _, _⟩, _, _⟩ := figures
  refine (isDue_auto auto).mpr ⟨?_, Binary64.le_refl (isNumber_of_finite time.finite)⟩
  exact figures.in_sight time (by norm_num) (abs_le.mpr ⟨by linarith, by linarith⟩) (by linarith)

/-- The clock reaches a note on its way to where the note is to be missed, unless the offset is
earlier than the window of BAD is wide. -/
theorem InRange.isDue_missTime_auto (range : setup.InRange note)
    (auto : setup.config.autoplay = true) (reach : -setup.windows.bad ≤ setup.config.inputOffset) :
    IsNumber (setup.start.missTime note) ∧
      setup.isDue (setup.start.missTime note) note = true := by
  obtain ⟨T, O, n, figures, -, wide⟩ := range.figures
  have miss := figures.missTime
  have ⟨time, _, _, _, ⟨_, _, _, _⟩, _, _⟩ := figures
  have late : -(n : ℝ) ≤ O := wide.mp reach
  refine ⟨isNumber_of_finite miss.finite, (isDue_auto auto).mpr ⟨?_, ?_⟩⟩
  · exact figures.in_sight miss le_rfl (abs_le.mpr ⟨by linarith, by linarith⟩) (by linarith)
  · rw [le_iff_real time.finite miss.finite]
    have left := abs_le.mp time.near
    have right := abs_le.mp miss.near
    norm_num at left right
    linarith

end Setup

section Replay

variable {arithmetic : Chart.Arithmetic} {text : String} {chart : Chart} {config : PlayConfig}
  (compiled : Chart.ofText arithmetic text = .ok chart) (size : text.utf8ByteSize < UInt64.size)
  (early : ∀ note ∈ chart.notes, note.time < 1e12)
  (valid : config.validate = .ok ()) (ranked : config.windows? = none)
  (low : -1e6 ≤ config.inputOffset) (high : config.inputOffset ≤ 1e6)
  (inputs : List InputRecord)

include compiled size early valid ranked low high

/-- A replay in autoplay is perfect whatever its log holds. A chart with more notes than are
considered at a time needs an offset that is not earlier than the window of BAD is wide. -/
theorem replay_perfect (auto : config.autoplay = true) (hasNotes : chart.noteCount ≠ 0)
    (covered : chart.noteCount ≤ lookAhead ∨
      -(config.windowsFor chart.rank).bad ≤ config.inputOffset) :
    ∃ events final, replay chart config inputs = .ok (events, final) ∧ final.failed = false ∧
      final.result.counts.pgreat = .ofNat chart.noteCount ∧
      final.result.exScore = final.result.maxExScore ∧ final.result.missCount = 0 ∧
      final.result.lamp = .max := by
  obtain ⟨events, s, played, pressed⟩ :=
    replay_pressed compiled size early valid ranked low high inputs
  refine ⟨events, s.ending, played, ?_⟩
  obtain ⟨earlier, before⟩ := pressed.moves
  obtain ⟨later, after⟩ := s.ending_moves
  have moves := before.append after
  have flawless : s.ending.Flawless := Session.Flawless.moves (.start auto) moves
  have surviving : s.ending.Surviving :=
    Session.Surviving.moves (.start (PlayConfig.floor_le_of_valid valid)) moves
  have playing := flawless.lasts surviving
  have count : s.ending.setup.chart.noteCount = chart.noteCount := by
    rw [moves.same_setup]
    change (chart.modify config.modifier).noteCount = chart.noteCount
    rw [Session.modify_eq]
  have auto : s.setup.config.autoplay = true := by
    rw [pressed.setup]
    exact auto
  have reaches : s.Reaches := by
    rcases covered with few | reach
    · refine pressed.reaches_end few ?_
      exact fun note inside => (pressed.inRange note inside).isDue_time_auto auto
    · refine Or.inl ?_
      intro note inside
      refine (pressed.inRange note inside).isDue_missTime_auto auto ?_
      rw [pressed.setup]
      exact reach
  rcases pressed.settled.ending_judges reaches with ended | all
  · rw [playing] at ended
    cases ended
  · have result := flawless.result playing (count ▸ hasNotes)
      (count ▸ (pressed.all_judged all).2)
    rw [count] at result
    exact ⟨playing, result⟩

end Replay

theorem replay_perfect_of_two_notes :
    let config := { PlayConfig.standard with autoplay := true }
    ∃ chart, Chart.ofText .checked (rollText 2) = .ok chart ∧ (rollText 2).utf8ByteSize < UInt64.size ∧
      (∀ note ∈ chart.notes, note.time < 1e12) ∧ config.validate = .ok () ∧
      chart.noteCount ≠ 0 ∧ ∃ events final, replay chart config [] = .ok (events, final) ∧
        final.failed = false ∧ final.result.counts.pgreat = .ofNat chart.noteCount ∧
        final.result.exScore = final.result.maxExScore ∧ final.result.missCount = 0 ∧
        final.result.lamp = .max := by
  intro config
  obtain ⟨chart, compiled, notes, count, -⟩ := ofText_roll .checked 2
  have size : (rollText 2).utf8ByteSize < UInt64.size := by decide +kernel
  have early := roll_early notes
  have valid : config.validate = .ok () := by decide +kernel
  have hasNotes : chart.noteCount ≠ 0 := by
    rw [count]
    decide
  have few : chart.noteCount ≤ lookAhead := by
    rw [count]
    decide
  exact ⟨chart, compiled, size, early, valid, hasNotes, replay_perfect compiled size early valid rfl
    (by decide +kernel) (by decide +kernel) [] rfl hasNotes (Or.inl few)⟩

/-- Three hundred milliseconds early is too early even for autoplay: the clock stops before the
first note of a chart with one note more than are considered at a time. -/
theorem replay_leaves_a_note_to_autoplay :
    let config := { PlayConfig.standard with autoplay := true, inputOffset := -300.0 }
    ∃ chart, Chart.ofText .checked (rollText 151) = .ok chart ∧ chart.noteCount ≠ 0 ∧
      (∀ note ∈ chart.notes, note.time < 1e12) ∧ config.validate = .ok () ∧
      config.windows? = none ∧ -1e6 ≤ config.inputOffset ∧ config.inputOffset ≤ 1e6 ∧
      ∃ events final, replay chart config [] = .ok (events, final) ∧
        final.isJudged 150 = false ∧ final.result.counts.pgreat ≠ .ofNat chart.noteCount := by
  intro config
  have valid : config.validate = .ok () := by decide +kernel
  have behind (setup : Setup) (same : setup.config = config)
      (windows : setup.windows = JudgeWindows.ofRank defaultRank) :
      setup.isDue (larger negInfinity (setup.start.missTime rollNote)) rollNote = false := by
    have miss : setup.start.missTime rollNote = -99.0 := by
      change rollNote.time + setup.config.inputOffset + (setup.windows.bad + 1.0) = _
      rw [same, windows]
      decide +kernel
    have short : ¬rollNote.time ≤ larger negInfinity (-99.0) := by decide +kernel
    rw [miss, ← Bool.not_eq_true, Setup.isDue_auto (by rw [same])]
    exact fun due => short due.2
  obtain ⟨chart, compiled, count, early, events, final, replayed, ⟨others, moves⟩, -, fresh,
    total⟩ := roll_stalls valid rfl rfl (List.mem_singleton_self _) behind
  have flawless : final.Flawless := Session.Flawless.moves (.start rfl) moves
  have counts : final.score.counts.total = final.score.counts.pgreat := flawless.total
  change final.score.counts.total ≠ _ at total
  rw [counts] at total
  exact ⟨chart, compiled, by rw [count]; decide, early, valid, rfl, by decide +kernel,
    by decide +kernel, events, final, replayed, fresh, total⟩

end NoteChart
