import NoteChart.Proofs.Play.Autoplay
import NoteChart.Proofs.Play.FullCombo

/-!
Autoplay is faultless, whatever the chart and its TOTAL, the gauge and the offset, and however the
session is called. Nothing is judged but notes that the clock has come to, and nothing but the best
judgment is given. So the combo never breaks, the gauges that need survival stay full, and a play in
which every note is judged is the best there is.
-/
namespace NoteChart

theorem survival_starts_full (emptyKills : Bool) (total : Float) (noteCount : Nat)
    {kind : GaugeKind} (survival : kind.isSurvival = true) :
    (Gauge.ofElement ((GaugeElement.standard emptyKills).get kind) total noteCount).value =
      100.0 := by
  cases kind with
  | assist | easy | groove => cases survival
  | hard | exHard | hazard => rfl

namespace Session

variable {s : Session} {given : List Judgment}

theorem autoplay_justified (auto : s.setup.config.autoplay = true) {call : Call}
    {event : JudgeEvent} (told : .judge event ∈ (s.step call).1) :
    ∃ time index note, call = .advance time ∧ s.Awaits index note ∧
      note.time ≤ (s.advance time).2.clock ∧
      event.index? = some index ∧ event.lane = note.lane ∧
      event.judgment = .pgreat ∧ event.diff = 0.0 ∧ event.empty = false := by
  have automatic (manual : s.setup.config.autoplay = false) : False := by
    rw [auto] at manual
    cases manual
  cases step_justified (mem_judgments.mpr told) with
  | @autoplayed time index note _ awaits reached about verdict =>
    exact ⟨time, index, note, rfl, awaits, reached, about.1, about.2, verdict⟩
  | hit manual => exact (automatic manual).elim
  | missed manual => exact (automatic manual).elim
  | early manual => exact (automatic manual).elim

namespace Flawless

theorem run {setup : Setup} (auto : setup.config.autoplay = true) (calls : List Call) :
    (setup.start.run calls).2.Flawless := by
  apply run_preserves
  · apply step_preserves
    · exact fun s flawless => .start flawless.auto
    · exact fun s events t flawless move => flawless.move move
  · exact .start auto

theorem full_value (flawless : s.Flawless) {kind : GaugeKind} (survival : kind.isSurvival = true) :
    s.ladder.value kind = 100.0 := by
  unfold GaugeLadder.value
  rw [flawless.full kind survival, Setup.start, GaugeLadder.ofElements_gauge]
  exact survival_starts_full _ _ _ survival

theorem best (flawless : s.Flawless) (told : s.Told given) :
    ∀ judgment ∈ given, judgment = .pgreat := by
  intro judgment inside
  have counted := told.tells.counts judgment
  have positive := List.count_pos_iff.mpr inside
  rw [flawless.counts] at counted
  cases judgment with
  | pgreat => rfl
  | great | good | bad | poor => exact absurd counted positive.ne

theorem combos (flawless : s.Flawless) (told : s.Told given) :
    s.score.combo = s.score.maxCombo ∧ s.score.maxCombo.toNat = s.judged.toList.count true := by
  have unbroken : IsUnbroken given := by
    intro judgment inside
    rw [flawless.best told judgment inside]
    rfl
  have last := told.tells.combo.whole List.suffix_rfl (fun _ run => run.length_le) unbroken
  have greatest := told.tells.maxCombo.eq_length_iff.mpr unbroken
  rw [told.flags, ← UInt32.toNat_inj]
  exact ⟨last.trans greatest.symm, greatest⟩

theorem complete (flawless : s.Flawless) (surviving : s.Surviving)
    (counted : s.setup.chart.noteCount = s.notes.length) (some : s.setup.chart.noteCount ≠ 0)
    (all : ∀ i < s.setup.chart.noteCount, s.isJudged i = true) :
    s.result.lamp = .max ∧ s.result.exScore = s.result.maxExScore := by
  have flags := flawless.aligned.flags
  have total : s.score.counts.total = .ofNat s.setup.chart.noteCount := by
    rw [counted, ← flags] at all ⊢
    rw [flawless.total, flawless.counts, count_judged_iff.mpr all]
  obtain ⟨-, points, -, lamp⟩ := flawless.result (flawless.lasts surviving) some total
  exact ⟨lamp, points⟩

end Flawless

/-- However a session in autoplay is called, presses change nothing, and every judgment is the best
one, given by a move of the clock to a note that has none yet and whose time has come. The play does
not fail, its combo is unbroken and counts the notes that are judged, and the gauges that need
survival are full. Once all notes of a compiled chart are judged, the lamp is the best one and no
point is missing. -/
theorem autoplay_faultless {chart : Chart} {config : PlayConfig} {s₀ : Session}
    (few : chart.notes.length < UInt32.size) (accepted : Session.new chart config = .ok s₀)
    (auto : config.autoplay = true) (calls : List Call) :
    let s := (s₀.run calls).2
    (∀ lane time, s.press lane time = ([], s)) ∧
    (∀ event, .judge event ∈ (s₀.run calls).1 →
      ∃ before time after index note, calls = before ++ .advance time :: after ∧
        (s₀.run before).2.Awaits index note ∧
        note.time ≤ ((s₀.run before).2.advance time).2.clock ∧
        event.index? = some index ∧ event.lane = note.lane ∧
        event.judgment = .pgreat ∧ event.diff = 0.0 ∧ event.empty = false) ∧
    s.failed = false ∧
    (s.score.combo = s.score.maxCombo ∧ s.score.maxCombo.toNat = s.judged.toList.count true) ∧
    (∀ kind, kind.isSurvival = true → s.ladder.value kind = 100.0) ∧
    (chart.IsCompiled → chart.noteCount ≠ 0 → (∀ i < chart.noteCount, s.isJudged i = true) →
      s.result.lamp = .max ∧ s.result.exScore = s.result.maxExScore) := by
  intro s
  have surviving : s.Surviving := (run_surviving accepted calls).1
  obtain rfl : s₀ = (Setup.ofChart chart config).start := (new_start accepted).2
  have length : (Setup.ofChart chart config).chart.notes.length = chart.notes.length :=
    modify_length chart config.modifier
  have same : s.setup = Setup.ofChart chart config := run_setup _ calls
  have flawless : s.Flawless := .run auto calls
  have told := Told.of_run (by rwa [length]) calls
  refine ⟨press_ignored (Or.inr flawless.auto), ?_, flawless.lasts surviving,
    flawless.combos told, fun kind => flawless.full_value, ?_⟩
  · intro event given
    obtain ⟨before, call, after, split, inside⟩ := mem_run given
    have earlier : ((Setup.ofChart chart config).start.run before).2.Flawless := .run auto before
    obtain ⟨time, index, note, rfl, reason⟩ := autoplay_justified earlier.auto inside
    exact ⟨before, time, after, index, note, split, reason⟩
  · intro compiled some all
    have counted : s.setup.chart.noteCount = chart.noteCount := by
      rw [same, Setup.ofChart, modify_eq]
    have notes : s.notes.length = chart.noteCount := by
      rw [Session.notes, same, compiled.noteCount]
      exact length
    rw [← counted] at some all
    exact flawless.complete surviving (counted.trans notes.symm) some all

theorem autoplay_faultless_of_two_notes :
    let chart := Chart.ofSource ⟨[.header "TOTAL" "1e300", .row 0 ⟨0x11, "0001", 2⟩,
      .row 1 ⟨0x12, "02", 3⟩]⟩
    let config :=
      { PlayConfig.standard with
        gauge := .hazard, autoShift := true, autoplay := true, inputOffset := -500.0 }
    let calls := [Call.advance 950.0, .press ⟨.p1, .key 2⟩ 1000.0, .advance 2000.0]
    chart.notes.length < UInt32.size ∧ ∃ s₀, Session.new chart config = .ok s₀ ∧
      let s := (s₀.run calls).2
      chart.noteCount = 2 ∧ (∀ i < chart.noteCount, s.isJudged i = true) ∧ s.failed = false ∧
        s.score.maxCombo.toNat = s.judged.toList.count true ∧ s.ladder.value .hazard = 100.0 ∧
        s.result.lamp = .max ∧ s.result.exScore = s.result.maxExScore := by
  intro chart config calls
  have few : chart.notes.length < UInt32.size := by decide +kernel
  have valid : config.validate = .ok () := by decide +kernel
  obtain ⟨s₀, accepted⟩ : ∃ s₀, Session.new chart config = .ok s₀ := by
    unfold Session.new
    rw [valid]
    exact ⟨_, rfl⟩
  obtain ⟨-, -, playing, ⟨-, combo⟩, full, perfect⟩ := autoplay_faultless few accepted rfl calls
  have all : ∀ i < chart.noteCount, (s₀.run calls).2.isJudged i = true := by
    rw [(new_start accepted).2]
    decide +kernel
  obtain ⟨lamp, points⟩ := perfect (Chart.ofSource_isCompiled _) (by decide +kernel) all
  exact ⟨few, s₀, accepted, by decide +kernel, all, playing, combo, full .hazard rfl, lamp, points⟩

end Session
end NoteChart
