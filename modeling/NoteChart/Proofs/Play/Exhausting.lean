import NoteChart.Proofs.Binary64.Precision
import NoteChart.Proofs.Play.Replaying
import NoteChart.Proofs.Roll
import NoteChart.Proofs.Timeline

/-!
Replays to the end. With times below 10 to the 12 and offsets up to 10 to the 6 milliseconds, no sum
of them is off by a millisecond. So a note is due when it is to be missed, as long as the offset is
not earlier than the clock looks ahead, and else as soon as it is there; but then the clock stops
before it.
-/
namespace NoteChart

open Binary64

theorem JudgeWindows.ofRank_bad (rank : UInt8) : ∃ n : Nat, 100 ≤ n ∧ n ≤ 200 ∧
    (JudgeWindows.ofRank rank).bad = .ofNat n ∧
    (JudgeWindows.ofRank rank).bad + 1.0 = .ofNat (n + 1) ∧
    (JudgeWindows.ofRank rank).bad + 1000.0 = .ofNat (n + 1000) := by
  unfold ofRank
  split
  · exact ⟨100, by decide +kernel⟩
  · exact ⟨100, by decide +kernel⟩
  · exact ⟨200, by decide +kernel⟩
  · exact ⟨200, by decide +kernel⟩

/-- Times and offsets whose sums are exact within a fraction of a millisecond. -/
structure Setup.InRange (setup : Setup) (note : Note) : Prop where
  windows : ∃ rank, setup.windows = JudgeWindows.ofRank rank
  low : -1e6 ≤ setup.config.inputOffset
  high : setup.config.inputOffset ≤ 1e6
  nonneg : 0.0 ≤ note.time
  early : note.time < 1e12

structure Setup.Figures (setup : Setup) (note : Note) (T O : ℝ) (n : Nat) : Prop where
  time : IsNear note.time T 0
  offset : IsNear setup.config.inputOffset O 0
  bad : IsNear setup.windows.bad n 0
  past : IsNear (setup.windows.bad + 1.0) (n + 1) 0
  bounds : 0 ≤ T ∧ T ≤ 10 ^ 12 ∧ -10 ^ 6 ≤ O ∧ O ≤ 10 ^ 6
  window : (100 : ℝ) ≤ n ∧ (n : ℝ) ≤ 200

namespace Setup

variable {setup : Setup} {note : Note} {T O : ℝ} {n : Nat}

theorem InRange.figures (range : setup.InRange note) : ∃ T O n, setup.Figures note T O n ∧
    (-(setup.windows.bad + 1000.0) ≤ setup.config.inputOffset ↔ -((n : ℝ) + 1000) ≤ O) ∧
    (-setup.windows.bad ≤ setup.config.inputOffset ↔ -(n : ℝ) ≤ O) := by
  obtain ⟨⟨rank, windows⟩, low, high, nonneg, early⟩ := range
  obtain ⟨n, least, most, bad, past, far⟩ := JudgeWindows.ofRank_bad rank
  have million : (1e6 : Float) = .ofNat (10 ^ 6) := by decide +kernel
  have limit : (1e12 : Float) = .ofNat (10 ^ 12) := by decide +kernel
  have time_finite : note.time.isFinite = true :=
    isFinite_of_between nonneg (Binary64.le_of_lt early) (by decide) (by decide +kernel)
  have offset_finite : setup.config.inputOffset.isFinite = true :=
    isFinite_of_between low high (by decide +kernel) (by decide +kernel)
  have count {k : Nat} (small : k < 2 ^ 53) : (Float.ofNat k).isFinite = true :=
    ofNat_isFinite (small.trans (by decide))
  have negative {k : Nat} (small : k < 2 ^ 53) : (-Float.ofNat k).isFinite = true :=
    isFinite_neg (count small)
  refine ⟨real note.time, real setup.config.inputOffset, n, ⟨.self time_finite,
    .self offset_finite, ?_, ?_, ⟨?_, ?_, ?_, ?_⟩, by exact_mod_cast least, by exact_mod_cast most⟩,
    ?_, ?_⟩
  · rw [windows, bad]
    exact IsNear.ofNat (by omega)
  · rw [windows, past]
    exact_mod_cast IsNear.ofNat (n := n + 1) (by omega)
  · have zero : (0.0 : Float) = .ofNat 0 := by decide
    rw [zero, le_iff_real (by decide) time_finite, real_ofNat (by decide)] at nonneg
    exact_mod_cast nonneg
  · rw [limit, lt_iff_real time_finite (count (by decide)), real_ofNat (by decide)] at early
    exact_mod_cast early.le
  · rw [million, le_iff_real (negative (by decide)) offset_finite, real_neg,
      real_ofNat (by decide)] at low
    exact_mod_cast low
  · rw [million, le_iff_real offset_finite (count (by decide)), real_ofNat (by decide)] at high
    exact_mod_cast high
  · rw [windows, far, le_iff_real (negative (by omega)) offset_finite, real_neg,
      real_ofNat (by omega)]
    push_cast
    rfl
  · rw [windows, bad, le_iff_real (negative (by omega)) offset_finite, real_neg,
      real_ofNat (by omega)]

theorem near_tolerance : IsNear futureTolerance 1000 0 := by
  have same : futureTolerance = .ofNat 1000 := by decide +kernel
  rw [same]
  exact_mod_cast IsNear.ofNat (n := 1000) (by decide)

theorem Figures.missTime (figures : setup.Figures note T O n) :
    IsNear (setup.start.missTime note) (T + O + (n + 1)) (2 ^ (-12 : ℤ)) := by
  obtain ⟨time, offset, -, past, ⟨_, _, _, _⟩, _, _⟩ := figures
  have sum := time.add offset (by norm_num) (abs_le.mpr ⟨by linarith, by linarith⟩)
  have total := sum.add past (by norm_num) (abs_le.mpr ⟨by linarith, by linarith⟩)
  norm_num at total ⊢
  exact total

theorem Figures.in_sight (figures : setup.Figures note T O n) {now : Float} {N e : ℝ}
    (near : IsNear now N e) (fine : e ≤ 2 ^ (-12 : ℤ)) (small : |N + 1000| ≤ 2 ^ 40 - 1)
    (close : T ≤ N + 999) : ¬now + futureTolerance < note.time := by
  norm_num at fine
  have sight := near.add near_tolerance (by linarith) small
  rw [lt_iff_real sight.finite figures.time.finite, not_lt]
  have left := abs_le.mp sight.near
  have right := abs_le.mp figures.time.near
  norm_num at left right
  linarith

/-- At the time at which a note is to be missed its last window has closed. It is in sight then,
unless the offset is earlier than all that a move of the clock looks ahead. -/
theorem InRange.isDue_missTime (range : setup.InRange note)
    (manual : setup.config.autoplay = false)
    (reach : -(setup.windows.bad + 1000.0) ≤ setup.config.inputOffset) :
    IsNumber (setup.start.missTime note) ∧
      setup.isDue (setup.start.missTime note) note = true := by
  obtain ⟨T, O, n, figures, far, -⟩ := range.figures
  have miss := figures.missTime
  have ⟨time, offset, bad, _, ⟨_, _, _, _⟩, _, _⟩ := figures
  have late : -((n : ℝ) + 1000) ≤ O := far.mp reach
  refine ⟨isNumber_of_finite miss.finite, isDue_iff.mpr ⟨?_, ?_⟩⟩
  · exact figures.in_sight miss le_rfl (abs_le.mpr ⟨by linarith, by linarith⟩) (by linarith)
  · have corrected := miss.sub offset (by norm_num) (abs_le.mpr ⟨by linarith, by linarith⟩)
    have diff := corrected.sub time (by norm_num) (abs_le.mpr ⟨by linarith, by linarith⟩)
    rw [manual, if_neg (by decide), lt_iff_real bad.finite diff.finite]
    have left := abs_le.mp bad.near
    have right := abs_le.mp diff.near
    norm_num at left right
    linarith

theorem InRange.isDue_time (range : setup.InRange note)
    (manual : setup.config.autoplay = false)
    (early : ¬-(setup.windows.bad + 1000.0) ≤ setup.config.inputOffset) :
    setup.isDue note.time note = true := by
  obtain ⟨T, O, n, figures, far, -⟩ := range.figures
  have ⟨time, offset, bad, _, ⟨_, _, _, _⟩, _, _⟩ := figures
  rw [far, not_le] at early
  refine isDue_iff.mpr ⟨?_, ?_⟩
  · exact figures.in_sight time (by norm_num) (abs_le.mpr ⟨by linarith, by linarith⟩)
      (by linarith)
  · have corrected := time.sub offset (by norm_num) (abs_le.mpr ⟨by linarith, by linarith⟩)
    have diff := corrected.sub time (by norm_num) (abs_le.mpr ⟨by linarith, by linarith⟩)
    rw [manual, if_neg (by decide), lt_iff_real bad.finite diff.finite]
    have left := abs_le.mp bad.near
    have right := abs_le.mp diff.near
    norm_num at left right
    linarith

end Setup

structure Session.Pressed (s : Session) (chart : Chart) (config : PlayConfig) : Prop where
  settled : s.Settled
  moves : ∃ earlier, Moves (Setup.ofChart chart config).start earlier s
  length : s.notes.length = chart.noteCount
  inRange : ∀ note ∈ s.notes, s.setup.InRange note
  before : ∀ note ∈ s.notes, note.time ≤ s.setup.chart.duration

namespace Session.Pressed

variable {s : Session} {chart : Chart} {config : PlayConfig}

theorem setup (pressed : s.Pressed chart config) : s.setup = Setup.ofChart chart config := by
  obtain ⟨earlier, moves⟩ := pressed.moves
  exact moves.same_setup

theorem isDue_end (pressed : s.Pressed chart config) {note : Note} (inside : note ∈ s.notes)
    (due : s.setup.isDue note.time note = true) :
    IsNumber s.setup.chart.duration ∧ s.setup.isDue s.setup.chart.duration note = true := by
  have before := pressed.before note inside
  obtain ⟨number, number', -⟩ := le_iff.mp before
  exact ⟨number', Setup.isDue_mono pressed.settled.finite before (Binary64.le_refl number) due⟩

theorem reaches_end (pressed : s.Pressed chart config) (few : chart.noteCount ≤ lookAhead)
    (due : ∀ note ∈ s.notes, s.setup.isDue note.time note = true) : s.Reaches :=
  Or.inr ⟨pressed.length.trans_le few,
    fun note inside => pressed.isDue_end inside (due note inside)⟩

theorem all_judged (pressed : s.Pressed chart config) (all : ∀ i < s.notes.length,
    s.ending.isJudged i = true) : (∀ i < chart.noteCount, s.ending.isJudged i = true) ∧
      s.ending.score.counts.total = .ofNat chart.noteCount := by
  have notes : s.ending.notes = s.notes := congrArg (·.chart.notes) s.ending_setup
  rw [← pressed.length, ← notes]
  rw [← notes] at all
  exact ⟨all, pressed.settled.ending.total_of_all all⟩

end Session.Pressed

section Replay

variable {arithmetic : Chart.Arithmetic} {text : String} {chart : Chart} {config : PlayConfig}
  (compiled : Chart.ofText arithmetic text = .ok chart) (size : text.utf8ByteSize < UInt64.size)
  (early : ∀ note ∈ chart.notes, note.time < 1e12)
  (valid : config.validate = .ok ()) (ranked : config.windows? = none)
  (low : -1e6 ≤ config.inputOffset) (high : config.inputOffset ≤ 1e6)
  (inputs : List InputRecord)

include compiled size early valid ranked low high

theorem replay_pressed : ∃ events, ∃ s : Session,
    replay chart config inputs = .ok (events, s.ending) ∧ s.Pressed chart config := by
  have count : chart.noteCount = chart.notes.length := by
    obtain ⟨source, md5, sha256, -, rfl⟩ := Chart.ofText_eq compiled
    rfl
  obtain ⟨sorted, between⟩ := (Chart.ofText_isTimed compiled size).streams _ (.head _)
  have numbers : ∀ t ∈ chart.notes.map Note.time, IsNumber t :=
    fun t inside => (isNumber_of_le (between t inside).1).2
  obtain ⟨events, pressed, played, settled, earlier, moves⟩ :=
    replay_settled valid numbers sorted inputs
  have setup : pressed.setup = Setup.ofChart chart config := moves.same_setup
  have times : pressed.notes.map Note.time = chart.notes.map Note.time := by
    rw [Session.notes, setup]
    exact Session.modify_times chart config.modifier
  have given : ∀ note ∈ pressed.notes, note.time ∈ chart.notes.map Note.time := by
    rw [← times]
    exact fun note inside => List.mem_map_of_mem inside
  refine ⟨events, pressed, played, settled, ⟨earlier, moves⟩, ?_, ?_, ?_⟩
  · simpa [count] using congrArg List.length times
  · intro note inside
    obtain ⟨other, listed, same⟩ := List.mem_map.mp (given note inside)
    have windows : pressed.setup.windows = JudgeWindows.ofRank chart.rank := by
      simp [setup, Setup.ofChart, PlayConfig.windowsFor, ranked]
    refine ⟨⟨chart.rank, windows⟩, ?_, ?_, (between _ (given note inside)).1, ?_⟩
    · rw [setup]
      exact low
    · rw [setup]
      exact high
    · rw [← same]
      exact early other listed
  · intro note inside
    have finish : (chart.modify config.modifier).duration = chart.duration := by
      rw [Session.modify_eq]
    rw [setup, Setup.ofChart, finish]
    exact (between _ (given note inside)).2

/-- A replay goes through the whole chart: unless the play fails, every note is judged by the end
and counted in a word. A chart with more notes than are considered at a time needs an offset that
is not earlier than the clock looks ahead. -/
theorem replay_exhausts (manual : config.autoplay = false)
    (covered : chart.noteCount ≤ lookAhead ∨
      -((config.windowsFor chart.rank).bad + 1000.0) ≤ config.inputOffset) :
    ∃ events final, replay chart config inputs = .ok (events, final) ∧
      (final.failed = true ∨ (∀ i < chart.noteCount, final.isJudged i = true) ∧
        final.result.counts.total = .ofNat chart.noteCount) := by
  obtain ⟨events, s, played, pressed⟩ :=
    replay_pressed compiled size early valid ranked low high inputs
  have manual : s.setup.config.autoplay = false := by
    rw [pressed.setup]
    exact manual
  have reaches : s.Reaches := by
    by_cases late : -(s.setup.windows.bad + 1000.0) ≤ s.setup.config.inputOffset
    · exact Or.inl fun note inside => (pressed.inRange note inside).isDue_missTime manual late
    · refine pressed.reaches_end (covered.resolve_right ?_) ?_
      · rwa [pressed.setup] at late
      · exact fun note inside => (pressed.inRange note inside).isDue_time manual late
  exact ⟨events, s.ending, played,
    (pressed.settled.ending_judges reaches).imp_right pressed.all_judged⟩

end Replay

theorem replay_exhausts_of_two_notes :
    ∃ chart, Chart.ofText .checked (rollText 2) = .ok chart ∧ (rollText 2).utf8ByteSize < UInt64.size ∧
      (∀ note ∈ chart.notes, note.time < 1e12) ∧ PlayConfig.standard.validate = .ok () ∧
      ∃ events final, replay chart .standard [] = .ok (events, final) ∧
        (final.failed = true ∨ (∀ i < chart.noteCount, final.isJudged i = true) ∧
          final.result.counts.total = .ofNat chart.noteCount) := by
  obtain ⟨chart, compiled, notes, count, -⟩ := ofText_roll .checked 2
  have size : (rollText 2).utf8ByteSize < UInt64.size := by decide +kernel
  have early := roll_early notes
  have valid : PlayConfig.standard.validate = .ok () := rfl
  have few : chart.noteCount ≤ lookAhead := by
    rw [count]
    decide
  exact ⟨chart, compiled, size, early, valid, replay_exhausts compiled size early valid rfl
    (by decide +kernel) (by decide +kernel) [] rfl (Or.inl few)⟩

theorem roll_stalls {config : PlayConfig} (valid : config.validate = .ok ())
    (straight : config.modifier = .identity) (ranked : config.windows? = none)
    (groove : GaugeKind.groove ∈ config.kinds)
    (behind : ∀ setup : Setup, setup.config = config →
      setup.windows = JudgeWindows.ofRank defaultRank →
      setup.isDue (larger negInfinity (setup.start.missTime rollNote)) rollNote = false) :
    ∃ chart, Chart.ofText .checked (rollText 151) = .ok chart ∧ chart.noteCount = 151 ∧
      (∀ note ∈ chart.notes, note.time < 1e12) ∧
      ∃ events final, replay chart config [] = .ok (events, final) ∧
        (∃ others, Session.Moves (Setup.ofChart chart config).start others final) ∧
        final.failed = false ∧ final.isJudged 150 = false ∧
        final.result.counts.total ≠ .ofNat chart.noteCount := by
  obtain ⟨chart, compiled, notes, count, rank⟩ := ofText_roll .checked 151
  have length : chart.notes.length = 151 := by rw [notes, List.length_replicate]
  have times := roll_times notes
  have first : (Setup.ofChart chart config).chart.notes[0]? = some rollNote := by
    simp [Setup.ofChart, Chart.modify, straight, notes]
  have windows : (Setup.ofChart chart config).windows = JudgeWindows.ofRank defaultRank := by
    simp [Setup.ofChart, PlayConfig.windowsFor, ranked, rank]
  have stalled := replay_stalls valid (fun t inside => times t inside ▸ isNumber_zero)
    (roll_sorted notes) first (behind _ rfl windows) groove rfl (by rw [length]; decide)
    (by rw [length]; decide)
  rw [length, ← count] at stalled
  exact ⟨chart, compiled, count, roll_early notes, stalled⟩

/-- Two seconds early is too early for a chart with one note more than are considered at a time. -/
theorem replay_leaves_a_note :
    let config := { PlayConfig.standard with inputOffset := -2000.0 }
    ∃ chart, Chart.ofText .checked (rollText 151) = .ok chart ∧
      (∀ note ∈ chart.notes, note.time < 1e12) ∧ config.validate = .ok () ∧
      config.autoplay = false ∧ config.windows? = none ∧
      -1e6 ≤ config.inputOffset ∧ config.inputOffset ≤ 1e6 ∧
      ∃ events final, replay chart config [] = .ok (events, final) ∧ final.failed = false ∧
        final.isJudged 150 = false ∧ final.result.counts.total ≠ .ofNat chart.noteCount := by
  intro config
  have valid : config.validate = .ok () := by decide +kernel
  have behind (setup : Setup) (same : setup.config = config)
      (windows : setup.windows = JudgeWindows.ofRank defaultRank) :
      setup.isDue (larger negInfinity (setup.start.missTime rollNote)) rollNote = false := by
    have miss : setup.start.missTime rollNote = -1799.0 := by
      change rollNote.time + setup.config.inputOffset + (setup.windows.bad + 1.0) = _
      rw [same, windows]
      decide +kernel
    have far : larger negInfinity (-1799.0) + futureTolerance < rollNote.time := by decide +kernel
    rw [miss]
    simp [Setup.isDue, far]
  obtain ⟨chart, compiled, -, early, events, final, replayed, -, stalled⟩ :=
    roll_stalls valid rfl rfl (List.mem_singleton_self _) behind
  exact ⟨chart, compiled, early, valid, rfl, rfl, by decide +kernel, by decide +kernel,
    events, final, replayed, stalled⟩

end NoteChart
