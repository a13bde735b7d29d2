import NoteChart.Proofs.Play.Judging
import NoteChart.Proofs.Play.Restarting
import NoteChart.Proofs.Play.Scoring
import NoteChart.Proofs.Play.Survival
import NoteChart.Proofs.Roll
import NoteChart.Proofs.Timeline

/-!
Full combos. Every judgment of a note sets a flag and is counted once, so the counts of a play, which
the lamps from full combo up are read off, say how all its notes were judged. A full combo is a play
in which every note was hit, and this is the same as a combo over all notes.
-/
namespace NoteChart

namespace Lamp

variable {score : Score} {noteCount : Nat} {ladder : GaugeLadder} {candidates : List GaugeKind}
  {failed : Bool} {lamp : Lamp}

theorem max_le_iff : max ≤ lamp ↔ lamp = max := by
  cases lamp <;> decide

theorem ofGauge_lt (kind : GaugeKind) : ¬fullCombo ≤ ofGauge kind := by
  cases kind <;> decide

theorem le_classify_iff (high : fullCombo ≤ lamp) :
    lamp ≤ classify score noteCount ladder candidates failed ↔
      failed = false ∧ noteCount ≠ 0 ∧
        (score.counts.pgreat = .ofNat noteCount ∨
          score.counts.pgreat + score.counts.great = .ofNat noteCount ∧ lamp ≤ perfect ∨
          score.counts.pgreat + score.counts.great + score.counts.good = .ofNat noteCount ∧
            lamp ≤ fullCombo) := by
  have greatest : lamp ≤ max := by
    cases lamp <;> decide
  have beyond (other : Lamp) (low : ¬fullCombo ≤ other) : ¬lamp ≤ other :=
    fun below => low (Nat.le_trans high below)
  have lower : lamp ≤ fullCombo → lamp ≤ perfect := fun below => Nat.le_trans below (by decide)
  unfold classify
  dsimp only
  split_ifs with lost empty best good hits
  · simp [lost, beyond .failed (by decide)]
  · simp [empty, beyond .noPlay (by decide)]
  · simp [lost, empty, best, greatest]
  · simpa [lost, empty, best, good] using fun _ => lower
  · simp [lost, empty, best, good, hits]
  · simp only [best, good, hits, false_and, or_false, and_false, iff_false]
    split
    · exact beyond _ (ofGauge_lt _)
    · exact beyond .failed (by decide)

end Lamp

theorem isUnbroken_iff {given : List Judgment} :
    IsUnbroken given ↔ .bad ∉ given ∧ .poor ∉ given := by
  constructor
  · intro unbroken
    exact ⟨fun bad => absurd (unbroken _ bad) (by decide),
      fun poor => absurd (unbroken _ poor) (by decide)⟩
  · rintro ⟨bad, poor⟩ judgment inside
    cases judgment with
    | pgreat | great | good => rfl
    | bad => exact absurd inside bad
    | poor => exact absurd inside poor

namespace Score.Tells

variable {score : Score} {given : List Judgment} {n : Nat}

theorem sums (tells : score.Tells given) (few : given.length < 2 ^ 31) :
    (score.counts.pgreat.toNat = given.count .pgreat ∧
      (score.counts.pgreat + score.counts.great).toNat =
        given.count .pgreat + given.count .great ∧
      (score.counts.pgreat + score.counts.great + score.counts.good).toNat =
        given.count .pgreat + given.count .great + given.count .good ∧
      score.exScore.toNat = 2 * given.count .pgreat + given.count .great) ∧
    given.count .pgreat + given.count .great + given.count .good + given.count .bad +
      given.count .poor = given.length := by
  have total := tells.total
  have pgreat : score.counts.pgreat.toNat = given.count .pgreat := tells.counts .pgreat
  have great : score.counts.great.toNat = given.count .great := tells.counts .great
  have good : score.counts.good.toNat = given.count .good := tells.counts .good
  have bad : score.counts.bad.toNat = given.count .bad := tells.counts .bad
  have poor : score.counts.poor.toNat = given.count .poor := tells.counts .poor
  have two : (2 : UInt32).toNat = 2 := rfl
  refine ⟨⟨pgreat, ?_, ?_, ?_⟩, by omega⟩
  · rw [UInt32.toNat_add]
    omega
  · rw [UInt32.toNat_add, UInt32.toNat_add]
    omega
  · unfold exScore
    rw [UInt32.toNat_add, UInt32.toNat_mul, two]
    omega

theorem word_eq_iff {word : UInt32} (small : n < 2 ^ 31) : word = .ofNat n ↔ word.toNat = n := by
  have size : n < UInt32.size := Nat.lt_trans small (by decide)
  rw [← UInt32.toNat_inj, UInt32.toNat_ofNat_of_lt' size]

theorem maxCombo_iff (tells : score.Tells given) (inside : given.length ≤ n) :
    score.maxCombo.toNat = n ↔ given.length = n ∧ IsUnbroken given := by
  have bound := tells.maxCombo.le_length fun _ run => run.length_le
  rw [← tells.maxCombo.eq_length_iff]
  omega

variable (tells : score.Tells given) (inside : given.length ≤ n) (few : n < 2 ^ 31)

include tells inside few

theorem pgreat_iff : score.counts.pgreat = .ofNat n ↔
    given.length = n ∧ ∀ judgment ∈ given, judgment = .pgreat := by
  obtain ⟨⟨pgreat, -⟩, whole⟩ := tells.sums (by omega)
  have all : (∀ judgment ∈ given, judgment = .pgreat) ↔ given.count .pgreat = given.length := by
    simp [List.count_eq_length, eq_comm]
  rw [word_eq_iff few, pgreat, all]
  omega

theorem great_iff : score.counts.pgreat + score.counts.great = .ofNat n ↔
    given.length = n ∧ IsUnbroken given ∧ .good ∉ given := by
  obtain ⟨⟨-, sum, -⟩, whole⟩ := tells.sums (by omega)
  rw [word_eq_iff few, sum, isUnbroken_iff, ← List.count_eq_zero, ← List.count_eq_zero,
    ← List.count_eq_zero]
  omega

theorem good_iff : score.counts.pgreat + score.counts.great + score.counts.good = .ofNat n ↔
    given.length = n ∧ IsUnbroken given := by
  obtain ⟨⟨-, -, sum, -⟩, whole⟩ := tells.sums (by omega)
  rw [word_eq_iff few, sum, isUnbroken_iff, ← List.count_eq_zero, ← List.count_eq_zero]
  omega

theorem exScore_iff : score.exScore = .ofNat n * 2 ↔
    given.length = n ∧ ∀ judgment ∈ given, judgment = .pgreat := by
  obtain ⟨⟨pgreat, -, -, points⟩, whole⟩ := tells.sums (by omega)
  have size : n < UInt32.size := Nat.lt_trans few (by decide)
  have two : (2 : UInt32).toNat = 2 := rfl
  rw [← tells.pgreat_iff inside few, word_eq_iff few, pgreat, ← UInt32.toNat_inj, points,
    UInt32.toNat_mul, UInt32.toNat_ofNat_of_lt' size, two]
  omega

end Score.Tells

namespace Session

variable {s t : Session} {events : List PlayEvent}

theorem Aligned.move_count (aligned : s.Aligned) (move : Move s events t) :
    t.judged.toList.count true =
      s.judged.toList.count true + (verdicts (judgments events)).length := by
  cases move with
  | tick time playing =>
    rw [tick_judgments]
    rfl
  | timed playing near fresh due =>
    rw [judgeNote_flags (aligned.inside_of_window near) fresh, judgeNote_judgments]
    rfl
  | hit playing manual found =>
    obtain ⟨inside, fresh⟩ := aligned.inside_of_reach (hit?_mem found).1
    rw [judgeNote_flags inside fresh, judgeNote_judgments]
    rfl
  | early playing manual missed found =>
    rw [apply_judged, apply_judgments]
    rfl
  | skip => rfl

theorem Aligned.moves_count (aligned : s.Aligned) (moves : Moves s events t) :
    t.judged.toList.count true =
      s.judged.toList.count true + (verdicts (judgments events)).length := by
  induction moves with
  | none s => rfl
  | cons first rest ih =>
    rw [ih (aligned.move first), aligned.move_count first, judgments_append, verdicts_append,
      List.length_append, Nat.add_assoc]

/-- Flags and score say that these judgments were given to notes. -/
structure Told (s : Session) (given : List Judgment) : Prop where
  aligned : s.Aligned
  flags : s.judged.toList.count true = given.length
  tells : s.score.Tells given

namespace Told

variable {given : List Judgment}

theorem of_moves {setup : Setup} (few : setup.chart.notes.length < UInt32.size)
    (moves : Moves setup.start events s) : s.Told (verdicts (judgments events)) := by
  have start := Aligned.start setup
  have aligned := start.moves moves
  have clear : setup.start.judged.toList.count true = 0 := by
    simp [Setup.start, List.count_replicate]
  have flags := start.moves_count moves
  rw [clear, Nat.zero_add] at flags
  refine ⟨aligned, flags, ?_⟩
  have bound : s.judged.toList.count true ≤ s.judged.size := List.count_le_length
  have size : s.judged.size = setup.chart.notes.length := by
    rw [aligned.flags, notes, moves.same_setup]
    rfl
  rw [(Accounts.moves moves).score]
  exact .after _ (by omega)

theorem length_le (told : s.Told given) : given.length ≤ s.notes.length := by
  rw [← told.flags, ← told.aligned.flags]
  exact List.count_le_length

theorem all_iff (told : s.Told given) :
    given.length = s.notes.length ↔ ∀ i < s.notes.length, s.isJudged i = true := by
  rw [← told.flags, ← told.aligned.flags]
  exact count_judged_iff

end Told

/-- The judgments given to notes since the last restart. -/
def given (s : Session) (calls : List Call) : List Judgment :=
  verdicts (judgments (s.run (lastAttempt calls)).1)

theorem Told.of_run {setup : Setup} (few : setup.chart.notes.length < UInt32.size)
    (calls : List Call) : (setup.start.run calls).2.Told (setup.start.given calls) := by
  rw [run_lastAttempt]
  exact .of_moves few (run_moves _ _ (restart_not_mem_lastAttempt calls))

theorem press_early {lane : Lane} {time : Float} {event : JudgeEvent}
    (told : .judge event ∈ (s.press lane time).1) (early : event.empty = true) :
    s.failed = false ∧ ∃ diff, s.press lane time = s.apply none lane .poor diff true := by
  by_cases ignored : s.failed = true ∨ s.setup.config.autoplay = true
  · rw [press_ignored ignored] at told
    cases told
  · simp only [not_or, Bool.not_eq_true] at ignored
    obtain ⟨playing, manual⟩ := ignored
    refine ⟨playing, ?_⟩
    rw [press_eq_answer playing manual] at told ⊢
    unfold answer at told ⊢
    cases found : hit? s.setup.windows (s.inReach lane time) with
    | some target =>
      rw [found] at told
      have hit := mem_judgments.mpr told
      rw [judgeNote_judgments, List.mem_singleton] at hit
      rw [hit] at early
      cases early
    | none =>
      rw [found] at told
      dsimp only at told ⊢
      cases near : early? s.setup.windows (s.inReach lane time) with
      | some target => exact ⟨_, rfl⟩
      | none =>
        rw [near] at told
        cases told

theorem step_early {call : Call} {event : JudgeEvent} (told : .judge event ∈ (s.step call).1)
    (early : event.empty = true) :
    s.failed = false ∧ call ≠ .restart ∧
      ∃ lane diff, s.step call = s.apply none lane .poor diff true := by
  have hit (full : event.empty = false) : False := by
    rw [early] at full
    cases full
  cases step_justified (mem_judgments.mpr told) with
  | autoplayed _ _ _ _ verdict => exact (hit verdict.2.2).elim
  | hit _ _ _ _ _ _ verdict => exact (hit verdict.2).elim
  | missed _ _ _ _ _ verdict => exact (hit verdict.2).elim
  | @early lane _ _ _ =>
    obtain ⟨playing, diff, same⟩ := press_early told early
    exact ⟨playing, nofun, lane, diff, same⟩

theorem given_early {chart : Chart} {config : PlayConfig} {s₀ : Session}
    (accepted : Session.new chart config = .ok s₀) {calls : List Call} {call : Call}
    {event : JudgeEvent} (told : .judge event ∈ ((s₀.run calls).2.step call).1)
    (early : event.empty = true) : s₀.given (calls ++ [call]) = s₀.given calls := by
  obtain ⟨-, rfl⟩ := new_start accepted
  obtain ⟨-, playing, lane, diff, same⟩ := step_early told early
  unfold given
  rw [lastAttempt_concat, if_neg playing, run_append, ← run_lastAttempt]
  simp [run, same, verdicts_append, verdicts_single]

namespace Told

variable {given : List Judgment} {lamp : Lamp} {n : Nat}

theorem exScore_le (told : s.Told given) (few : s.notes.length < 2 ^ 31) :
    s.result.exScore.toNat ≤ 2 * given.length := by
  have bound := told.length_le
  obtain ⟨⟨-, -, -, points⟩, whole⟩ := told.tells.sums (by omega)
  have same : s.result.exScore.toNat = _ := points
  omega

variable (told : s.Told given) (counted : s.setup.chart.noteCount = n)
  (length : s.notes.length = n) (few : n < 2 ^ 31) (some : n ≠ 0) (playing : s.failed = false)

include told counted length few some playing

theorem lamp_iff (high : .fullCombo ≤ lamp) :
    lamp ≤ s.result.lamp ↔ (∀ i < n, s.isJudged i = true) ∧
      ((∀ judgment ∈ given, judgment = .pgreat) ∨
        (IsUnbroken given ∧ .good ∉ given) ∧ lamp ≤ .perfect ∨
        IsUnbroken given ∧ lamp ≤ .fullCombo) := by
  have inside : given.length ≤ n := length ▸ told.length_le
  have all := told.all_iff
  rw [length] at all
  have classified : lamp ≤ s.result.lamp ↔ _ := Lamp.le_classify_iff high
  rw [classified, counted, told.tells.pgreat_iff inside few, told.tells.great_iff inside few,
    told.tells.good_iff inside few, all]
  tauto

theorem fullCombo_iff : .fullCombo ≤ s.result.lamp ↔
    (∀ i < n, s.isJudged i = true) ∧ .bad ∉ given ∧ .poor ∉ given := by
  have best : (∀ judgment ∈ given, judgment = .pgreat) → IsUnbroken given := by
    intro all judgment inside
    rw [all judgment inside]
    rfl
  have own : Lamp.fullCombo ≤ .fullCombo := Nat.le_refl _
  rw [told.lamp_iff counted length few some playing own, ← isUnbroken_iff]
  tauto

theorem perfect_iff : .perfect ≤ s.result.lamp ↔
    (∀ i < n, s.isJudged i = true) ∧
      .bad ∉ given ∧ .poor ∉ given ∧ .good ∉ given := by
  have best : (∀ judgment ∈ given, judgment = .pgreat) →
      .bad ∉ given ∧ .poor ∉ given ∧ .good ∉ given := by
    intro all
    exact ⟨fun bad => absurd (all _ bad) (by decide), fun poor => absurd (all _ poor) (by decide),
      fun good => absurd (all _ good) (by decide)⟩
  have own : Lamp.perfect ≤ .perfect := Nat.le_refl _
  have higher : ¬Lamp.perfect ≤ .fullCombo := by decide
  rw [told.lamp_iff counted length few some playing (by decide), isUnbroken_iff]
  tauto

theorem max_iff : s.result.lamp = .max ↔
    (∀ i < n, s.isJudged i = true) ∧
      ∀ judgment ∈ given, judgment = .pgreat := by
  have higher : ¬Lamp.max ≤ .perfect ∧ ¬Lamp.max ≤ .fullCombo := by decide
  rw [← Lamp.max_le_iff, told.lamp_iff counted length few some playing (by decide)]
  tauto

end Told

theorem compiled_run {chart : Chart} {config : PlayConfig} {s₀ : Session}
    (compiled : chart.IsCompiled) (few : chart.noteCount < UInt32.size)
    (accepted : Session.new chart config = .ok s₀) (calls : List Call) :
    let s := (s₀.run calls).2
    s.Told (s₀.given calls) ∧ s.setup.config = config ∧
      s.setup.chart.noteCount = chart.noteCount ∧ s.notes.length = chart.noteCount := by
  intro s
  obtain ⟨-, rfl⟩ := new_start accepted
  have same : s.setup = _ := run_setup _ calls
  have length := modify_length chart config.modifier
  rw [← compiled.noteCount] at length
  refine ⟨.of_run (by rwa [length]) calls, congrArg Setup.config same, ?_, ?_⟩
  · rw [same, Setup.start, modify_eq]
  · rw [notes, same]
    exact length

/-- The result of a play says how its notes were judged. Every judgment of a note is counted once,
and the points are bounded by two for each. Unless the play has failed, its lamp is a full combo or
better exactly when all notes are hit, which is when the combo was over all of them, perfect or
better exactly when all are hit well, and the best one exactly when all are hit at best, which is
when no point is missing. A press that comes too early for a note changes none of this. -/
theorem result_against_play {chart : Chart} {config : PlayConfig} {s₀ : Session}
    (compiled : chart.IsCompiled) (few : chart.noteCount < 2 ^ 31)
    (accepted : Session.new chart config = .ok s₀) (calls : List Call) :
    let s := (s₀.run calls).2
    let given := s₀.given calls
    let judged := s.judged.toList.count true
    (given.length = judged ∧
      (∀ tier, (s.result.counts.get tier).toNat = given.count tier) ∧
      s.result.exScore.toNat ≤ 2 * judged ∧ 2 * judged ≤ s.result.maxExScore.toNat) ∧
    (chart.noteCount ≠ 0 → s.failed = false →
      let complete := ∀ i < chart.noteCount, s.isJudged i = true
      (.fullCombo ≤ s.result.lamp ↔ complete ∧ .bad ∉ given ∧ .poor ∉ given) ∧
      (.fullCombo ≤ s.result.lamp ↔ s.result.maxCombo.toNat = chart.noteCount) ∧
      (.perfect ≤ s.result.lamp ↔ complete ∧ .bad ∉ given ∧ .poor ∉ given ∧ .good ∉ given) ∧
      (s.result.lamp = .max ↔ complete ∧ ∀ judgment ∈ given, judgment = .pgreat) ∧
      (s.result.lamp = .max ↔ s.result.exScore = s.result.maxExScore)) ∧
    ∀ call event, .judge event ∈ (s.step call).1 → event.empty = true →
      let t := (s.step call).2
      t.judged = s.judged ∧ s₀.given (calls ++ [call]) = given ∧
        t.result.counts = s.result.counts ∧ t.result.exScore = s.result.exScore ∧
        t.result.maxExScore = s.result.maxExScore ∧ t.result.maxCombo = s.result.maxCombo ∧
        (t.failed = false → ∀ lamp, .fullCombo ≤ lamp →
          (lamp ≤ t.result.lamp ↔ lamp ≤ s.result.lamp)) := by
  intro s given judged
  obtain ⟨told, -, counted, length⟩ :=
    compiled_run compiled (Nat.lt_trans few (by decide)) accepted calls
  have inside : (s₀.given calls).length ≤ chart.noteCount := length ▸ told.length_le
  have size : chart.noteCount < UInt32.size := Nat.lt_trans few (by decide)
  have best : s.result.maxExScore = .ofNat chart.noteCount * 2 := by
    rw [← counted]
    rfl
  refine ⟨⟨told.flags.symm, told.tells.counts, ?_, ?_⟩, ?_, ?_⟩
  · change _ ≤ 2 * (s₀.run calls).2.judged.toList.count true
    rw [told.flags]
    exact told.exScore_le (length ▸ few)
  · have two : (2 : UInt32).toNat = 2 := rfl
    change 2 * (s₀.run calls).2.judged.toList.count true ≤ _
    rw [told.flags, best, UInt32.toNat_mul, UInt32.toNat_ofNat_of_lt' size, two]
    omega
  · intro some playing complete
    have all := told.all_iff
    rw [length] at all
    have full := told.fullCombo_iff counted length few some playing
    have max := told.max_iff counted length few some playing
    refine ⟨full, ?_, told.perfect_iff counted length few some playing, max, ?_⟩
    · rw [full, ← all, ← isUnbroken_iff]
      exact (told.tells.maxCombo_iff inside).symm
    · rw [max, ← all, best]
      exact (told.tells.exScore_iff inside few).symm
  · intro call event tells early t
    obtain ⟨playing, -, lane, diff, same⟩ := step_early tells early
    have changed : t = (s.apply none lane .poor diff true).2 := congrArg Prod.snd same
    have setup : t.setup = s.setup := by rw [changed, apply_setup]
    have counts : t.score.counts = s.score.counts := by simp [changed, Score.record]
    have longest : t.score.maxCombo = s.score.maxCombo := by simp [changed, Score.record]
    refine ⟨by rw [changed, apply_judged], given_early accepted tells early, counts, ?_, ?_,
      longest, ?_⟩
    · change t.score.exScore = s.score.exScore
      rw [Score.exScore, counts, Score.exScore]
    · change t.setup.chart.maxExScore = s.setup.chart.maxExScore
      rw [setup]
    · intro lasting lamp high
      change lamp ≤ Lamp.classify _ _ _ _ _ ↔ lamp ≤ Lamp.classify _ _ _ _ _
      rw [Lamp.le_classify_iff high, Lamp.le_classify_iff high, counts, setup, lasting, playing]

theorem result_against_play_of_two_presses :
    let chart := Chart.ofSource (rollSource 2)
    let calls := [Call.advance 0.0, .press ⟨.p1, .key 1⟩ 5.0, .press ⟨.p1, .key 1⟩ 7.0]
    ∃ s₀, Session.new chart .standard = .ok s₀ ∧
      let s := (s₀.run calls).2
      s.failed = false ∧ s.result.exScore.toNat ≤ 2 * s.judged.toList.count true ∧
        (.fullCombo ≤ s.result.lamp ↔ s.result.maxCombo.toNat = 2) := by
  intro chart calls
  have compiled : chart.IsCompiled := Chart.ofSource_isCompiled _
  have count : chart.noteCount = 2 := by
    rw [compiled.noteCount, roll_notes, List.length_replicate]
  obtain ⟨s₀, accepted⟩ : ∃ s₀, Session.new chart .standard = .ok s₀ := ⟨_, rfl⟩
  obtain ⟨surviving, same⟩ := run_surviving accepted calls
  have allowed : .groove ∈ (s₀.run calls).2.setup.config.kinds := same ▸ by decide
  have playing := surviving.lasts allowed rfl
  have few : chart.noteCount < 2 ^ 31 := by omega
  obtain ⟨⟨-, -, points, -⟩, lamps, -⟩ := result_against_play compiled few accepted calls
  refine ⟨s₀, accepted, playing, points, ?_⟩
  rw [(lamps (by omega) playing).2.1, count]

end Session
end NoteChart
