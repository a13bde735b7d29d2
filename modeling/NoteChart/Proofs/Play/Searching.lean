import NoteChart.Proofs.Binary64.Distance
import NoteChart.Proofs.Play.Judging
import NoteChart.Proofs.Play.Ticking

/-!
What a press finds. It looks only at the notes around the cursor, and yet finds what a search
through the whole chart would find: the notes behind the cursor have their judgments, and when the
first note past the window is further ahead than POOR reaches, so are all that follow it.
-/
namespace NoteChart

open Binary64

namespace JudgeWindows

theorem ofRank_isValid (rank : UInt8) : (ofRank rank).isValid = true := by
  unfold ofRank
  split <;> decide +kernel

theorem bad_bounds {windows : JudgeWindows} (valid : windows.isValid = true) :
    windows.bad.isFinite = true ∧ windows.bad ≤ windows.poor := by
  simp only [isValid, toList, List.all_cons, Bool.and_eq_true, decide_eq_true_eq] at valid
  exact ⟨valid.1.1.1.1.2.2.2.1.1, valid.2⟩

def IsHit (windows : JudgeWindows) (time : Float) (note : Note) : Prop :=
  (time - note.time).abs ≤ windows.bad

def IsAhead (windows : JudgeWindows) (time : Float) (note : Note) : Prop :=
  windows.bad < note.time - time ∧ note.time - time ≤ windows.poor

theorem isAhead_iff {windows : JudgeWindows} {time : Float} {note : Note} :
    windows.IsAhead time note ↔
      windows.bad < -(time - note.time) ∧ -(time - note.time) ≤ windows.poor := by
  rw [lt_neg_sub, neg_sub_le]
  rfl

end JudgeWindows

theorem PlayConfig.windowsFor_isValid {config : PlayConfig} (valid : config.validate = .ok ())
    (rank : UInt8) : (config.windowsFor rank).isValid = true := by
  unfold validate validateWindows at valid
  unfold windowsFor
  cases given : config.windows? with
  | none => exact JudgeWindows.ofRank_isValid rank
  | some windows =>
    rw [given] at valid
    dsimp only [JudgeWindows.validate] at valid
    split_ifs at valid with sound
    exact sound

namespace Session

theorem nearest?_concat (targets : List Target) (target : Target) :
    nearest? (targets ++ [target]) =
      match nearest? targets with
      | some best => if target.diff.abs < best.diff.abs then some target else some best
      | none => some target :=
  List.foldl_append

theorem nearest?_eq_none {targets : List Target} (none : nearest? targets = none) :
    targets = [] := by
  rcases List.eq_nil_or_concat targets with empty | ⟨front, last, rfl⟩
  · exact empty
  · rw [List.concat_eq_append, nearest?_concat] at none
    cases earlier : nearest? front with
    | none =>
      rw [earlier] at none
      cases none
    | some best =>
      rw [earlier] at none
      dsimp only at none
      split_ifs at none

theorem nearest?_split {targets : List Target} {best : Target}
    (numbers : ∀ target ∈ targets, IsNumber target.diff.abs)
    (found : nearest? targets = some best) :
    ∃ before after, targets = before ++ best :: after ∧
      (∀ target ∈ before, best.diff.abs < target.diff.abs) ∧
      ∀ target ∈ after, best.diff.abs ≤ target.diff.abs := by
  induction targets using List.reverseRecOn generalizing best with
  | nil => cases found
  | append_singleton targets last ih =>
    have numbers' : ∀ target ∈ targets, IsNumber target.diff.abs :=
      fun target inside => numbers target (List.mem_append_left _ inside)
    have number : IsNumber last.diff.abs := numbers last (by simp)
    rw [nearest?_concat] at found
    cases earlier : nearest? targets with
    | none =>
      rw [earlier] at found
      cases found
      rw [nearest?_eq_none earlier]
      exact ⟨[], [], rfl, nofun, nofun⟩
    | some nearer =>
      obtain ⟨before, after, split, further, others⟩ := ih numbers' earlier
      rw [earlier] at found
      dsimp only at found
      split_ifs at found with closer
      · cases found
        refine ⟨targets, [], rfl, ?_, nofun⟩
        intro target inside
        rw [split, List.mem_append, List.mem_cons] at inside
        rcases inside with front | rfl | back
        · exact Binary64.lt_of_lt_of_le closer (Binary64.le_of_lt (further target front))
        · exact closer
        · exact Binary64.lt_of_lt_of_le closer (others target back)
      · cases found
        refine ⟨before, after ++ [last], by simp [split], further, ?_⟩
        intro target inside
        rcases List.mem_append.mp inside with back | same
        · exact others target back
        · rw [List.mem_singleton.mp same]
          have kept : IsNumber best.diff.abs := numbers' best (by simp [split])
          exact (Binary64.not_lt number kept).mp closer

theorem hit?_least {windows : JudgeWindows} {targets : List Target} {target : Target}
    (sorted : targets.Pairwise fun a b => a.index < b.index)
    (found : hit? windows targets = some target) {other : Target} (inside : other ∈ targets)
    (near : other.diff.abs ≤ windows.bad) :
    target.diff.abs ≤ other.diff.abs ∧
      (other.index < target.index → target.diff.abs < other.diff.abs) := by
  have numbers : ∀ t ∈ targets.filter (fun t => t.diff.abs ≤ windows.bad),
      IsNumber t.diff.abs :=
    fun t given => (isNumber_of_le (of_decide_eq_true (List.mem_filter.mp given).2)).1
  obtain ⟨before, after, split, further, others⟩ := nearest?_split numbers found
  have given : other ∈ targets.filter (fun t => t.diff.abs ≤ windows.bad) :=
    List.mem_filter.mpr ⟨inside, decide_eq_true near⟩
  replace sorted := sorted.filter fun t => decide (t.diff.abs ≤ windows.bad)
  rw [split] at given sorted
  rw [List.pairwise_append, List.pairwise_cons] at sorted
  rcases List.mem_append.mp given with front | back
  · have apart := further other front
    exact ⟨Binary64.le_of_lt apart, fun _ => apart⟩
  · rcases List.mem_cons.mp back with rfl | back
    · exact ⟨Binary64.le_refl (isNumber_of_le near).1, fun less => absurd less (lt_irrefl _)⟩
    · have behind := sorted.2.1.1 other back
      exact ⟨others other back, fun less => absurd behind (Nat.lt_asymm less)⟩

variable {s : Session} {lane : Lane} {time : Float} {index : Nat} {note : Note}

structure Offers (s : Session) (lane : Lane) (index : Nat) (note : Note) : Prop
    extends s.Awaits index note where
  same : note.lane = lane

/-- Of all notes that the lane offers this one is hit and is the nearest; of several nearest ones
it is the first. -/
structure IsNearest (s : Session) (lane : Lane) (time : Float) (index : Nat) (note : Note) :
    Prop where
  offered : s.Offers lane index note
  hit : s.setup.windows.IsHit time note
  least : ∀ i other, s.Offers lane i other → (time - note.time).abs ≤ (time - other.time).abs
  first : ∀ i other, s.Offers lane i other → i < index →
    (time - note.time).abs < (time - other.time).abs

/-- Of all notes that the lane offers this is the first that a press is just too early for. -/
structure IsFirstAhead (s : Session) (lane : Lane) (time : Float) (index : Nat) (note : Note) :
    Prop where
  offered : s.Offers lane index note
  ahead : s.setup.windows.IsAhead time note
  first : ∀ i other, s.Offers lane i other → s.setup.windows.IsAhead time other → index ≤ i

def nearby (s : Session) (lane : Lane) (time : Float) : List Target :=
  s.targets lane time (s.window (s.cursor - lookBack))

theorem mem_nearby {target : Target} :
    target ∈ s.nearby lane time ↔
      ∃ note, s.Offers lane target.index note ∧ target.diff = time - note.time ∧
        s.cursor - lookBack ≤ target.index ∧ target.index < s.cursor + lookAhead := by
  unfold nearby
  rw [mem_targets]
  constructor
  · rintro ⟨note, inside, fresh, same, late⟩
    obtain ⟨after, before, here⟩ := mem_window.mp inside
    exact ⟨note, ⟨⟨here, fresh⟩, same⟩, late, after, before⟩
  · rintro ⟨note, offered, late, after, before⟩
    exact ⟨note, mem_window.mpr ⟨after, before, offered.here⟩, offered.fresh, offered.same, late⟩

theorem nearby_sorted (s : Session) (lane : Lane) (time : Float) :
    (s.nearby lane time).Pairwise fun a b => a.index < b.index := by
  have places : (s.window (s.cursor - lookBack)).Pairwise fun a b => a.2 < b.2 := by
    unfold window
    rw [← List.pairwise_map (f := Prod.snd), List.zipIdx_map_snd]
    exact List.pairwise_lt_range' _
  refine places.filterMap _ ?_
  rintro ⟨note, i⟩ ⟨note', j⟩ before a found b found'
  dsimp only at found found'
  split_ifs at found found'
  cases found
  cases found'
  exact before

structure SeesAll (s : Session) (time : Float) : Prop where
  aligned : s.Aligned
  numbers : ∀ (index : Nat) (note : Note), s.notes[index]? = some note → IsNumber note.time
  bad : s.setup.windows.bad.isFinite = true
  order : s.setup.windows.bad ≤ s.setup.windows.poor
  beyond : ∀ (index : Nat) (note : Note), s.notes[index]? = some note →
    s.cursor + lookAhead ≤ index → s.setup.windows.poor < note.time - time

namespace SeesAll

theorem nearby_of_offered (sees : s.SeesAll time) (offered : s.Offers lane index note)
    (close : ¬s.setup.windows.poor < note.time - time) :
    ⟨index, time - note.time⟩ ∈ s.nearby lane time := by
  have ahead : s.cursor ≤ index := by
    refine Nat.le_of_not_lt ?_
    intro behind
    have judged := le_lead_iff.mp sees.aligned.passed index behind
    rw [offered.fresh] at judged
    cases judged
  have inside : index < s.cursor + lookAhead := by
    refine Nat.lt_of_not_le ?_
    intro past
    exact close (sees.beyond index note offered.here past)
  exact mem_nearby.mpr ⟨note, offered, rfl, Nat.le_trans (Nat.sub_le _ _) ahead, inside⟩

theorem not_beyond_of_hit (sees : s.SeesAll time) (hit : s.setup.windows.IsHit time note) :
    ¬s.setup.windows.poor < note.time - time := by
  intro past
  have far := lt_abs_of_lt_neg (lt_neg_sub.mpr past)
  have short := Binary64.lt_of_le_of_lt (Binary64.le_trans hit sees.order) far
  exact absurd (lt_iff.mp short).2.2 (lt_irrefl _)

theorem not_beyond_of_ahead (ahead : s.setup.windows.IsAhead time note) :
    ¬s.setup.windows.poor < note.time - time := by
  intro past
  have short := Binary64.lt_of_le_of_lt ahead.2 past
  exact absurd (lt_iff.mp short).2.2 (lt_irrefl _)

theorem further (sees : s.SeesAll time) (hit : s.setup.windows.IsHit time note) {i : Nat}
    {other : Note} (offered : s.Offers lane i other)
    (missed : ¬s.setup.windows.IsHit time other) :
    (time - note.time).abs < (time - other.time).abs := by
  have number : IsNumber (time - other.time) :=
    isNumber_sub_of_near hit sees.bad (sees.numbers i other offered.here)
  have far : s.setup.windows.bad < (time - other.time).abs := by
    rw [← Decidable.not_not (p := s.setup.windows.bad < (time - other.time).abs),
      Binary64.not_lt (isNumber_of_finite sees.bad) (isNumber_abs.mpr number)]
    exact missed
  exact Binary64.lt_of_le_of_lt hit far

theorem hit?_isNearest (sees : s.SeesAll time) {target : Target}
    (found : hit? s.setup.windows (s.nearby lane time) = some target) :
    ∃ note, s.IsNearest lane time target.index note ∧ target.diff = time - note.time := by
  obtain ⟨inside, near⟩ := hit?_mem found
  obtain ⟨note, offered, late, -⟩ := mem_nearby.mp inside
  rw [late] at near
  have spread (i : Nat) (other : Note) (offered' : s.Offers lane i other) :
      (time - note.time).abs ≤ (time - other.time).abs ∧
        (i < target.index → (time - note.time).abs < (time - other.time).abs) := by
    by_cases near' : s.setup.windows.IsHit time other
    · have given := sees.nearby_of_offered offered' (sees.not_beyond_of_hit near')
      have least := hit?_least (s.nearby_sorted lane time) found given near'
      rwa [late] at least
    · have apart := sees.further near offered' near'
      exact ⟨Binary64.le_of_lt apart, fun _ => apart⟩
  exact ⟨note, ⟨offered, near, fun i other given => (spread i other given).1,
    fun i other given => (spread i other given).2⟩, late⟩

theorem hit?_none (sees : s.SeesAll time)
    (none : hit? s.setup.windows (s.nearby lane time) = none) (offered : s.Offers lane index note) :
    ¬s.setup.windows.IsHit time note := by
  intro near
  have empty := List.filter_eq_nil_iff.mp (nearest?_eq_none none)
  exact empty _ (sees.nearby_of_offered offered (sees.not_beyond_of_hit near))
    (decide_eq_true near)

theorem early?_isFirstAhead (sees : s.SeesAll time) {target : Target}
    (found : early? s.setup.windows (s.nearby lane time) = some target) :
    ∃ note, s.IsFirstAhead lane time target.index note ∧ target.diff = time - note.time := by
  obtain ⟨bounds, before, after, split, passed⟩ := List.find?_eq_some_iff_append.mp found
  obtain ⟨note, offered, late, -⟩ := mem_nearby.mp (List.mem_of_find?_eq_some found)
  have sorted := s.nearby_sorted lane time
  rw [split, List.pairwise_append, List.pairwise_cons] at sorted
  simp only [Bool.and_eq_true, decide_eq_true_eq, late] at bounds
  refine ⟨note, ⟨offered, JudgeWindows.isAhead_iff.mpr bounds, ?_⟩, late⟩
  intro i other offered' ahead
  have given := sees.nearby_of_offered offered' (not_beyond_of_ahead ahead)
  rw [split, List.mem_append, List.mem_cons] at given
  rcases given with front | same | back
  · have skipped := passed _ front
    simp [JudgeWindows.isAhead_iff.mp ahead] at skipped
  · exact Nat.le_of_eq (congrArg Target.index same).symm
  · exact Nat.le_of_lt (sorted.2.1.1 _ back)

theorem early?_none (sees : s.SeesAll time)
    (none : early? s.setup.windows (s.nearby lane time) = none)
    (offered : s.Offers lane index note) : ¬s.setup.windows.IsAhead time note := by
  intro ahead
  have skipped := List.find?_eq_none.mp none _
    (sees.nearby_of_offered offered (not_beyond_of_ahead ahead))
  simp [JudgeWindows.isAhead_iff.mp ahead] at skipped

section Press

variable {pressed : Float} (sees : s.SeesAll time) (playing : s.failed = false)
  (manual : s.setup.config.autoplay = false)
  (corrected : pressed - s.setup.config.inputOffset = time)

include playing manual corrected in
theorem press_answer (lane : Lane) : s.press lane pressed = s.answer lane (s.nearby lane time) := by
  rw [press_eq_answer playing manual]
  unfold inReach
  rw [corrected]
  rfl

include sees playing manual corrected

theorem press_hit (offered : s.Offers lane index note)
    (near : s.setup.windows.IsHit time note) :
    ∃ i nearest judgment, s.IsNearest lane time i nearest ∧
      s.setup.windows.IsTier (time - nearest.time) judgment ∧
      s.press lane pressed = ((s.judgeNote i lane judgment (time - nearest.time)).1,
        (s.judgeNote i lane judgment (time - nearest.time)).2.skipJudged) := by
  rw [press_answer playing manual corrected]
  cases found : hit? s.setup.windows (s.nearby lane time) with
  | none => exact absurd near (sees.hit?_none found offered)
  | some target =>
    obtain ⟨nearest, isNearest, late⟩ := sees.hit?_isNearest found
    refine ⟨target.index, nearest, _, isNearest, JudgeWindows.classify_of_hit isNearest.hit, ?_⟩
    unfold answer
    rw [found, ← late]

theorem answer_missed
    (missed : ∀ i other, s.Offers lane i other → ¬s.setup.windows.IsHit time other) :
    s.press lane pressed = (early? s.setup.windows (s.nearby lane time)).elim ([], s)
      fun target => s.apply none lane .poor target.diff true := by
  rw [press_answer playing manual corrected]
  cases found : hit? s.setup.windows (s.nearby lane time) with
  | some target =>
    obtain ⟨nearest, isNearest, -⟩ := sees.hit?_isNearest found
    exact absurd isNearest.hit (missed _ _ isNearest.offered)
  | none =>
    unfold answer
    rw [found]
    cases early? s.setup.windows (s.nearby lane time) <;> rfl

theorem press_ahead
    (missed : ∀ i other, s.Offers lane i other → ¬s.setup.windows.IsHit time other)
    (offered : s.Offers lane index note) (ahead : s.setup.windows.IsAhead time note) :
    ∃ i first, s.IsFirstAhead lane time i first ∧
      s.press lane pressed = s.apply none lane .poor (time - first.time) true := by
  rw [sees.answer_missed playing manual corrected missed]
  cases found : early? s.setup.windows (s.nearby lane time) with
  | none => exact absurd ahead (sees.early?_none found offered)
  | some target =>
    obtain ⟨first, isFirst, late⟩ := sees.early?_isFirstAhead found
    refine ⟨target.index, first, isFirst, ?_⟩
    rw [← late, Option.elim_some]

theorem press_idle
    (missed : ∀ i other, s.Offers lane i other → ¬s.setup.windows.IsHit time other)
    (idle : ∀ i other, s.Offers lane i other → ¬s.setup.windows.IsAhead time other) :
    s.press lane pressed = ([], s) := by
  rw [sees.answer_missed playing manual corrected missed]
  cases found : early? s.setup.windows (s.nearby lane time) with
  | none => rfl
  | some target =>
    obtain ⟨first, isFirst, -⟩ := sees.early?_isFirstAhead found
    exact absurd isFirst.ahead (idle _ _ isFirst.offered)

end Press

end SeesAll

theorem run_seesAll {chart : Chart} {config : PlayConfig} {s₀ : Session}
    (numbers : ∀ time ∈ chart.notes.map Note.time, time.isNaN = false)
    (sorted : (chart.notes.map Note.time).Pairwise (· ≤ ·))
    (accepted : Session.new chart config = .ok s₀) (calls : List Call)
    (near : (s₀.run calls).2.notes.length ≤ (s₀.run calls).2.cursor + lookAhead ∨
      ∃ note, (s₀.run calls).2.notes[(s₀.run calls).2.cursor + lookAhead]? = some note ∧
        (s₀.run calls).2.setup.windows.poor < note.time - time) :
    (s₀.run calls).2.SeesAll time := by
  have inOrder := run_inOrder numbers sorted accepted calls
  obtain ⟨valid, start⟩ := new_start accepted
  have windows : (s₀.run calls).2.setup.windows = config.windowsFor chart.rank := by
    rw [run_setup, start]
    rfl
  have bounds := JudgeWindows.bad_bounds (PlayConfig.windowsFor_isValid valid chart.rank)
  rw [← windows] at bounds
  refine ⟨?_, ?_, bounds.1, bounds.2, ?_⟩
  · rw [start]
    exact (Aligned.start _).run calls
  · intro index note here
    exact inOrder.numbers (note, index) (List.mk_mem_zipIdx_iff_getElem?.mpr here)
  · intro index note here past
    rcases near with few | ⟨first, there, far⟩
    · have inside := (List.getElem?_eq_some_iff.mp here).1
      omega
    · have number : IsNumber time := (isNumber_of_sub (lt_iff.mp far).2.1).2
      have later : first.time ≤ note.time := inOrder.times_le there here past
      exact lt_sub_mono far later (Binary64.le_refl number)

/-- As long as the first note past the window is further ahead than POOR reaches, a press does what
a search through all notes would have it do: it judges the nearest note of its lane that it hits,
with its tier, and no other note; or else it is too early for the first note it is ahead of, which
costs an empty POOR; or else it does nothing. -/
theorem press_searches_all {chart : Chart} {config : PlayConfig} {s₀ : Session}
    (numbers : ∀ time ∈ chart.notes.map Note.time, time.isNaN = false)
    (sorted : (chart.notes.map Note.time).Pairwise (· ≤ ·))
    (accepted : Session.new chart config = .ok s₀) (manual : config.autoplay = false)
    (calls : List Call) (playing : (s₀.run calls).2.failed = false) (lane : Lane) (pressed : Float)
    (near : (s₀.run calls).2.notes.length ≤ (s₀.run calls).2.cursor + lookAhead ∨
      ∃ note, (s₀.run calls).2.notes[(s₀.run calls).2.cursor + lookAhead]? = some note ∧
        (s₀.run calls).2.setup.windows.poor < note.time - (pressed - config.inputOffset)) :
    let s := (s₀.run calls).2
    let time := pressed - config.inputOffset
    let answer := s.press lane pressed
    ((∃ index note, s.Offers lane index note ∧ s.setup.windows.IsHit time note) →
      ∃ index note judgment, s.IsNearest lane time index note ∧
        s.setup.windows.IsTier (time - note.time) judgment ∧
        answer = ((s.judgeNote index lane judgment (time - note.time)).1,
          (s.judgeNote index lane judgment (time - note.time)).2.skipJudged) ∧
        judgments answer.1 = [⟨some index, lane, judgment, time - note.time,
          (s.score.record judgment (time - note.time) false).combo, false⟩] ∧
        ∀ i, answer.2.isJudged i = true ↔ i = index ∨ s.isJudged i = true) ∧
    ((∀ index note, s.Offers lane index note → ¬s.setup.windows.IsHit time note) →
      (∃ index note, s.Offers lane index note ∧ s.setup.windows.IsAhead time note) →
      ∃ index note, s.IsFirstAhead lane time index note ∧
        answer = s.apply none lane .poor (time - note.time) true ∧
        judgments answer.1 = [⟨none, lane, .poor, time - note.time, s.score.combo, true⟩] ∧
        ∀ i, answer.2.isJudged i = s.isJudged i) ∧
    ((∀ index note, s.Offers lane index note →
        ¬s.setup.windows.IsHit time note ∧ ¬s.setup.windows.IsAhead time note) →
      answer = ([], s)) := by
  intro s time answer
  have sees : s.SeesAll time := run_seesAll numbers sorted accepted calls near
  have setup : s.setup.config = config := by
    rw [run_setup, (new_start accepted).2]
    rfl
  have manual' : s.setup.config.autoplay = false := by
    rw [setup]
    exact manual
  have corrected : pressed - s.setup.config.inputOffset = time := by
    rw [setup]
  refine ⟨?_, ?_, ?_⟩
  · rintro ⟨i, other, offered, hit⟩
    obtain ⟨index, note, judgment, nearest, tier, same⟩ :=
      sees.press_hit playing manual' corrected offered hit
    change answer = _ at same
    have inside : index < s.judged.size := by
      rw [sees.aligned.flags]
      exact (List.getElem?_eq_some_iff.mp nearest.offered.here).1
    refine ⟨index, note, judgment, nearest, tier, same, ?_, ?_⟩
    · rw [same]
      exact judgeNote_judgments _ _ _ _ _
    · rw [same]
      exact Aligned.judgeNote_isJudged inside _ _ _
  · rintro missed ⟨i, other, offered, ahead⟩
    obtain ⟨index, note, first, same⟩ :=
      sees.press_ahead playing manual' corrected missed offered ahead
    change answer = _ at same
    refine ⟨index, note, first, same, ?_, ?_⟩
    · rw [same]
      exact apply_judgments _ _ _ _ _ _
    · rw [same]
      exact apply_isJudged _ _ _ _ _ _
  · intro none
    exact sees.press_idle playing manual' corrected (fun i other given => (none i other given).1)
      fun i other given => (none i other given).2

theorem press_searches_all_in_a_crowd :
    let lane : Lane := ⟨.p1, .key 2⟩
    let chart := { Chart.empty with
      notes := List.replicate 150 ⟨1000.0, 0x12, lane, ⟨1⟩⟩ ++ [⟨1260.0, 0x12, lane, ⟨2⟩⟩]
      noteCount := 151 }
    ∃ s₀, Session.new chart .standard = .ok s₀ ∧
      let s := (s₀.run [.advance 900.0]).2
      let time := 1003.0 - PlayConfig.standard.inputOffset
      s.failed = false ∧
      (∃ note, s.notes[s.cursor + lookAhead]? = some note ∧
        s.setup.windows.poor < note.time - time) ∧
      noteIndices (s.press lane 1003.0).1 = [0] ∧
      ∃ index note judgment, s.IsNearest lane time index note ∧
        s.setup.windows.IsTier (time - note.time) judgment ∧
        ∀ i, (s.press lane 1003.0).2.isJudged i = true ↔ i = index ∨ s.isJudged i = true := by
  intro lane chart
  obtain ⟨s₀, accepted⟩ : ∃ s₀, Session.new chart .standard = .ok s₀ := ⟨_, rfl⟩
  have times : chart.notes.map Note.time = List.replicate 150 1000.0 ++ [1260.0] := by
    simp only [chart, List.map_append, List.map_replicate, List.map_cons, List.map_nil]
  have sorted : (chart.notes.map Note.time).Pairwise (· ≤ ·) := by
    rw [times, List.pairwise_append]
    refine ⟨List.pairwise_replicate.mpr (Or.inr (by decide)), List.pairwise_singleton _ _, ?_⟩
    intro time crowd last inside
    rw [List.eq_of_mem_replicate crowd, List.mem_singleton.mp inside]
    decide
  have facts :
      let s := (s₀.run [.advance 900.0]).2
      let time := 1003.0 - PlayConfig.standard.inputOffset
      s.failed = false ∧
      (s.notes[s.cursor + lookAhead]? = some ⟨1260.0, 0x12, lane, ⟨2⟩⟩ ∧
        s.setup.windows.poor < 1260.0 - time) ∧
      (s.notes[0]? = some ⟨1000.0, 0x12, lane, ⟨1⟩⟩ ∧ s.isJudged 0 = false ∧
        (time - 1000.0).abs ≤ s.setup.windows.bad) ∧
      noteIndices (s.press lane 1003.0).1 = [0] := by
    rw [(new_start accepted).2]
    decide +kernel
  obtain ⟨playing, near, ⟨here, fresh, hit⟩, first⟩ := facts
  have searched := press_searches_all (by decide +kernel) sorted accepted rfl [.advance 900.0]
    playing lane 1003.0 (Or.inr ⟨_, near⟩)
  obtain ⟨index, note, judgment, nearest, tier, -, -, flags⟩ :=
    searched.1 ⟨0, _, ⟨⟨here, fresh⟩, rfl⟩, hit⟩
  exact ⟨s₀, accepted, playing, ⟨_, near⟩, first, index, note, judgment, nearest, tier, flags⟩

end Session
end NoteChart
