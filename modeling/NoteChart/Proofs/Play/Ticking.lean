import NoteChart.Proofs.Fronts
import NoteChart.Proofs.Play.Account
import NoteChart.Proofs.Play.Sweep

/-!
Moving the clock in two steps. The notes that are due at the first time come first among those that
are due at the second; so the second step judges the notes that the first has left, in the same order
and with the same judgments as one step for both. The background hands out the same events too.
-/
namespace NoteChart

open Binary64

theorem Cursor.fire_fire {α : Type} (cursor : Cursor) (time : α → Float) (items : List α)
    {now later : Float} (order : now ≤ later) :
    (cursor.fire time items now).1 ++ ((cursor.fire time items now).2.fire time items later).1 =
        (cursor.fire time items later).1 ∧
      ((cursor.fire time items now).2.fire time items later).2 =
        (cursor.fire time items later).2 := by
  have weaker (a : α) (due : decide (time a ≤ now) = true) : decide (time a ≤ later) = true :=
    decide_eq_true (Binary64.le_trans (of_decide_eq_true due) order)
  unfold fire
  dsimp only
  generalize place : min cursor.index items.length = first
  generalize due : (items.drop first).takeWhile (fun item => decide (time item ≤ now)) = front
  have inside : first + front.length ≤ items.length := by
    have short : ((items.drop first).takeWhile fun item => decide (time item ≤ now)).length ≤
        (items.drop first).length := (List.takeWhile_prefix _).length_le
    rw [due, List.length_drop] at short
    omega
  have split := takeWhile_twice weaker (items.drop first)
  rw [due, List.drop_drop] at split
  rw [Nat.min_eq_left inside, split, List.length_append, Nat.add_assoc]
  exact ⟨rfl, rfl⟩

namespace Session

variable {s : Session}

theorem Move.isNumber_clock {t : Session} {events : List PlayEvent} (move : Move s events t)
    (number : IsNumber s.clock) : IsNumber t.clock := by
  cases move with
  | tick time playing => exact isNumber_larger number time
  | timed playing near fresh due => simpa using number
  | hit playing manual found => simpa using number
  | early playing manual missed found => simpa using number
  | skip => exact number

/-- All notes without a judgment are within sight, in order. -/
structure InSight (s : Session) : Prop where
  aligned : s.Aligned
  near : s.notes.length ≤ s.cursor + lookAhead
  inOrder : InOrder s.notes.zipIdx
  finite : s.setup.config.inputOffset.isFinite = true
  clock : IsNumber s.clock

def bringDue (s : Session) (now : Float) : List PlayEvent × Session :=
  bringAll now (s.dueNotes now s.notes.zipIdx) s

def dueBetween (s : Session) (now later : Float) : List (Note × Nat) :=
  s.notes.zipIdx.filter fun entry =>
    (s.setup.isDue later entry.1 && !s.setup.isDue now entry.1) && !s.isJudged entry.2

theorem skipJudged_place (passed : s.cursor ≤ s.judgedLead) :
    s.skipJudged = s.place s.background s.judgedLead := by
  rw [← skipJudged_cursor passed]
  rfl

namespace InSight

section Window

variable {first : Nat} (behind : first ≤ s.cursor)

include behind

theorem window_eq (inSight : s.InSight) :
    s.window first = (s.notes.drop first).zipIdx first := by
  have near := inSight.near
  unfold window
  rw [List.take_of_length_le (by rw [List.length_drop]; omega)]

theorem notes_split (inSight : s.InSight) :
    s.notes.zipIdx = (s.notes.take first).zipIdx ++ s.window first := by
  have inside := Nat.le_trans behind inSight.aligned.cursor_le
  have split : (s.notes.take first ++ s.notes.drop first).zipIdx =
      (s.notes.take first).zipIdx ++
        (s.notes.drop first).zipIdx (0 + (s.notes.take first).length) :=
    List.zipIdx_append
  rw [List.take_append_drop, List.length_take, Nat.min_eq_left inside, Nat.zero_add] at split
  rw [split, inSight.window_eq behind]

theorem window_filter (inSight : s.InSight) {p : Note × Nat → Bool}
    (fresh : ∀ entry, p entry = true → s.isJudged entry.2 = false) :
    (s.window first).filter p = s.notes.zipIdx.filter p := by
  have passed : (s.notes.take first).zipIdx.filter p = [] := by
    refine List.filter_eq_nil_iff.mpr ?_
    rintro ⟨note, index⟩ inside waits
    have before := (List.mem_zipIdx inside).2.1
    rw [List.length_take] at before
    have judged : s.isJudged index = true :=
      le_lead_iff.mp inSight.aligned.passed index (by omega)
    rw [fresh _ waits] at judged
    cases judged
  rw [inSight.notes_split behind, List.filter_append, passed]
  rfl

end Window

theorem window_due (inSight : s.InSight) (now : Float) :
    s.dueNotes now (s.window s.cursor) = s.dueNotes now s.notes.zipIdx :=
  inSight.window_filter (Nat.le_refl _) fun entry due => by
    simpa using ((Bool.and_eq_true _ _).mp due).2

theorem sweep_ticked (inSight : s.InSight) (playing : s.failed = false) (time : Float) :
    sweep (s.tick time).2.clock ((s.tick time).2.window (s.tick time).2.cursor) (s.tick time).2 =
      ((s.bringDue (s.tick time).2.clock).1,
        (s.bringDue (s.tick time).2.clock).2.place (s.tick time).2.background s.cursor) := by
  generalize clock : (s.tick time).2.clock = now
  have inOrder := inSight.aligned.window_inOrder inSight.inOrder
  have due : (s.tick time).2.dueNotes now (s.window s.cursor) =
      s.dueNotes now s.notes.zipIdx := inSight.window_due now
  calc sweep now (s.window s.cursor) (s.tick time).2
      = bringAll now ((s.tick time).2.dueNotes now (s.window s.cursor)) (s.tick time).2 :=
        sweep_eq now inOrder _ playing
    _ = bringAll now (s.dueNotes now s.notes.zipIdx)
          (s.place (s.tick time).2.background s.cursor) := by
        rw [due]
        rfl
    _ = _ := bringAll_place _ _ _ _ _

theorem advance_eq (inSight : s.InSight) (playing : s.failed = false) (time : Float) :
    s.advance time =
      ((s.tick time).1 ++ (s.bringDue (s.tick time).2.clock).1,
        (s.bringDue (s.tick time).2.clock).2.place (s.tick time).2.background
          (s.bringDue (s.tick time).2.clock).2.judgedLead) := by
  have swept := inSight.sweep_ticked playing time
  have chain := sweep_moves ((s.tick time).2.window (s.tick time).2.cursor) (s.tick time).2
    playing fun _ inside => inside
  have passed := ((inSight.aligned.move (.tick time playing)).moves chain).passed
  rw [swept] at passed
  rw [advance_playing playing]
  dsimp only
  rw [swept, skipJudged_place passed]
  rfl

theorem moves (inSight : s.InSight) {events : List PlayEvent} {t : Session}
    (moves : Moves s events t) : t.InSight := by
  have setup := moves.same_setup
  have notes : t.notes = s.notes := congrArg (·.chart.notes) setup
  have forward := (inSight.aligned.moves_grow moves).2
  have clock := moves.preserves (P := fun m => IsNumber m.clock)
    (fun _ _ _ number move => move.isNumber_clock number) inSight.clock
  refine ⟨inSight.aligned.moves moves, ?_, ?_, ?_, clock⟩
  · rw [notes]
    exact Nat.le_trans inSight.near (Nat.add_le_add_right forward _)
  · rw [notes]
    exact inSight.inOrder
  · rw [setup]
    exact inSight.finite

theorem due_split (inSight : s.InSight) {now later : Float} (order : now ≤ later) :
    s.dueNotes later s.notes.zipIdx =
      s.dueNotes now s.notes.zipIdx ++ s.dueBetween now later := by
  have all := inSight.inOrder.sublist
    (List.filter_sublist (p := fun entry => !s.isJudged entry.2))
  have same : now ≤ now := Binary64.le_refl (isNumber_of_le order).1
  unfold dueNotes dueBetween
  rw [← List.filter_filter, ← List.filter_filter, ← List.filter_filter]
  refine filter_split (all.sorted.imp fun order' due => ?_) fun entry inside due => ?_
  · exact Setup.isDue_mono inSight.finite same order'.1 due
  · exact Setup.isDue_mono inSight.finite order (Binary64.le_refl (all.numbers entry inside)) due

theorem inside_of_entry (inSight : s.InSight) {entry : Note × Nat}
    (inside : entry ∈ s.notes.zipIdx) : entry.2 < s.judged.size := by
  rw [inSight.aligned.flags]
  exact List.snd_lt_of_mem_zipIdx inside

theorem mem_dueNotes {now : Float} {note : Note} {index : Nat} :
    (note, index) ∈ s.dueNotes now s.notes.zipIdx ↔
      s.notes[index]? = some note ∧ s.setup.isDue now note = true ∧ s.isJudged index = false := by
  rw [dueNotes, List.mem_filter, List.mk_mem_zipIdx_iff_getElem?]
  simp

theorem bringDue_isJudged (inSight : s.InSight) {now : Float}
    (playing : (s.bringDue now).2.failed = false) {note : Note} {index : Nat}
    (found : s.notes[index]? = some note) :
    (s.bringDue now).2.isJudged index = true ↔
      s.isJudged index = true ∨ s.setup.isDue now note = true := by
  have inside : ∀ entry ∈ s.dueNotes now s.notes.zipIdx, entry.2 < s.judged.size :=
    fun entry due => inSight.inside_of_entry (List.mem_of_mem_filter due)
  rw [bringDue, bringAll_isJudged inside playing]
  constructor
  · rintro (before | ⟨⟨other, place⟩, due, rfl⟩)
    · exact Or.inl before
    · obtain ⟨found', due, -⟩ := mem_dueNotes.mp due
      cases found.symm.trans found'
      exact Or.inr due
  · rintro (before | due)
    · exact Or.inl before
    · by_cases before : s.isJudged index = true
      · exact Or.inl before
      · exact Or.inr ⟨_, mem_dueNotes.mpr ⟨found, due, by simpa using before⟩, rfl⟩

theorem due_left (inSight : s.InSight) {now : Float} (later : Float)
    (playing : (s.bringDue now).2.failed = false) :
    (s.bringDue now).2.dueNotes later (s.bringDue now).2.notes.zipIdx =
      s.dueBetween now later := by
  have setup : (s.bringDue now).2.setup = s.setup := bringAll_setup _ _ _
  unfold dueNotes dueBetween notes
  rw [setup]
  refine List.filter_congr ?_
  rintro ⟨note, index⟩ inside
  have left := inSight.bringDue_isJudged playing (List.mk_mem_zipIdx_iff_getElem?.mp inside)
  rw [Bool.eq_iff_iff]
  simp [← Bool.not_eq_true, left]
  tauto

/-- What the clock brings at once is what it brings in two steps. -/
theorem bringDue_twice (inSight : s.InSight) {now later : Float} (order : now ≤ later) :
    rulings (s.bringDue later).1 = rulings (s.bringDue now).1 ++
        rulings (bringAll later (s.dueBetween now later) (s.bringDue now).2).1 ∧
      (s.bringDue later).2 =
        (bringAll later (s.dueBetween now later) (s.bringDue now).2).2 := by
  obtain ⟨rulings, state⟩ := bringAll_later now later (s.dueNotes now s.notes.zipIdx) s
  rw [bringDue, inSight.due_split order, bringAll_append, ← state, rulings_append, ← rulings]
  exact ⟨rfl, rfl⟩

end InSight

theorem InSight.advance_handed (inSight : s.InSight) (playing : s.failed = false) (time : Float)
    {α : Type} {stream? : PlayEvent → Option α}
    (silent : ∀ event, event.ruling?.isSome = true → stream? event = none) :
    (s.advance time).1.filterMap stream? = (s.tick time).1.filterMap stream? := by
  have none : (s.bringDue (s.tick time).2.clock).1.filterMap stream? = [] :=
    List.filterMap_eq_nil_iff.mpr fun event inside =>
      silent event (bringAll_rules _ _ _ event inside)
  rw [inSight.advance_eq playing, List.filterMap_append, none, List.append_nil]

structure SameBackground (events other : List PlayEvent) : Prop where
  sounds : events.filterMap PlayEvent.sound? = other.filterMap PlayEvent.sound?
  tempos : tempoChanges events = tempoChanges other
  pictures : events.filterMap PlayEvent.picture? = other.filterMap PlayEvent.picture?

section TwoTicks

variable {t : Session} {first later : Float}

theorem tick_order (number : IsNumber s.clock) (order : first ≤ later) :
    (s.tick first).2.clock ≤ (s.tick later).2.clock := by
  have same : (s.tick later).2.clock = larger (larger s.clock first) later :=
    (larger_larger number order).symm
  rw [same]
  exact le_larger_left (isNumber_larger number first) (isNumber_of_le order).2

theorem tick_tick (setup : t.setup = s.setup)
    (same : t.background = (s.tick first).2.background) (number : IsNumber s.clock)
    (order : first ≤ later) :
    SameBackground ((s.tick first).1 ++ (t.tick later).1) (s.tick later).1 ∧
      (t.tick later).2.background = (s.tick later).2.background := by
  have ordered := tick_order number order
  have clock : (t.tick later).2.clock = (s.tick later).2.clock := by
    have before : t.clock = larger s.clock first := congrArg Background.clock same
    calc (t.tick later).2.clock = larger t.clock later := rfl
      _ = larger s.clock later := by rw [before, larger_larger number order]
  have sounds : t.sounds = (s.tick first).2.sounds := congrArg Background.sounds same
  have tempos : t.tempos = (s.tick first).2.tempos := congrArg Background.tempos same
  have pictures : t.pictures = (s.tick first).2.pictures := congrArg Background.pictures same
  have sounds' := s.sounds.fire_fire Sound.time s.setup.chart.sounds ordered
  have tempos' := s.tempos.fire_fire TempoChange.time s.setup.chart.tempoChanges ordered
  have pictures' := s.pictures.fire_fire Picture.time s.setup.chart.pictures ordered
  have streams : SameBackground ((s.tick first).1 ++ (t.tick later).1) (s.tick later).1 := by
    refine ⟨?_, ?_, ?_⟩
    · rw [List.filterMap_append, tick_sounds, tick_sounds, tick_sounds, clock, setup, sounds]
      exact sounds'.1
    · rw [tempoChanges, List.filterMap_append, tick_tempos, tick_tempos, clock, setup, tempos]
      exact tempos'.1.trans (tick_tempos _ _).symm
    · rw [List.filterMap_append, tick_pictures, tick_pictures, tick_pictures, clock, setup,
        pictures]
      exact pictures'.1
  have tempo : (t.tick later).2.tempo = (s.tick later).2.tempo := by
    have before : t.tempo = (s.tick first).2.tempo := congrArg Background.tempo same
    rw [(Accounts.tick t later).tempo, (Accounts.tick s later).tempo, before,
      (Accounts.tick s first).tempo, ← tempoAfter_append]
    unfold tempoAfter
    rw [streams.tempos]
  refine ⟨streams, Background.ext clock tempo ?_ ?_ ?_⟩
  · change (t.sounds.fire Sound.time t.setup.chart.sounds (t.tick later).2.clock).2 = _
    rw [clock, setup, sounds]
    exact sounds'.2
  · change (t.tempos.fire TempoChange.time t.setup.chart.tempoChanges (t.tick later).2.clock).2 = _
    rw [clock, setup, tempos]
    exact tempos'.2
  · change (t.pictures.fire Picture.time t.setup.chart.pictures (t.tick later).2.clock).2 = _
    rw [clock, setup, pictures]
    exact pictures'.2

end TwoTicks

namespace InSight

section TwoCalls

variable {first later : Float}

theorem advance_failing (inSight : s.InSight) (playing : s.failed = false)
    (order : first ≤ later) (ended : (s.advance first).2.failed = true) :
    (s.advance later).2 =
        (s.advance first).2.place (s.tick later).2.background (s.advance first).2.cursor ∧
      rulings (s.advance later).1 = rulings (s.advance first).1 := by
  have once := inSight.advance_eq playing later
  have twice := inSight.advance_eq playing first
  obtain ⟨same, state⟩ := inSight.bringDue_twice (tick_order inSight.clock order)
  rw [twice] at ended
  rw [bringAll_failed (s := (s.bringDue (s.tick first).2.clock).2) ended] at same state
  rw [once, twice, rulings_append, rulings_append, same, state, tick_rulings, tick_rulings]
  refine ⟨rfl, ?_⟩
  simp [rulings]

theorem advance_lasting (inSight : s.InSight) (playing : s.failed = false)
    (order : first ≤ later) (lasting : (s.advance first).2.failed = false) :
    ((s.advance first).2.advance later).2 = (s.advance later).2 ∧
      rulings ((s.advance first).1 ++ ((s.advance first).2.advance later).1) =
        rulings (s.advance later).1 ∧
      SameBackground ((s.advance first).1 ++ ((s.advance first).2.advance later).1)
        (s.advance later).1 := by
  have next := inSight.moves (s.advance_moves first)
  obtain ⟨streams, background⟩ := tick_tick (s.advance_moves first).same_setup
    (advance_background playing first) inSight.clock order
  have once := inSight.advance_eq playing later
  have second := next.advance_eq lasting later
  have clock : ((s.advance first).2.tick later).2.clock = (s.tick later).2.clock :=
    congrArg Background.clock background
  obtain ⟨same, state⟩ := inSight.bringDue_twice (tick_order inSight.clock order)
  -- what the second call finds due is what becomes due between the calls
  have left : (s.advance first).2.bringDue (s.tick later).2.clock =
      ((bringAll (s.tick later).2.clock (s.dueBetween (s.tick first).2.clock (s.tick later).2.clock)
        (s.bringDue (s.tick first).2.clock).2).1, (s.bringDue (s.tick later).2.clock).2.place
          (s.tick first).2.background (s.advance first).2.cursor) := by
    rw [inSight.advance_eq playing first] at lasting ⊢
    have due := inSight.due_left (s.tick later).2.clock lasting
    rw [state, ← due]
    exact bringAll_place _ _ _ _ _
  rw [clock, background, left] at second
  refine ⟨?_, ?_, ?_⟩
  · rw [second, once]
    rfl
  · rw [second, once, inSight.advance_eq playing first]
    simp [same]
  · have handed {α : Type} {stream? : PlayEvent → Option α}
        (silent : ∀ event, event.ruling?.isSome = true → stream? event = none)
        (same : ((s.tick first).1 ++ ((s.advance first).2.tick later).1).filterMap stream? =
          (s.tick later).1.filterMap stream?) :
        ((s.advance first).1 ++ ((s.advance first).2.advance later).1).filterMap stream? =
          (s.advance later).1.filterMap stream? := by
      rw [List.filterMap_append] at same ⊢
      rw [inSight.advance_handed playing first silent, inSight.advance_handed playing later silent,
        next.advance_handed lasting later silent, same]
    exact ⟨handed (by rintro ⟨⟩ <;> simp [PlayEvent.ruling?, PlayEvent.sound?]) streams.sounds,
      handed (by rintro ⟨⟩ <;> simp [PlayEvent.ruling?, PlayEvent.tempo?]) streams.tempos,
      handed (by rintro ⟨⟩ <;> simp [PlayEvent.ruling?, PlayEvent.picture?]) streams.pictures⟩

end TwoCalls
end InSight

theorem modify_times (chart : Chart) (modifier : LaneModifier) :
    (chart.modify modifier).notes.map Note.time = chart.notes.map Note.time := by
  unfold Chart.modify
  split_ifs
  · rfl
  · rw [List.map_map]
    refine List.map_congr_left ?_
    intro note inside
    simp only [Function.comp_apply, Note.move]
    split <;> rfl

theorem offset_isFinite {config : PlayConfig} (valid : config.validate = .ok ()) :
    config.inputOffset.isFinite = true := by
  unfold PlayConfig.validate at valid
  split at valid
  · cases valid
  · split_ifs at valid with floor finite
    exact finite

theorem run_clock (s : Session) (calls : List Call) (number : IsNumber s.clock) :
    IsNumber (s.run calls).2.clock := by
  refine run_preserves (P := fun t => IsNumber t.clock) (step_preserves ?_ ?_) s calls number
  · intro t before
    exact isNumber_negInfinity
  · intro t events next before move
    exact move.isNumber_clock before

theorem run_inOrder {chart : Chart} {config : PlayConfig} {s₀ : Session}
    (numbers : ∀ time ∈ chart.notes.map Note.time, time.isNaN = false)
    (sorted : (chart.notes.map Note.time).Pairwise (· ≤ ·))
    (accepted : Session.new chart config = .ok s₀) (calls : List Call) :
    InOrder (s₀.run calls).2.notes.zipIdx := by
  have times := modify_times chart config.modifier
  rw [← times] at numbers sorted
  rw [notes, run_setup, (new_start accepted).2]
  exact .of_notes numbers sorted 0

theorem run_inSight {chart : Chart} {config : PlayConfig} {s₀ : Session}
    (numbers : ∀ time ∈ chart.notes.map Note.time, time.isNaN = false)
    (sorted : (chart.notes.map Note.time).Pairwise (· ≤ ·))
    (accepted : Session.new chart config = .ok s₀) (calls : List Call)
    (near : (s₀.run calls).2.notes.length ≤ (s₀.run calls).2.cursor + lookAhead) :
    (s₀.run calls).2.InSight := by
  have inOrder := run_inOrder numbers sorted accepted calls
  obtain ⟨valid, rfl⟩ := new_start accepted
  refine ⟨(Aligned.start _).run calls, near, inOrder, ?_, run_clock _ calls isNumber_negInfinity⟩
  rw [run_setup]
  exact offset_isFinite valid

/-- Moving the clock in two steps judges the same notes alike, and brings the same shifts, as moving
it in one; unless the play fails, nothing at all tells the two apart. -/
theorem advance_twice {chart : Chart} {config : PlayConfig} {s₀ : Session}
    (numbers : ∀ time ∈ chart.notes.map Note.time, time.isNaN = false)
    (sorted : (chart.notes.map Note.time).Pairwise (· ≤ ·))
    (accepted : Session.new chart config = .ok s₀) (calls : List Call)
    (playing : (s₀.run calls).2.failed = false)
    (near : (s₀.run calls).2.notes.length ≤ (s₀.run calls).2.cursor + lookAhead)
    {t₁ t₂ : Float} (order : t₁ ≤ t₂) :
    let first := (s₀.run calls).2.advance t₁
    let second := first.2.advance t₂
    let once := (s₀.run calls).2.advance t₂
    (second.2.score = once.2.score ∧ second.2.ladder = once.2.ladder ∧
      second.2.judged = once.2.judged ∧ second.2.cursor = once.2.cursor ∧
      second.2.failed = once.2.failed) ∧
    rulings (first.1 ++ second.1) = rulings once.1 ∧
    (once.2.failed = false →
      second.2 = once.2 ∧ SameBackground (first.1 ++ second.1) once.1) := by
  intro first second once
  have inSight := run_inSight numbers sorted accepted calls near
  by_cases ended : first.2.failed = true
  · obtain ⟨state, same⟩ := inSight.advance_failing playing order ended
    have still : second = ([], first.2) := advance_failed ended t₂
    rw [still, List.append_nil]
    change once.2 = _ at state
    rw [state]
    refine ⟨⟨rfl, rfl, rfl, rfl, rfl⟩, same.symm, ?_⟩
    intro lasting
    exact absurd (ended.symm.trans lasting) (by decide)
  · obtain ⟨state, same, streams⟩ :=
      inSight.advance_lasting playing order (by simpa using ended)
    change second.2 = once.2 at state
    rw [state]
    exact ⟨⟨rfl, rfl, rfl, rfl, rfl⟩, same, fun _ => ⟨rfl, streams⟩⟩

theorem advance_twice_of_two_misses :
    let chart := { Chart.empty with
      notes := [⟨1000.0, 0x11, ⟨.p1, .key 1⟩, ⟨1⟩⟩, ⟨2000.0, 0x12, ⟨.p1, .key 2⟩, ⟨2⟩⟩]
      sounds := [⟨1200.0, ⟨3⟩⟩, ⟨1800.0, ⟨4⟩⟩]
      noteCount := 2 }
    ∃ s₀, Session.new chart .standard = .ok s₀ ∧
      let s := (s₀.run [.advance 900.0]).2
      (s.advance 5000.0).2.score.counts.poor = 2 ∧
      ((s.advance 1500.0).2.advance 5000.0).2.score = (s.advance 5000.0).2.score := by
  intro chart
  obtain ⟨s₀, accepted⟩ : ∃ s₀, Session.new chart .standard = .ok s₀ := ⟨_, rfl⟩
  have start := (new_start accepted).2
  have order : (1500.0 : Float) ≤ 5000.0 := by decide
  have twice := advance_twice (by decide) (by decide) accepted [.advance 900.0]
    (by rw [start]; decide +kernel) (by rw [start]; decide +kernel) order
  refine ⟨s₀, accepted, ?_, twice.1.1⟩
  rw [start]
  decide +kernel

end Session
end NoteChart
