import NoteChart.Proofs.Play.Flags
import NoteChart.Proofs.Binary64.Order

/-!
What the clock brings upon notes in order. A note that is due at one time is due at any later time,
and so is every note before it; so a sweep is the judgment of the notes that are due, one after the
other. Neither the background nor the cursor has a part in that, and how late a miss is counts for
nothing.
-/
namespace NoteChart

open Binary64

/-- What an event means to score and gauges: all of it but how early or late a judgment was. -/
def PlayEvent.ruling? : PlayEvent → Option PlayEvent
  | .judge event => some (.judge { event with diff := 0.0 })
  | .shift source target => some (.shift source target)
  | .failed => some .failed
  | .sound _ | .picture _ | .tempo _ => none

namespace Setup

variable (setup : Setup)

def isDue (now : Float) (note : Note) : Bool :=
  !decide (now + futureTolerance < note.time) &&
    if setup.config.autoplay then decide (note.time ≤ now)
    else decide (setup.windows.bad < now - setup.config.inputOffset - note.time)

def verdict (now : Float) (note : Note) : Judgment × Float :=
  if setup.config.autoplay then (.pgreat, 0.0)
  else (.poor, now - setup.config.inputOffset - note.time)

variable {setup}

theorem isDue_iff {now : Float} {note : Note} :
    setup.isDue now note = true ↔ ¬ now + futureTolerance < note.time ∧
      if setup.config.autoplay then note.time ≤ now
      else setup.windows.bad < now - setup.config.inputOffset - note.time := by
  unfold isDue
  split_ifs <;> simp

theorem isDue_mono (finite : setup.config.inputOffset.isFinite = true) {now later : Float}
    {first note : Note} (order : now ≤ later) (before : first.time ≤ note.time)
    (due : setup.isDue now note = true) : setup.isDue later first = true := by
  rw [isDue_iff] at due ⊢
  obtain ⟨near, reached⟩ := due
  constructor
  · intro far
    have tolerance : now + futureTolerance ≤ later + futureTolerance :=
      Binary64.add_le_add_right order (by decide)
    exact near (Binary64.lt_of_le_of_lt tolerance (Binary64.lt_of_lt_of_le far before))
  · split_ifs at reached ⊢
    · exact Binary64.le_trans before (Binary64.le_trans reached order)
    · exact Binary64.lt_sub_mono reached (Binary64.sub_le_sub_right order finite) before

end Setup

structure InOrder (entries : List (Note × Nat)) : Prop where
  numbers : ∀ entry ∈ entries, IsNumber entry.1.time
  sorted : entries.Pairwise fun a b => a.1.time ≤ b.1.time ∧ a.2 < b.2

namespace InOrder

variable {entries : List (Note × Nat)}

theorem of_notes {notes : List Note} (numbers : ∀ time ∈ notes.map Note.time, IsNumber time)
    (sorted : (notes.map Note.time).Pairwise (· ≤ ·)) (first : Nat) :
    InOrder (notes.zipIdx first) := by
  induction notes generalizing first with
  | nil => exact ⟨nofun, .nil⟩
  | cons note rest ih =>
    obtain ⟨least, sorted⟩ := List.pairwise_cons.mp sorted
    obtain ⟨number, numbers⟩ := List.forall_mem_cons.mp numbers
    obtain ⟨numbers', sorted'⟩ := ih numbers sorted (first + 1)
    rw [List.zipIdx_cons]
    refine ⟨List.forall_mem_cons.mpr ⟨number, numbers'⟩,
      List.pairwise_cons.mpr ⟨?_, sorted'⟩⟩
    rintro ⟨other, index⟩ inside
    exact ⟨least _ (List.mem_map_of_mem (List.fst_mem_of_mem_zipIdx inside)),
      (List.mk_mem_zipIdx_iff_le_and_getElem?_sub.mp inside).1⟩

theorem sublist {part : List (Note × Nat)} (inOrder : InOrder entries)
    (inside : List.Sublist part entries) : InOrder part :=
  ⟨fun entry given => inOrder.numbers entry (inside.subset given), inOrder.sorted.sublist inside⟩

theorem times_le {notes : List Note} (inOrder : InOrder notes.zipIdx) {i j : Nat}
    {note later : Note} (found : notes[i]? = some note) (found' : notes[j]? = some later)
    (order : i ≤ j) : note.time ≤ later.time := by
  rcases Nat.lt_or_eq_of_le order with before | rfl
  · obtain ⟨hi, rfl⟩ := List.getElem?_eq_some_iff.mp found
    obtain ⟨hj, rfl⟩ := List.getElem?_eq_some_iff.mp found'
    have sorted := List.pairwise_iff_getElem.mp inOrder.sorted i j (by simpa using hi)
      (by simpa using hj) before
    simpa using sorted.1
  · cases found.symm.trans found'
    have number := inOrder.numbers _ (List.mk_mem_zipIdx_iff_getElem?.mpr found)
    exact Binary64.le_refl number

end InOrder

namespace Session

variable {s : Session}

theorem window_sublist {first : Nat} (inside : first ≤ s.notes.length) :
    (s.window first).Sublist s.notes.zipIdx := by
  unfold window
  generalize s.cursor + lookAhead - first = count
  have parts : s.notes.zipIdx =
      ((s.notes.take first) ++
        ((s.notes.drop first).take count ++ (s.notes.drop first).drop count)).zipIdx := by
    simp
  rw [parts, List.zipIdx_append, List.zipIdx_append, List.length_take, Nat.min_eq_left inside,
    Nat.zero_add]
  exact (List.sublist_append_left _ _).trans (List.sublist_append_right _ _)

theorem Aligned.window_inOrder (aligned : s.Aligned) (inOrder : InOrder s.notes.zipIdx) :
    InOrder (s.window s.cursor) :=
  inOrder.sublist (window_sublist aligned.cursor_le)

def bring (s : Session) (now : Float) (entry : Note × Nat) : List PlayEvent × Session :=
  let (judgment, diff) := s.setup.verdict now entry.1
  s.judgeNote entry.2 entry.1.lane judgment diff

def bringAll (now : Float) : List (Note × Nat) → Session → List PlayEvent × Session
  | [], s => ([], s)
  | entry :: rest, s =>
    if s.failed then ([], s)
    else
      let (events, judged) := s.bring now entry
      let (later, final) := bringAll now rest judged
      (events ++ later, final)

def dueNotes (s : Session) (now : Float) (entries : List (Note × Nat)) : List (Note × Nat) :=
  entries.filter fun entry => s.setup.isDue now entry.1 && !s.isJudged entry.2

theorem bringAll_failed (ended : s.failed = true) (now : Float) (entries : List (Note × Nat)) :
    bringAll now entries s = ([], s) := by
  cases entries with
  | nil => rfl
  | cons entry rest => simp [bringAll, ended]

theorem playing_of_bringAll {now : Float} {entries : List (Note × Nat)}
    (lasting : (bringAll now entries s).2.failed = false) : s.failed = false := by
  by_contra ended
  rw [bringAll_failed (by simpa using ended)] at lasting
  exact ended lasting

theorem bringAll_cons (playing : s.failed = false) (now : Float) (entry : Note × Nat)
    (rest : List (Note × Nat)) :
    bringAll now (entry :: rest) s =
      ((s.bring now entry).1 ++ (bringAll now rest (s.bring now entry).2).1,
        (bringAll now rest (s.bring now entry).2).2) := by
  simp [bringAll, playing]

theorem bringAll_append (now : Float) (front back : List (Note × Nat)) (s : Session) :
    bringAll now (front ++ back) s =
      ((bringAll now front s).1 ++ (bringAll now back (bringAll now front s).2).1,
        (bringAll now back (bringAll now front s).2).2) := by
  induction front generalizing s with
  | nil => rfl
  | cons entry rest ih =>
    by_cases playing : s.failed = false
    · rw [List.cons_append, bringAll_cons playing, bringAll_cons playing, ih, List.append_assoc]
    · have ended : s.failed = true := by simpa using playing
      simp [bringAll_failed ended]

theorem due?_eq {now : Float} {note : Note} (near : ¬ now + futureTolerance < note.time) :
    s.due? now note = if s.setup.isDue now note then some (s.setup.verdict now note) else none := by
  unfold due? Setup.isDue Setup.verdict
  split_ifs <;> simp_all

theorem judgeNote_isJudged_ne {index other : Nat} (different : other ≠ index) (s : Session)
    (lane : Lane) (judgment : Judgment) (diff : Float) :
    (s.judgeNote index lane judgment diff).2.isJudged other = s.isJudged other := by
  unfold isJudged
  rw [judgeNote_judged, Array.getD_eq_getD_getElem?, Array.getElem?_setIfInBounds,
    if_neg (Ne.symm different), ← Array.getD_eq_getD_getElem?]

theorem sweep_due {now : Float} {entry : Note × Nat}
    (near : ¬ now + futureTolerance < entry.1.time)
    (fresh : s.isJudged entry.2 = false) (due : s.setup.isDue now entry.1 = true)
    (rest : List (Note × Nat)) :
    sweep now (entry :: rest) s =
      if (s.bring now entry).2.failed then s.bring now entry
      else ((s.bring now entry).1 ++ (sweep now rest (s.bring now entry).2).1,
        (sweep now rest (s.bring now entry).2).2) := by
  obtain ⟨note, index⟩ := entry
  rw [sweep, if_neg near, if_neg (Bool.eq_false_iff.mp fresh), due?_eq near, if_pos due]
  rfl

theorem sweep_pass {now : Float} {entry : Note × Nat}
    (near : ¬ now + futureTolerance < entry.1.time)
    (passed : s.isJudged entry.2 = true ∨ s.setup.isDue now entry.1 = false)
    (rest : List (Note × Nat)) : sweep now (entry :: rest) s = sweep now rest s := by
  obtain ⟨note, index⟩ := entry
  rw [sweep, if_neg near]
  split_ifs with judged
  · rfl
  · rw [due?_eq near, if_neg (by simpa using passed.resolve_left judged)]

/-- A sweep judges what is due, since it ends no sooner and judging a note changes none that
follows. -/
theorem sweep_eq (now : Float) {entries : List (Note × Nat)} (inOrder : InOrder entries)
    (s : Session) (playing : s.failed = false) :
    sweep now entries s = bringAll now (s.dueNotes now entries) s := by
  induction entries generalizing s with
  | nil => rfl
  | cons entry rest ih =>
    have later : InOrder rest := inOrder.sublist (List.sublist_cons_self _ _)
    have least := (List.pairwise_cons.mp inOrder.sorted).1
    by_cases far : now + futureTolerance < entry.1.time
    · have none : s.dueNotes now (entry :: rest) = [] := by
        refine List.filter_eq_nil_iff.mpr ?_
        intro other inside
        have beyond : now + futureTolerance < other.1.time := by
          rcases List.mem_cons.mp inside with rfl | after
          · exact far
          · exact Binary64.lt_of_lt_of_le far (least other after).1
        simp [Setup.isDue, beyond]
      rw [none, sweep, if_pos far]
      rfl
    · by_cases due : s.setup.isDue now entry.1 = true ∧ s.isJudged entry.2 = false
      · have first : s.dueNotes now (entry :: rest) = entry :: s.dueNotes now rest := by
          simp [dueNotes, due]
        have same : (s.bring now entry).2.dueNotes now rest = s.dueNotes now rest := by
          refine List.filter_congr ?_
          intro other inside
          rw [bring, judgeNote_isJudged_ne (Nat.ne_of_gt (least other inside).2), judgeNote_setup]
        rw [sweep_due far due.2 due.1, first, bringAll_cons playing]
        split_ifs with ended
        · simp [bringAll_failed ended]
        · rw [ih later _ (by simpa using ended), same]
      · have skipped : s.dueNotes now (entry :: rest) = s.dueNotes now rest :=
          List.filter_cons_of_neg (by simpa using due)
        rw [skipped, ← ih later s playing]
        refine sweep_pass far ?_ rest
        rw [not_and_or] at due
        simpa using due.symm

def place (s : Session) (b : Background) (cursor : Nat) : Session :=
  { s with clock := b.clock, tempo := b.tempo, cursor, sounds := b.sounds, tempos := b.tempos
           pictures := b.pictures }

section Place

variable (b : Background) (cursor : Nat)

theorem settle_place (s : Session) :
    (s.place b cursor).settle = (s.settle.1, s.settle.2.place b cursor) := by
  unfold settle place
  dsimp only
  split_ifs
  · split <;> rfl
  · rfl
  · rfl

theorem judgeNote_place (s : Session) (index : Nat) (lane : Lane) (judgment : Judgment)
    (diff : Float) : (s.place b cursor).judgeNote index lane judgment diff =
      ((s.judgeNote index lane judgment diff).1,
        (s.judgeNote index lane judgment diff).2.place b cursor) := by
  change (_ :: (((s.mark index).entered judgment diff false).place b cursor).settle.1,
    (((s.mark index).entered judgment diff false).place b cursor).settle.2) = _
  rw [settle_place]
  rfl

theorem bringAll_place (now : Float) (entries : List (Note × Nat)) (s : Session) :
    bringAll now entries (s.place b cursor) =
      ((bringAll now entries s).1, (bringAll now entries s).2.place b cursor) := by
  induction entries generalizing s with
  | nil => rfl
  | cons entry rest ih =>
    by_cases playing : s.failed = false
    · have first : (s.place b cursor).bring now entry =
          ((s.bring now entry).1, (s.bring now entry).2.place b cursor) :=
        judgeNote_place _ _ _ _ _ _ _
      rw [bringAll_cons (s := s.place b cursor) playing, bringAll_cons playing, first, ih]
    · have ended : s.failed = true := by simpa using playing
      rw [bringAll_failed ended, bringAll_failed (s := s.place b cursor) ended]

end Place

def rulings (events : List PlayEvent) : List PlayEvent := events.filterMap PlayEvent.ruling?

@[simp] theorem rulings_append (events later : List PlayEvent) :
    rulings (events ++ later) = rulings events ++ rulings later :=
  List.filterMap_append

@[simp] theorem tick_rulings (s : Session) (time : Float) : rulings (s.tick time).1 = [] := by
  simp [rulings, tick, fireBackground, List.filterMap_map, Function.comp_def, PlayEvent.ruling?]

theorem judgeNote_rulings (s : Session) (index : Nat) (lane : Lane) (judgment : Judgment)
    (diff : Float) :
    rulings (s.judgeNote index lane judgment diff).1 =
      .judge ⟨some index, lane, judgment, 0.0, (s.score.record judgment diff false).combo, false⟩ ::
        rulings ((s.mark index).entered judgment diff false).settle.1 := rfl

theorem judgeNote_state (s : Session) (index : Nat) (lane : Lane) (judgment : Judgment)
    (diff : Float) : (s.judgeNote index lane judgment diff).2 =
      ((s.mark index).entered judgment diff false).settle.2 := rfl

theorem entered_poor (s : Session) (diff other : Float) :
    s.entered .poor diff false = s.entered .poor other false := rfl

theorem bring_later (s : Session) (now later : Float) (entry : Note × Nat) :
    rulings (s.bring now entry).1 = rulings (s.bring later entry).1 ∧
      (s.bring now entry).2 = (s.bring later entry).2 := by
  unfold bring Setup.verdict
  split_ifs
  · exact ⟨rfl, rfl⟩
  · have same (diff other : Float) := entered_poor (s.mark entry.2) diff other
    have combo (diff other : Float) : (s.score.record .poor diff false).combo =
        (s.score.record .poor other false).combo := rfl
    dsimp only
    rw [judgeNote_rulings, judgeNote_rulings, judgeNote_state, judgeNote_state, same, combo]
    exact ⟨rfl, rfl⟩

theorem bringAll_later (now later : Float) (entries : List (Note × Nat)) (s : Session) :
    rulings (bringAll now entries s).1 = rulings (bringAll later entries s).1 ∧
      (bringAll now entries s).2 = (bringAll later entries s).2 := by
  induction entries generalizing s with
  | nil => exact ⟨rfl, rfl⟩
  | cons entry rest ih =>
    obtain ⟨rulings, state⟩ := bring_later s now later entry
    by_cases playing : s.failed = false
    · rw [bringAll_cons playing, bringAll_cons playing, state]
      obtain ⟨rulings', state'⟩ := ih (s.bring later entry).2
      exact ⟨by simp [rulings, rulings'], state'⟩
    · have ended : s.failed = true := by simpa using playing
      simp [bringAll_failed ended]

theorem bringAll_setup (now : Float) (entries : List (Note × Nat)) (s : Session) :
    (bringAll now entries s).2.setup = s.setup := by
  induction entries generalizing s with
  | nil => rfl
  | cons entry rest ih =>
    unfold bringAll
    split_ifs
    · rfl
    · exact (ih _).trans (judgeNote_setup _ _ _ _ _)

theorem bringAll_isJudged {now : Float} {entries : List (Note × Nat)}
    (inside : ∀ entry ∈ entries, entry.2 < s.judged.size)
    (playing : (bringAll now entries s).2.failed = false) (i : Nat) :
    (bringAll now entries s).2.isJudged i = true ↔
      s.isJudged i = true ∨ ∃ entry ∈ entries, entry.2 = i := by
  induction entries generalizing s with
  | nil => simp [bringAll]
  | cons entry rest ih =>
    have before := playing_of_bringAll playing
    rw [bringAll_cons before] at playing ⊢
    have size : (s.bring now entry).2.judged.size = s.judged.size := by
      simp [bring]
    rw [ih (by simpa [size] using fun a b h => inside (a, b) (List.mem_cons_of_mem _ h)) playing,
      bring, Aligned.judgeNote_isJudged (inside entry List.mem_cons_self)]
    simp only [List.mem_cons, exists_eq_or_imp]
    grind

theorem settle_rules (s : Session) : ∀ event ∈ s.settle.1, event.ruling?.isSome = true := by
  unfold settle
  split_ifs
  · split <;> simp [fail, PlayEvent.ruling?]
  · simp [fail, PlayEvent.ruling?]
  · simp

theorem apply_rules (s : Session) (index? : Option Nat) (lane : Lane) (judgment : Judgment)
    (diff : Float) (empty : Bool) :
    ∀ event ∈ (s.apply index? lane judgment diff empty).1, event.ruling?.isSome = true := by
  intro event inside
  rcases List.mem_cons.mp inside with rfl | settled
  · rfl
  · exact settle_rules _ event settled

theorem bringAll_rules (now : Float) (entries : List (Note × Nat)) (s : Session) :
    ∀ event ∈ (bringAll now entries s).1, event.ruling?.isSome = true := by
  induction entries generalizing s with
  | nil => simp [bringAll]
  | cons entry rest ih =>
    unfold bringAll
    split_ifs
    · simp
    · intro event inside
      rcases List.mem_append.mp inside with now | later
      · exact apply_rules _ _ _ _ _ _ event now
      · exact ih _ event later

end Session
end NoteChart
