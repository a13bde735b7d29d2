import NoteChart.Proofs.KeyOrder
import NoteChart.Proofs.Standstill

/-!
What modifiers do to charts. A shuffle takes its numbers from any stream of words and passes over as
many of them as it has to; all it does is to exchange keys. So the notes keep their number and order
and all but their lanes and channels, lanes that were different stay different, and what is no key
from 1 to 7 is not touched. Where the channels of notes are those of their lanes they stay so, and
then a chart that is mirrored twice is the chart it was.
-/
namespace NoteChart

namespace Random

/-- The number below `n` that the words from a place on give, and the place after its word. -/
inductive Draws (words : Nat → UInt32) (n : Nat) : Nat → Nat → Nat → Prop
  | accepted {place : Nat} (fits : (words place).toNat * n % UInt32.size ≤ zone n) :
    Draws words n place ((words place).toNat * n / UInt32.size) (place + 1)
  | passed {place j next : Nat} (refused : ¬(words place).toNat * n % UInt32.size ≤ zone n)
    (later : Draws words n (place + 1) j next) : Draws words n place j next

inductive Settles {α : Type} (words : Nat → UInt32) :
    Nat → List α → Nat → List α → Nat → Prop
  | done {items : List α} {place : Nat} : Settles words 0 items place items place
  | exchange {last place j middle next : Nat} {items settled : List α}
    (drawn : Draws words (last + 2) place j middle)
    (rest : Settles words last (swap items (last + 1) j) middle settled next) :
    Settles words (last + 1) items place settled next

def Shuffles {α : Type} (words : Nat → UInt32) (items : List α) (place : Nat) (shuffled : List α)
    (next : Nat) : Prop :=
  Settles words (items.length - 1) items place shuffled next

variable {α : Type} {words : Nat → UInt32} {items settled : List α} {n j last place next : Nat}

theorem Draws.lt (drawn : Draws words n place j next) (positive : 0 < n) : j < n := by
  induction drawn with
  | @accepted place fits =>
    have word := (words place).toNat_lt
    exact Nat.div_lt_of_lt_mul (Nat.mul_lt_mul_of_pos_right word positive)
  | passed refused later ih => exact ih

theorem Draws.place_lt (drawn : Draws words n place j next) : place < next := by
  induction drawn with
  | accepted fits => exact Nat.lt_succ_self _
  | passed refused later ih => omega

theorem Draws.drawBelow_eq (drawn : Draws words n place j next) {tries : Nat}
    (soon : next ≤ place + tries) : drawBelow words n tries place = (j, next) := by
  induction drawn generalizing tries with
  | accepted fits =>
    cases tries with
    | zero => omega
    | succ tries => exact if_pos fits
  | passed refused later ih =>
    cases tries with
    | zero =>
      have onward := later.place_lt
      omega
    | succ tries =>
      rw [drawBelow]
      exact (if_neg refused).trans (ih (by omega))

theorem Settles.place_le (settles : Settles words last items place settled next) :
    place ≤ next := by
  induction settles with
  | done => exact Nat.le_refl _
  | exchange drawn rest ih => exact (Nat.le_of_lt drawn.place_lt).trans ih

theorem Settles.perm (settles : Settles words last items place settled next) :
    settled.Perm items := by
  induction settles with
  | done => exact .refl _
  | exchange drawn rest ih =>
    rw [swap_eq] at ih
    exact ih.trans (List.swap_perm _ _ _)

/-- A shuffle that does not pass over more words than are tried is the one that is computed. -/
theorem Settles.settle_eq (settles : Settles words last items place settled next)
    (soon : next ≤ place + maxTries) : settle words last items place = (settled, next) := by
  induction settles with
  | done => rfl
  | exchange drawn rest ih =>
    have onward := rest.place_le
    have first := drawn.place_lt
    rw [settle, drawn.drawBelow_eq (by omega)]
    exact ih (by omega)

end Random

namespace LaneModifier

/-- An order that a modifier may give. The words of a random one may be any, and however many of
them are passed over. -/
inductive Gives : LaneModifier → KeyOrder → Prop
  | own (modifier : LaneModifier) : Gives modifier modifier.order
  | shuffled (seed : UInt64) (words : Nat → UInt32) : Gives (.random seed) (shuffled words)
  | drawn (seed : UInt64) {words : Nat → UInt32} {p1 p2 : List UInt8} {middle last : Nat}
    (first : Random.Shuffles words keys 0 p1 middle)
    (second : Random.Shuffles words keys middle p2 last) : Gives (.random seed) ⟨p1, p2⟩

theorem Gives.permutes {modifier : LaneModifier} {order : KeyOrder} (gives : modifier.Gives order) :
    order.Permutes := by
  cases gives with
  | own => exact order_permutes modifier
  | shuffled seed words => exact shuffled_permutes words
  | drawn seed first second => exact ⟨first.perm, second.perm⟩

theorem shuffled_eq_of_drawn {words : Nat → UInt32} {p1 p2 : List UInt8} {middle last : Nat}
    (first : Random.Shuffles words keys 0 p1 middle)
    (second : Random.Shuffles words keys middle p2 last) (soon : last ≤ Random.maxTries) :
    shuffled words = ⟨p1, p2⟩ := by
  have onward := second.place_le
  have one : Random.shuffle words keys 0 = (p1, middle) := first.settle_eq (by omega)
  have two : Random.shuffle words keys middle = (p2, last) := second.settle_eq (by omega)
  simp only [shuffled, one, two]

theorem key_identity (side : Side) (k : UInt8) : identity.order.key side k = k := by
  by_cases inside : k ∈ keys
  · have each : ∀ k ∈ keys, identity.order.key side k = k := by cases side <;> decide +kernel
    exact each k inside
  · exact identity.order.key_outside ((order_permutes identity).length side) inside

theorem key_mirror (side : Side) (k : UInt8) :
    mirror.order.key side (mirror.order.key side k) = k := by
  by_cases inside : k ∈ keys
  · have each : ∀ k ∈ keys, mirror.order.key side (mirror.order.key side k) = k := by
      cases side <;> decide +kernel
    exact each k inside
  · have still := mirror.order.key_outside ((order_permutes mirror).length side) inside
    rw [still, still]

theorem lane_identity (lane : Lane) : identity.order.lane lane = lane := by
  obtain ⟨side, role⟩ := lane
  cases role with
  | scratch => rfl
  | key k => exact congrArg (Lane.key side) (key_identity side k)

theorem lane_mirror (lane : Lane) : mirror.order.lane (mirror.order.lane lane) = lane := by
  obtain ⟨side, role⟩ := lane
  cases role with
  | scratch => rfl
  | key k => exact congrArg (Lane.key side) (key_mirror side k)

end LaneModifier

theorem KeyOrder.Permutes.move?_eq_none {order : KeyOrder} (permutes : order.Permutes) {lane : Lane}
    (still : ∀ k ∈ LaneModifier.keys, lane.role ≠ .key k) : order.move? lane = none := by
  obtain ⟨side, role⟩ := lane
  cases role with
  | scratch => rfl
  | key k =>
    have outside : k ∉ LaneModifier.keys := fun inside => still k inside rfl
    unfold move?
    dsimp only
    split_ifs with zero
    · rfl
    · rw [order.side_outside (permutes.length side) outside zero]
      rfl

namespace Note

def IsOnChannel (note : Note) : Prop := note.channel = note.lane.channel

structure IsMoved (order : KeyOrder) (note moved : Note) : Prop where
  time : moved.time = note.time
  sample : moved.sample = note.sample
  lane : moved.lane = order.lane note.lane
  side : moved.lane.side = note.lane.side
  still : (∀ k ∈ LaneModifier.keys, note.lane.role ≠ .key k) → moved = note
  channel : note.IsOnChannel → moved.IsOnChannel

variable {order : KeyOrder} {note : Note}

theorem move_eq (placed : note.IsOnChannel) : note.move order =
    { note with lane := order.lane note.lane, channel := (order.lane note.lane).channel } := by
  unfold move
  rw [← KeyOrder.move?_getD]
  cases order.move? note.lane with
  | none => rw [Option.getD_none, ← placed]
  | some lane => rfl

theorem move_isMoved (permutes : order.Permutes) (note : Note) :
    IsMoved order note (note.move order) where
  time := note.move_time order
  sample := by
    unfold move
    cases order.move? note.lane <;> rfl
  lane := note.move_lane order
  side := by rw [move_lane, KeyOrder.lane_side]
  still none := by rw [move, permutes.move?_eq_none none]
  channel placed := by
    rw [move_eq placed]
    rfl

theorem isMoved_self (still : order.lane note.lane = note.lane) : IsMoved order note note where
  time := rfl
  sample := rfl
  lane := still.symm
  side := rfl
  still _ := rfl
  channel placed := placed

end Note

namespace Chart

def IsOnChannels (chart : Chart) : Prop := ∀ note ∈ chart.notes, note.IsOnChannel

/-- What becomes of a chart in another order of keys: the notes are moved one by one, lanes that
were different stay different, and nothing else changes. -/
structure IsModified (order : KeyOrder) (chart result : Chart) : Prop where
  notes : List.Forall₂ (Note.IsMoved order) chart.notes result.notes
  lanes : ∀ p ∈ chart.notes.zip result.notes, ∀ q ∈ chart.notes.zip result.notes,
    p.2.lane = q.2.lane ↔ p.1.lane = q.1.lane
  channels : chart.IsOnChannels → result.IsOnChannels
  rest : { result with notes := chart.notes } = chart

theorem isModified_of_map {order : KeyOrder} (permutes : order.Permutes) (chart : Chart)
    {f : Note → Note} (moves : ∀ note : Note, note.IsMoved order (f note)) :
    IsModified order chart { chart with notes := chart.notes.map f } := by
  have notes : List.Forall₂ (Note.IsMoved order) chart.notes (chart.notes.map f) :=
    List.forall₂_map_right_iff.mpr (List.forall₂_same.mpr fun note _ => moves note)
  refine ⟨notes, ?_, ?_, rfl⟩
  · obtain ⟨-, moved⟩ := List.forall₂_iff_zip.mp notes
    rintro ⟨a, a'⟩ first ⟨b, b'⟩ second
    change a'.lane = b'.lane ↔ a.lane = b.lane
    rw [(moved first).lane, (moved second).lane, permutes.lane_injective.eq_iff]
  · intro placed note inside
    obtain ⟨before, given, rfl⟩ := List.mem_map.mp inside
    exact (moves before).channel (placed before given)

theorem rearrange_isModified {order : KeyOrder} (permutes : order.Permutes) (chart : Chart) :
    IsModified order chart (chart.rearrange order) :=
  isModified_of_map permutes chart (Note.move_isMoved permutes)

theorem modify_isModified (chart : Chart) (modifier : LaneModifier) :
    IsModified modifier.order chart (chart.modify modifier) := by
  have permutes := modifier.order_permutes
  by_cases same : modifier = .identity
  · subst same
    have kept := isModified_of_map permutes chart (f := id)
      fun note => Note.isMoved_self (LaneModifier.lane_identity note.lane)
    rwa [List.map_id] at kept
  · rw [modify_eq_rearrange same]
    exact rearrange_isModified permutes chart

theorem ofSource_isOnChannels (source : Source) : (ofSource source).IsOnChannels := by
  intro note inside
  rw [(ofSource_isPlacedBy source).notes] at inside
  obtain ⟨arrival, -, said⟩ := List.mem_filterMap.mp inside
  obtain ⟨⟨channel, lane, sample⟩, told, rfl⟩ := Option.map_eq_some_iff.mp said
  obtain ⟨lane', found, same⟩ := Option.map_eq_some_iff.mp told
  cases same
  exact (Lane.ofChannel?_channel found).symm

theorem ofText_isOnChannels {arithmetic : Arithmetic} {text : String} {chart : Chart}
    (compiled : ofText arithmetic text = .ok chart) : chart.IsOnChannels := by
  obtain ⟨source, md5, sha256, -, rfl⟩ := ofText_eq compiled
  exact ofSource_isOnChannels source

theorem modify_mirror_mirror {chart : Chart} (placed : chart.IsOnChannels) :
    (chart.modify .mirror).modify .mirror = chart := by
  have moves : LaneModifier.mirror ≠ .identity := by decide
  rw [modify_eq_rearrange moves, modify_eq_rearrange moves]
  have twice : ∀ note ∈ chart.notes,
      (note.move LaneModifier.mirror.order).move LaneModifier.mirror.order = note := by
    intro note inside
    have there := placed note inside
    have again := (Note.move_isMoved LaneModifier.mirror.order_permutes note).channel there
    rw [Note.move_eq again, Note.move_lane, LaneModifier.lane_mirror, ← there, Note.move_eq there]
  have notes : (chart.notes.map (Note.move LaneModifier.mirror.order)).map
      (Note.move LaneModifier.mirror.order) = chart.notes := by
    rw [List.map_map]
    exact (List.map_congr_left twice).trans (List.map_id _)
  unfold rearrange
  simp only [notes]

/-- Whatever words a modifier draws, it takes the keys from 1 to 7 of each side to each other one to
one, and the order computed is the one drawn as long as the words tried for one number reach. So it
modifies every chart: the notes keep their number and order, their times, samples and
sides; what is on a turntable or another key is not touched; notes are on one lane afterwards if
they were before, and only then; and no other part of the chart changes. Where notes are on the
channels of their lanes, as in every chart that is built, they are so afterwards, and to mirror such
a chart twice is to leave it as it was. -/
theorem modify_permutes :
    (∀ modifier order, LaneModifier.Gives modifier order → order.Permutes) ∧
    (∀ words p1 p2 middle last, Random.Shuffles words LaneModifier.keys 0 p1 middle →
      Random.Shuffles words LaneModifier.keys middle p2 last → last ≤ Random.maxTries →
      LaneModifier.shuffled words = ⟨p1, p2⟩) ∧
    (∀ (chart : Chart) modifier, IsModified modifier.order chart (chart.modify modifier)) ∧
    (∀ (chart : Chart) modifier order, LaneModifier.Gives modifier order →
      IsModified order chart (chart.rearrange order)) ∧
    (∀ source, (ofSource source).IsOnChannels) ∧
    (∀ arithmetic text chart, ofText arithmetic text = .ok chart → chart.IsOnChannels) ∧
    ∀ chart : Chart, chart.IsOnChannels → (chart.modify .mirror).modify .mirror = chart :=
  ⟨fun _ _ gives => gives.permutes,
    fun _ _ _ _ _ first second soon => LaneModifier.shuffled_eq_of_drawn first second soon,
    modify_isModified, fun chart _ _ gives => rearrange_isModified gives.permutes chart,
    ofSource_isOnChannels, fun _ _ _ compiled => ofText_isOnChannels compiled,
    fun _ placed => modify_mirror_mirror placed⟩

def lateWords (place : Nat) : UInt32 := if place = 0 then 0xFFFFFFFF else 0

theorem modify_permutes_of_late_words :
    LaneModifier.Gives (.random 7) ⟨[2, 3, 4, 5, 6, 7, 1], [2, 3, 4, 5, 6, 7, 1]⟩ ∧
      LaneModifier.shuffled lateWords = ⟨[2, 3, 4, 5, 6, 7, 1], [2, 3, 4, 5, 6, 7, 1]⟩ ∧
      ∃ source chart, Source.parse "#00111:01\n#00116:02" = .ok source ∧
        ofText .wrapping "#00111:01\n#00116:02" = .ok chart ∧ chart.IsOnChannels ∧
        IsModified ⟨[2, 3, 4, 5, 6, 7, 1], [2, 3, 4, 5, 6, 7, 1]⟩ chart
          (chart.rearrange ⟨[2, 3, 4, 5, 6, 7, 1], [2, 3, 4, 5, 6, 7, 1]⟩) ∧
        (chart.modify .mirror).modify .mirror = chart := by
  have first : Random.Shuffles lateWords LaneModifier.keys 0 [2, 3, 4, 5, 6, 7, 1] 7 :=
    .exchange (.passed (by decide) (.accepted (by decide))) <|
    .exchange (.accepted (by decide)) <| .exchange (.accepted (by decide)) <|
    .exchange (.accepted (by decide)) <| .exchange (.accepted (by decide)) <|
    .exchange (.accepted (by decide)) .done
  have second : Random.Shuffles lateWords LaneModifier.keys 7 [2, 3, 4, 5, 6, 7, 1] 13 :=
    .exchange (.accepted (by decide)) <| .exchange (.accepted (by decide)) <|
    .exchange (.accepted (by decide)) <| .exchange (.accepted (by decide)) <|
    .exchange (.accepted (by decide)) <| .exchange (.accepted (by decide)) .done
  have gives := LaneModifier.Gives.drawn 7 first second
  have accepted : Source.parse "#00111:01\n#00116:02" =
      .ok ⟨[.row 1 ⟨0x11, "01", 1⟩, .row 1 ⟨0x16, "02", 2⟩]⟩ := by
    rfl
  obtain ⟨chart, made⟩ : ∃ chart,
      ofText .wrapping "#00111:01\n#00116:02" = .ok chart := by
    rw [ofText, accepted]
    exact ⟨_, rfl⟩
  obtain ⟨-, computed, -, modified, -, compiled, twice⟩ := modify_permutes
  have order := computed _ _ _ _ _ first second (by decide)
  have placed := compiled _ _ chart made
  exact ⟨gives, order, _, chart, accepted, made, placed, modified chart _ _ gives, twice chart placed⟩

end Chart
end NoteChart
