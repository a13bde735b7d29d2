import NoteChart.Proofs.Binary64.Order
import NoteChart.Proofs.Gauge.AutoShift
import Mathlib.Data.List.Chain

/-!
Auto shift left to itself. Asked again and again with no judgment between, it goes in one direction
only and comes to rest. The reason is the line: a light gauge is left for being below it, and a
gauge is come back to only for being at it, so what a fall has left no rise goes back to.
-/
namespace NoteChart.GaugeLadder

open GaugeKind

/-- Auto shift is asked until some ladder is reached, and each answer was to shift to the next of
some kinds. -/
inductive Shifts (start floor : GaugeKind) : GaugeLadder → List GaugeKind → GaugeLadder → Prop
  | none (ladder : GaugeLadder) : Shifts start floor ladder [] ladder
  | next {ladder last : GaugeLadder} {kind : GaugeKind} {kinds : List GaugeKind}
    (shift : ladder.decideShift start floor = .to kind)
    (later : Shifts start floor (ladder.activate kind) kinds last) :
    Shifts start floor ladder (kind :: kinds) last

def IsSettled (ladder : GaugeLadder) (start floor : GaugeKind) : Prop :=
  ladder.decideShift start floor = .stay ∨ ladder.decideShift start floor = .fail

def Descends (kinds : List GaugeKind) : Prop := kinds.IsChain fun a b => b < a

def Ascends (kinds : List GaugeKind) : Prop := kinds.IsChain fun a b => a < b

variable {ladder last : GaugeLadder} {start floor kind : GaugeKind} {kinds : List GaugeKind}

@[simp] theorem active_activate : (ladder.activate kind).active = kind := rfl

@[simp] theorem gauge_activate (k : GaugeKind) : (ladder.activate kind).gauge k = ladder.gauge k :=
  rfl

@[simp] theorem value_activate (k : GaugeKind) : (ladder.activate kind).value k = ladder.value k :=
  rfl

theorem fallTo?_light (found : ladder.fallTo? floor = some kind) {k : GaugeKind} (above : kind < k)
    (light : k.isSurvival = false) : ladder.active ≤ k := by
  obtain ⟨-, -, -, passed⟩ := fallTo?_some found
  by_contra below
  have skipped := passed k above (Nat.lt_of_not_le below)
  rw [isPlayable_eq_false, light] at skipped
  cases skipped.1

theorem fallTo?_survival (found : ladder.fallTo? floor = some kind)
    (survival : kind.isSurvival = true) :
    (ladder.activate kind).decideShift start floor = .stay := by
  obtain ⟨-, -, playable, -⟩ := fallTo?_some found
  have alive : (ladder.gauge kind).isDead = false := by simpa [isPlayable, survival] using playable
  have kept : (ladder.activate kind).mustFall = false := by
    simp [mustFall, survival, activeGauge, alive]
  have highest : (ladder.activate kind).riseTo? start = Option.none := by
    cases kind <;> first | rfl | cases survival
  simp [decideShift, kept, highest]

theorem mustFall_light (light : ladder.active.isSurvival = false) :
    ladder.mustFall = decide (ladder.value ladder.active < clearLine) := by
  unfold mustFall
  rw [light]
  rfl

theorem below_line (falls : ladder.mustFall = true) (light : ladder.active.isSurvival = false) :
    ¬clearLine ≤ ladder.value ladder.active := by
  rw [mustFall_light light] at falls
  exact fun reached => Binary64.not_lt_of_le reached (of_decide_eq_true falls)

theorem riseTo?_of_fall (falls : ladder.mustFall = true) (found : ladder.fallTo? floor = some kind) :
    (ladder.activate kind).riseTo? start = Option.none := by
  obtain ⟨-, lower, -, -⟩ := fallTo?_some found
  have left {k : GaugeKind} (above : kind < k) (light : k.isSurvival = false)
      (next : k.rank = kind.rank + 1) : ¬clearLine ≤ ladder.value k := by
    have same : ladder.active = k := by
      apply rank_injective
      have limit := le_iff_rank.mp (fallTo?_light found above light)
      rw [lt_iff_rank] at lower
      omega
    rw [← same] at light ⊢
    exact below_line falls light
  cases kind with
  | assist => simp [riseTo?, left (k := .easy) (by decide) rfl rfl]
  | easy => simp [riseTo?, left (k := .groove) (by decide) rfl rfl]
  | _ => rfl

theorem mustFall_of_rise (found : ladder.riseTo? start = some kind) :
    (ladder.activate kind).mustFall = false := by
  have reached : clearLine ≤ ladder.value kind := by
    unfold riseTo? at found
    split at found
    · split_ifs at found with above
      cases found
      exact (by simpa using above : _ ∧ _).2
    · split_ifs at found with above
      cases found
      exact (by simpa using above : _ ∧ _).2
    · cases found
  obtain ⟨-, -, -, light⟩ := riseTo?_some found
  rw [mustFall_light light]
  exact decide_eq_false (Binary64.not_lt_of_le reached)

namespace Shifts

theorem gauges (shifts : Shifts start floor ladder kinds last) : last.gauges = ladder.gauges := by
  induction shifts with
  | none => rfl
  | next shift later ih => exact ih

theorem extend (shifts : Shifts start floor ladder kinds last)
    (shift : last.decideShift start floor = .to kind) :
    Shifts start floor ladder (kinds ++ [kind]) (last.activate kind) := by
  induction shifts with
  | none => exact .next shift (.none _)
  | next first later ih => exact .next first (ih shift)

theorem eq_nil (shifts : Shifts start floor ladder kinds last)
    (settled : ladder.decideShift start floor = .stay) : kinds = [] := by
  cases shifts with
  | none => rfl
  | next shift later =>
    rw [settled] at shift
    cases shift

theorem falling (shifts : Shifts start floor ladder kinds last)
    (down : ladder.mustFall = true ∨ ladder.riseTo? start = Option.none) :
    Descends (ladder.active :: kinds) ∧ (∀ k ∈ kinds, floor ≤ k ∧ k < ladder.active) ∧
      kinds.length ≤ min 3 ladder.active.rank := by
  induction shifts with
  | none => exact ⟨.singleton _, by simp, Nat.zero_le _⟩
  | @next ladder last kind kinds shift later ih =>
    obtain ⟨falls, found⟩ | ⟨stays, found⟩ := decideShift_to shift
    · obtain ⟨above, lower, -, -⟩ := fallTo?_some found
      obtain ⟨descends, inside, short⟩ := ih (Or.inr (riseTo?_of_fall falls found))
      rw [active_activate] at descends inside short
      refine ⟨.cons_cons lower descends, ?_, ?_⟩
      · intro k member
        rcases List.mem_cons.mp member with rfl | member
        · exact ⟨above, lower⟩
        · obtain ⟨above', lower'⟩ := inside k member
          exact ⟨above', Nat.lt_trans lower' lower⟩
      · rw [lt_iff_rank] at lower
        by_cases survival : kind.isSurvival = true
        · obtain rfl := later.eq_nil (fallTo?_survival found survival)
          simp
          omega
        · rw [isSurvival_iff_rank] at survival
          rw [List.length_cons]
          omega
    · rcases down with falls | highest
      · rw [stays] at falls
        cases falls
      · rw [highest] at found
        cases found

theorem rising (shifts : Shifts start floor ladder kinds last) (up : ladder.mustFall = false) :
    Ascends (ladder.active :: kinds) ∧ (∀ k ∈ kinds, ladder.active < k ∧ k ≤ start) ∧
      kinds.length ≤ 2 - ladder.active.rank := by
  induction shifts with
  | none => exact ⟨.singleton _, by simp, Nat.zero_le _⟩
  | @next ladder last kind kinds shift later ih =>
    obtain ⟨falls, -⟩ | ⟨-, found⟩ := decideShift_to shift
    · rw [up] at falls
      cases falls
    · obtain ⟨higher, below, -, light⟩ := riseTo?_some found
      obtain ⟨ascends, inside, short⟩ := ih (mustFall_of_rise found)
      rw [active_activate] at ascends inside short
      refine ⟨.cons_cons higher ascends, ?_, ?_⟩
      · intro k member
        rcases List.mem_cons.mp member with rfl | member
        · exact ⟨higher, below⟩
        · obtain ⟨higher', below'⟩ := inside k member
          exact ⟨Nat.lt_trans higher higher', below'⟩
      · have last : ¬3 ≤ kind.rank := by
          rw [← isSurvival_iff_rank, light]
          exact Bool.false_ne_true
        rw [lt_iff_rank] at higher
        rw [List.length_cons]
        omega

/-- All shifts of a series go in one direction, and there are three at most. -/
theorem one_way (shifts : Shifts start floor ladder kinds last) :
    kinds.length ≤ 3 ∧
      (Descends (ladder.active :: kinds) ∧ (∀ k ∈ kinds, floor ≤ k ∧ k < ladder.active) ∨
        Ascends (ladder.active :: kinds) ∧ ∀ k ∈ kinds, ladder.active < k ∧ k ≤ start) := by
  by_cases falls : ladder.mustFall = true
  · obtain ⟨descends, inside, short⟩ := shifts.falling (Or.inl falls)
    exact ⟨by omega, Or.inl ⟨descends, inside⟩⟩
  · obtain ⟨ascends, inside, short⟩ := shifts.rising (Bool.eq_false_iff.mpr falls)
    exact ⟨by omega, Or.inr ⟨ascends, inside⟩⟩

end Shifts

theorem exists_settled (ladder : GaugeLadder) (start floor : GaugeKind) :
    ∃ kinds last, Shifts start floor ladder kinds last ∧ last.IsSettled start floor := by
  by_contra restless
  have endless (n : Nat) :
      ∃ kinds last, Shifts start floor ladder kinds last ∧ kinds.length = n := by
    induction n with
    | zero => exact ⟨[], ladder, .none ladder, rfl⟩
    | succ n ih =>
      obtain ⟨kinds, last, shifts, length⟩ := ih
      rcases decision : last.decideShift start floor with _ | kind | _
      · exact absurd ⟨kinds, last, shifts, Or.inl decision⟩ restless
      · exact ⟨_, _, shifts.extend decision, by simp [length]⟩
      · exact absurd ⟨kinds, last, shifts, Or.inr decision⟩ restless
  obtain ⟨kinds, last, shifts, length⟩ := endless 4
  have short := shifts.one_way.1
  omega

theorem decideShift_fail_lost (failed : ladder.decideShift start floor = .fail) {k : GaugeKind}
    (above : floor ≤ k) (below : k ≤ ladder.active) :
    k.isSurvival = true ∧ (ladder.gauge k).isDead = true := by
  obtain ⟨survival, dead, missed⟩ := decideShift_fail failed
  rcases Nat.lt_or_eq_of_le below with lower | same
  · exact isPlayable_eq_false.mp (fallTo?_none missed above lower)
  · obtain rfl := rank_injective same
    exact ⟨survival, dead⟩

/-- Auto shift that is asked again and again, with no judgment between, comes to rest, with the gauge
kept or the play failed. However often it is asked, it shifts three times at most, and either only
downwards or only upwards, to kinds between floor and start; and it fails a play only if the kind it
has come to and all below it, down to the floor, are dead survival gauges. -/
theorem shifts_settle (above : floor ≤ ladder.active) (below : ladder.active ≤ start) :
    (∃ kinds last, Shifts start floor ladder kinds last ∧ last.IsSettled start floor) ∧
    ∀ kinds last, Shifts start floor ladder kinds last →
      kinds.length ≤ 3 ∧
      (Descends (ladder.active :: kinds) ∨ Ascends (ladder.active :: kinds)) ∧
      (∀ kind ∈ kinds, floor ≤ kind ∧ kind ≤ start) ∧
      (last.decideShift start floor = .fail → ∀ kind, floor ≤ kind → kind ≤ last.active →
        kind.isSurvival = true ∧ (ladder.gauge kind).isDead = true) := by
  refine ⟨exists_settled ladder start floor, ?_⟩
  intro kinds last shifts
  obtain ⟨short, way⟩ := shifts.one_way
  refine ⟨short, way.imp And.left And.left, ?_, ?_⟩
  · intro kind member
    rcases way with ⟨-, inside⟩ | ⟨-, inside⟩
    · obtain ⟨least, lower⟩ := inside kind member
      exact ⟨least, Nat.le_trans (Nat.le_of_lt lower) below⟩
    · obtain ⟨higher, most⟩ := inside kind member
      exact ⟨Nat.le_trans above (Nat.le_of_lt higher), most⟩
  · intro failed kind least most
    have lost := decideShift_fail_lost failed least most
    rwa [gauge, shifts.gauges] at lost

theorem shifts_settle_of_lowest :
    let lowest : GaugeLadder :=
      { gauges := (GaugeElement.standard false).map fun element =>
          (Gauge.ofElement element 300.0 1000).setValue 0.0
        active := .hazard
        start := .hazard }
    GaugeKind.assist ≤ lowest.active ∧ GaugeKind.hard ≤ lowest.active ∧
    lowest.active ≤ GaugeKind.hazard ∧
    Shifts .hazard .assist lowest [.groove, .easy, .assist] (lowest.activate .assist) ∧
    [GaugeKind.groove, .easy, .assist].length ≤ 3 ∧
    lowest.decideShift .hazard .hard = .fail ∧ (lowest.gauge .exHard).isDead = true := by
  intro lowest
  have least : GaugeKind.assist ≤ lowest.active := by decide
  have survival : GaugeKind.hard ≤ lowest.active := by decide
  have most : lowest.active ≤ GaugeKind.hazard := by decide
  have shifts :
      Shifts .hazard .assist lowest [.groove, .easy, .assist] (lowest.activate .assist) := by
    refine .next ?_ (.next ?_ (.next ?_ (.none _))) <;> decide +kernel
  have failed : lowest.decideShift .hazard .hard = .fail := by decide +kernel
  obtain ⟨-, series⟩ := shifts_settle least most
  obtain ⟨-, series'⟩ := shifts_settle survival most
  obtain ⟨-, -, -, lost⟩ := series' _ _ (.none lowest)
  exact ⟨least, survival, most, shifts, (series _ _ shifts).1, failed,
    (lost failed .exHard (by decide) (by decide)).2⟩

end NoteChart.GaugeLadder
