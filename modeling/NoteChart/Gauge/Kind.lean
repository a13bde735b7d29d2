/-!
The six kinds of gauge, from the least to the most strict. The first three start low and are
cleared by ending high enough; the last three start full and are cleared by surviving.
-/
namespace NoteChart

inductive GaugeKind where
  | assist
  | easy
  | groove
  | hard
  | exHard
  | hazard
deriving DecidableEq, Repr

namespace GaugeKind

def all : List GaugeKind := [.assist, .easy, .groove, .hard, .exHard, .hazard]

def rank : GaugeKind → Nat
  | .assist => 0
  | .easy => 1
  | .groove => 2
  | .hard => 3
  | .exHard => 4
  | .hazard => 5

instance : LE GaugeKind := ⟨fun a b => a.rank ≤ b.rank⟩
instance : LT GaugeKind := ⟨fun a b => a.rank < b.rank⟩
instance (a b : GaugeKind) : Decidable (a ≤ b) := inferInstanceAs (Decidable (a.rank ≤ b.rank))
instance (a b : GaugeKind) : Decidable (a < b) := inferInstanceAs (Decidable (a.rank < b.rank))

def isSurvival : GaugeKind → Bool
  | .hard | .exHard | .hazard => true
  | _ => false

def stricter? : GaugeKind → Option GaugeKind
  | .assist => some .easy
  | .easy => some .groove
  | .groove => some .hard
  | .hard => some .exHard
  | .exHard => some .hazard
  | .hazard => none

def looser? : GaugeKind → Option GaugeKind
  | .assist => none
  | .easy => some .assist
  | .groove => some .easy
  | .hard => some .groove
  | .exHard => some .hard
  | .hazard => some .exHard

/-- The kinds below a kind, strictest first. -/
def below (kind : GaugeKind) : List GaugeKind := (all.filter (· < kind)).reverse

/-- The kinds between two, both included, least strict first. -/
def between (floor start : GaugeKind) : List GaugeKind :=
  all.filter fun kind => floor ≤ kind && kind ≤ start

def strictest? (kinds : List GaugeKind) : Option GaugeKind :=
  kinds.foldl (fun best? kind =>
    match best? with
    | some best => if best < kind then some kind else some best
    | none => some kind) none

def label : GaugeKind → String
  | .assist => "ASSIST"
  | .easy => "EASY"
  | .groove => "GROOVE"
  | .hard => "HARD"
  | .exHard => "EXHARD"
  | .hazard => "HAZARD"

end GaugeKind

structure PerGauge (α : Type) where
  assist : α
  easy : α
  groove : α
  hard : α
  exHard : α
  hazard : α
deriving DecidableEq, Repr

namespace PerGauge

variable {α β : Type}

def get (p : PerGauge α) : GaugeKind → α
  | .assist => p.assist
  | .easy => p.easy
  | .groove => p.groove
  | .hard => p.hard
  | .exHard => p.exHard
  | .hazard => p.hazard

def set (p : PerGauge α) (kind : GaugeKind) (a : α) : PerGauge α :=
  match kind with
  | .assist => { p with assist := a }
  | .easy => { p with easy := a }
  | .groove => { p with groove := a }
  | .hard => { p with hard := a }
  | .exHard => { p with exHard := a }
  | .hazard => { p with hazard := a }

def map (f : α → β) (p : PerGauge α) : PerGauge β :=
  ⟨f p.assist, f p.easy, f p.groove, f p.hard, f p.exHard, f p.hazard⟩

def replicate (a : α) : PerGauge α := ⟨a, a, a, a, a, a⟩

def toList (p : PerGauge α) : List α :=
  [p.assist, p.easy, p.groove, p.hard, p.exHard, p.hazard]

end PerGauge
end NoteChart
