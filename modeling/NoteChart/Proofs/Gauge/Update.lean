import NoteChart.Gauge.Ladder
import NoteChart.Proofs.Binary64.Order

/-!
One gauge under updates. An update aims at a value and brings a living gauge as near to it as its
bounds allow. A dead gauge stays as it is, so death is for good.
-/
namespace NoteChart

open Binary64

namespace Gauge

theorem setValue_alive {g : Gauge} (alive : g.isAlive = true) (x : Float) :
    g.setValue x = { g with value := within g.element.min g.element.max x } := if_pos alive

theorem setValue_dead {g : Gauge} (dead : ¬g.isAlive = true) (x : Float) : g.setValue x = g :=
  if_neg dead

theorem setValue_eq (g : Gauge) (x : Float) :
    g.setValue x = { g with value := (g.setValue x).value } := by
  unfold setValue
  split <;> rfl

def aim (g : Gauge) (judgment : Judgment) (empty : Bool) : Float :=
  if g.element.death.kills judgment empty then 0.0 else g.value + g.change judgment empty

theorem update_eq_setValue (g : Gauge) (judgment : Judgment) (empty : Bool) :
    g.update judgment empty = g.setValue (g.aim judgment empty) := by
  unfold update aim
  split <;> rfl

theorem not_alive_of_dead {g : Gauge} (dead : g.isDead = true) : ¬g.isAlive = true := by
  have nonpos : g.value ≤ 0.0 := by simpa [isDead] using dead
  simpa [isAlive] using Binary64.not_lt_of_le nonpos

theorem update_of_dead {g : Gauge} (dead : g.isDead = true) (judgment : Judgment) (empty : Bool) :
    g.update judgment empty = g := by
  rw [update_eq_setValue, setValue_dead (not_alive_of_dead dead)]

theorem isAlive_iff {g : Gauge} (number : IsNumber g.value) :
    g.isAlive = true ↔ g.isDead = false := by
  simp [isAlive, isDead, ← Binary64.not_lt isNumber_zero number]

theorem update_kills {g : Gauge} (number : IsNumber g.value)
    (bounds : g.element.min = 0.0 ∧ g.element.max = 100.0) {judgment : Judgment} {empty : Bool}
    (kills : g.element.death.kills judgment empty = true) :
    (g.update judgment empty).isDead = true := by
  rw [update_eq_setValue, aim, if_pos kills]
  by_cases alive : g.isAlive = true
  · have ground : within 0.0 100.0 0.0 ≤ 0.0 := by decide
    rw [setValue_alive alive, bounds.1, bounds.2]
    exact decide_eq_true ground
  · rw [setValue_dead alive]
    simpa [isAlive_iff number] using alive

/-- A full gauge that needs survival stays full while all hits are good. -/
theorem update_full {changes : Changes} {death : InstantDeath} {judgment : Judgment} {empty : Bool}
    (gain : changes.get judgment empty = 0.16) (spared : death.kills judgment empty = false)
    (guts : List Guts) (total : Float) (noteCount : Nat) :
    (ofElement (.survival changes guts death) total noteCount).update judgment empty =
      ofElement (.survival changes guts death) total noteCount := by
  have positive : ¬(0.16 : Float) < 0.0 := by decide +kernel
  have alive : (0.0 : Float) < 100.0 := by decide +kernel
  have capped : within 0.0 100.0 (100.0 + 0.16) = 100.0 := by decide +kernel
  simp [update, ofElement, GaugeElement.survival, spared, change, gain, positive, setValue, isAlive,
    alive, capped]

end Gauge

namespace GaugeLadder

theorem gauge_update (ladder : GaugeLadder) (judgment : Judgment) (empty : Bool)
    (kind : GaugeKind) :
    (ladder.update judgment empty).gauge kind = (ladder.gauge kind).update judgment empty := by
  cases kind <;> rfl

theorem ofElements_gauge (elements : PerGauge GaugeElement) (active kind : GaugeKind)
    (total : Float) (noteCount : Nat) :
    (ofElements elements active total noteCount).gauge kind =
      Gauge.ofElement (elements.get kind) total noteCount := by
  cases kind <;> rfl

theorem isDead_update {ladder : GaugeLadder} {kind : GaugeKind}
    (dead : (ladder.gauge kind).isDead = true) (judgment : Judgment) (empty : Bool) :
    ((ladder.update judgment empty).gauge kind).isDead = true := by
  rwa [gauge_update, Gauge.update_of_dead dead]

theorem not_isDead_of_update {ladder : GaugeLadder} {kind : GaugeKind} {judgment : Judgment}
    {empty : Bool} (living : ((ladder.update judgment empty).gauge kind).isDead = false) :
    (ladder.gauge kind).isDead = false := by
  by_contra dead
  rw [isDead_update (by simpa using dead)] at living
  cases living

end GaugeLadder
end NoteChart
