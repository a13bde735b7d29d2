import NoteChart.Channel
import NoteChart.ObjectId
import NoteChart.Json.Shape

/-! The JSON forms of lanes, layers and object names. -/
namespace NoteChart

def Side.cases : List (String × Side) := [("P1", .p1), ("P2", .p2)]

def Side.toJson : Side → Json
  | .p1 => .text "P1"
  | .p2 => .text "P2"

def Side.ofJson? (j : Json) : Option Side := j.case? cases

def Role.toJson : Role → Json
  | .scratch => .text "Scratch"
  | .key n => .record [("Key", .nat n.toNat)]

/-- The turntable is a case without data; a key is an object with its number. -/
def Role.ofJson? : Json → Option Role
  | .object [(some "Key", n)] => n.uint8?.map .key
  | j => j.case? [("Scratch", .scratch)]

def Lane.toJson (lane : Lane) : Json :=
  .record [("side", lane.side.toJson), ("role", lane.role.toJson)]

def Lane.ofJson? (j : Json) : Option Lane := do
  let fields ← j.fields? ["side", "role"]
  let side ← fields.required "side" Side.ofJson?
  let role ← fields.required "role" Role.ofJson?
  return { side, role }

def Layer.cases : List (String × Layer) := [("Base", .base), ("Poor", .poor), ("Layer", .overlay)]

def Layer.toJson : Layer → Json
  | .base => .text "Base"
  | .poor => .text "Poor"
  | .overlay => .text "Layer"

def Layer.ofJson? (j : Json) : Option Layer := j.case? cases

def ObjectId.toJson (id : ObjectId) : Json := .nat id.number.toNat

def ObjectId.ofJson? (j : Json) : Option ObjectId := j.uint16?.map ObjectId.mk

end NoteChart
