import Lamplighter.Bulb.Basic
import Lamplighter.Json.Display
import Lamplighter.Number.Numeral

/-!
# Bulb states as Json records

`BulbState.toJson` writes the seven fields in a fixed order.  `BulbState.ofJson` is more lenient: a
label may be any value, which is shown as text, a channel may be any number, truth value or
numeral, and the duration may be missing.  The fields are read in the written order and the first
fault is the answer.
-/

namespace Lamplighter

/-- why a value is no state -/
inductive RecordFault where
  /-- the field is missing -/
  | absent (field : String)
  /-- the value is not an object; its kind -/
  | notRecord (kind : String)
  /-- a channel is of a kind that is no number -/
  | notNumber (kind : String)
  /-- a channel is a text that is no numeral -/
  | numeral (fault : Numeral.Fault)
  /-- a channel is an infinity or not a number -/
  | notWhole (fault : Binary64.NotWhole)
  deriving DecidableEq, Repr

namespace RecordFault

def message : RecordFault → String
  | .absent field => Text.quotedString field
  | .notRecord "list" => "list indices must be integers or slices, not str"
  | .notRecord "str" => "string indices must be integers, not 'str'"
  | .notRecord kind => "'" ++ kind ++ "' object is not subscriptable"
  | .notNumber kind =>
    "int() argument must be a string, a bytes-like object or a real number, not '" ++ kind ++ "'"
  | .numeral fault => fault.message
  | .notWhole .infinite => "cannot convert float infinity to integer"
  | .notWhole .undefined => "cannot convert float NaN to integer"

end RecordFault

namespace Json

/-- the value of a field that must be there -/
def field (json : Json) (name : String) : Except RecordFault Json :=
  match json with
  | .obj members =>
    match Assoc.get? members name with
    | some value => .ok value
    | none => .error (.absent name)
  | json => .error (.notRecord json.kind)

/-- the whole number that a value stands for -/
def toWhole : Json → Except RecordFault Int
  | .int n => .ok n
  | .bool b => .ok (if b then 1 else 0)
  | .float x => (Binary64.truncate x).mapError .notWhole
  | .str s => (Numeral.readInt 10 s.toList).mapError .numeral
  | json => .error (.notNumber json.kind)

end Json

namespace BulbState

/-- the fields of a state -/
def members (state : BulbState) : List (String × Json) :=
  [("label", .str state.label), ("power", .int state.power), ("hue", .int state.hue),
    ("saturation", .int state.saturation), ("brightness", .int state.brightness),
    ("kelvin", .int state.kelvin), ("duration_ms", .int state.duration)]

def toJson (state : BulbState) : Json :=
  .obj state.members

def ofJson (json : Json) : Except RecordFault BulbState := do
  let label ← json.field "label"
  let power ← (← json.field "power").toWhole
  let hue ← (← json.field "hue").toWhole
  let saturation ← (← json.field "saturation").toWhole
  let brightness ← (← json.field "brightness").toWhole
  let kelvin ← (← json.field "kelvin").toWhole
  let duration ← match json.get? "duration_ms" with
    | some value => value.toWhole
    | none => pure 0
  return { label := label.display, power, hue, saturation, brightness, kelvin, duration }

theorem ofJson_toJson (state : BulbState) : ofJson state.toJson = .ok state := rfl

end BulbState

end Lamplighter
