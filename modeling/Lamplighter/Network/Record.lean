import Lamplighter.Bulb.Record
import Lamplighter.Network.Lan

/-!
# Lights as Json records

The record of a light is the record of its state, with the serial and the host besides.  A record
whose levels are no color is no light.
-/

namespace Lamplighter

namespace Light

def text? (json : Json) (name : String) : Option String :=
  match json.get? name with
  | some (.str text) => some text
  | _ => none

def ofJson? (json : Json) : Option Light := do
  let serial ← text? json "serial"
  let host ← text? json "host"
  let state ← (BulbState.ofJson json).toOption
  let color ← (PhysicalColor.ofLevels state.hue state.saturation state.brightness
    state.kelvin).toOption
  return { serial, host, label := some state.label, color, power := state.power }

/-- the record of a light, whose state is none if its color has no levels -/
def toJson (light : Light) : Json :=
  let base := [("serial", Json.str light.serial), ("host", .str light.host)]
  match light.color.toState light.isOn light.name with
  | .ok state => .obj (base ++ state.members)
  | .error _ => .obj base

end Light

namespace Lan

/-- the lights of a list of records -/
def ofJson? : Json → Option Lan
  | .arr items => (items.mapM Light.ofJson?).map fun lights => { lights }
  | _ => none

def toJson (lan : Lan) : Json :=
  .arr (lan.lights.map Light.toJson)

end Lan

end Lamplighter
