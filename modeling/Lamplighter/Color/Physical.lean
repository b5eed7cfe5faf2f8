import Lamplighter.Bulb.Basic
import Lamplighter.Number.Binary64

/-!
# Physical colors: what a light itself speaks of

A light has its hue in degrees, saturation and brightness as shares of one, and its color
temperature in kelvin.  `ofLevels` goes from the 16-bit scale of a state to a physical color, which
a light only understands within bounds; `toState` goes back, to the nearest levels.
-/

namespace Lamplighter

structure PhysicalColor where
  hue : Float
  saturation : Float
  brightness : Float
  kelvin : Float
  deriving Repr, Inhabited

/-- why levels are no color of a light -/
inductive LevelFault where
  /-- the channel is out of its bounds -/
  | outOfBounds (channel : String)
  /-- a number beyond the floating-point numbers, by itself or as a quotient -/
  | tooLarge
  | quotientTooLarge
  deriving DecidableEq, Repr

namespace LevelFault

def message : LevelFault → String
  | .outOfBounds channel => channel
  | .tooLarge => "int too large to convert to float"
  | .quotientTooLarge => "integer division result too large for a float"

end LevelFault

namespace PhysicalColor

/-- the color temperatures that lights are set to -/
def kelvinMin : Int := 1500

def kelvinMax : Int := 9000

def wholeFloat (n : Int) : Except LevelFault Float :=
  match Binary64.ofInt? n with
  | some x => .ok x
  | none => .error .tooLarge

/-- the share of the full level -/
def shareOf (level : Int) : Except LevelFault Float :=
  let x := Binary64.ofRatio (level < 0) level.natAbs 0xFFFF
  if x.isInf then .error .quotientTooLarge else .ok x

def within (low high x : Float) : Bool :=
  low ≤ x && x ≤ high

/-- the color, if every channel is within its bounds -/
def check (color : PhysicalColor) : Except LevelFault PhysicalColor :=
  if !within 0.0 360.0 color.hue then .error (.outOfBounds "Hue")
  else if !within 0.0 1.0 color.saturation then .error (.outOfBounds "Saturation")
  else if !within 0.0 1.0 color.brightness then .error (.outOfBounds "Brightness")
  else if !within 1000.0 10000.0 color.kelvin && color.kelvin != 0.0 then
    .error (.outOfBounds "Kelvin")
  else .ok color

/-- the color of levels on the 16-bit scale, the temperature brought into its range -/
def ofLevels (hue saturation brightness kelvin : Int) : Except LevelFault PhysicalColor := do
  let degrees := (← wholeFloat hue) * 360.0 / 65535.0
  let saturation ← shareOf saturation
  let brightness ← shareOf brightness
  let kelvin ← wholeFloat (max kelvinMin (min kelvinMax kelvin))
  check { hue := degrees, saturation, brightness, kelvin }

/-- the state that a light of this color is in -/
def toState (color : PhysicalColor) (isOn : Bool) (label : String) :
    Except Binary64.NotWhole BulbState := do
  let hue ← Binary64.nearest (color.hue * 65535.0 / 360.0)
  let saturation ← Binary64.nearest (color.saturation * 65535.0)
  let brightness ← Binary64.nearest (color.brightness * 65535.0)
  let kelvin ← Binary64.truncate color.kelvin
  return { label, power := if isOn then powerOn else powerOff, hue, saturation, brightness, kelvin }

/-- the whole seconds and parts of a duration in milliseconds -/
def seconds (milliseconds : Int) : Except LevelFault Float := do
  return (← wholeFloat milliseconds) / 1000.0

end PhysicalColor

end Lamplighter
