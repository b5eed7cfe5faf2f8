import Lamplighter.Color.Named
import Lamplighter.Number.Binary64

/-!
# Hue: red, green and blue levels turned into hue, saturation and brightness

Levels are on the 16-bit scale on both sides.  A color whose three channels are equal has no hue
and is a gray of some brightness.  The three channels of any other color are rounded up.
-/

namespace Lamplighter

/-- a color by brightness: a gray, or a hue with its saturation -/
inductive Tint where
  | gray (brightness : Int)
  | hued (levels : Levels)
  deriving DecidableEq, Repr, Inhabited

/-- why levels have no tint -/
inductive TintFault where
  /-- a level is beyond the floating-point numbers -/
  | tooLarge
  | notWhole (fault : Binary64.NotWhole)
  deriving DecidableEq, Repr

namespace Tint

/-- the share of the full level -/
def share (level : Int) : Except TintFault Float :=
  match Binary64.ofInt? level with
  | some x => .ok (x / 65535.0)
  | none => .error .tooLarge

/-- the later of two numbers only where it is strictly larger -/
def larger (x y : Float) : Float :=
  if y > x then y else x

def smaller (x y : Float) : Float :=
  if y < x then y else x

/-- the hue in degrees, for shares whose largest is `high` and whose spread is `spread` -/
def degrees (r g b high spread : Float) : Float :=
  let sixths :=
    if r == high then (g - b) / spread
    else if g == high then 2.0 + (b - r) / spread
    else 4.0 + (r - g) / spread
  let h := sixths * 60.0
  if h < 0.0 then h + 360.0 else h

def ofRgb (rgb : Levels) : Except TintFault Tint := do
  let r ← share rgb.first
  let g ← share rgb.second
  let b ← share rgb.third
  let high := larger (larger r g) b
  let low := smaller (smaller r g) b
  let spread := high - low
  if high == 0.0 then return .gray 0
  if spread == 0.0 then
    return .gray (← (Binary64.nearest (high * 65535.0)).mapError .notWhole)
  let hue ← (Binary64.ceil (degrees r g b high spread * 65535.0 / 360.0)).mapError .notWhole
  let saturation ← (Binary64.ceil (spread / high * 65535.0)).mapError .notWhole
  let brightness ← (Binary64.ceil (high * 65535.0)).mapError .notWhole
  return .hued ⟨hue, saturation, brightness⟩

end Tint

end Lamplighter
