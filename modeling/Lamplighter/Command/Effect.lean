import Lamplighter.Color.Hue
import Lamplighter.Command.Clause
import Lamplighter.Settings

/-!
# Effects: verbs with what they need to know

Each verb reads its own parameters from the whole sentence.  A verb also has the keyword that ends
the names, and may take an adverb.
-/

namespace Lamplighter

inductive Verb where
  | on | off | save | restore | color | hsb | darker | lighter | status
  deriving DecidableEq, Repr, Inhabited

namespace Verb

def word : Verb → String
  | .on => "on"
  | .off => "off"
  | .save => "save"
  | .restore => "restore"
  | .color => "color"
  | .hsb => "hsb"
  | .darker => "darker"
  | .lighter => "lighter"
  | .status => "status"

def every : List Verb :=
  [.on, .off, .save, .restore, .color, .hsb, .darker, .lighter, .status]

/-- the verb of a lower-case word; `rgb` is another word for `color` -/
def ofWord? (word : String) : Option Verb :=
  every.find? fun v => v.word == (if word == "rgb" then "color" else word)

/-- the keyword that ends the names -/
def stopper : Verb → Option String
  | .save => some "to"
  | .restore => some "from"
  | .color | .hsb => some "in"
  | _ => none

def takesAdverb : Verb → Bool
  | .darker | .lighter => true
  | _ => false

theorem ofWord?_word (v : Verb) : ofWord? v.word = some v := by
  cases v <;> decide +kernel

end Verb

/-- what a color verb sets: the color as it was named, its tint, the transition time, and the red,
green and blue levels where there are any -/
structure Paint where
  choice : ColorChoice
  tint : Tint
  speed : Int
  rgb : Option Levels
  deriving DecidableEq, Repr, Inhabited

/-- what a dimming verb does: the adverb, the step and the transition time -/
structure Dimming where
  modifier : Option String
  step : Int
  speed : Int
  deriving DecidableEq, Repr, Inhabited

inductive Effect where
  | on
  | off
  | save (stateName : Option String)
  /-- without a speed each bulb keeps the transition time it was saved with -/
  | restore (stateName : Option String) (speed : Option Int)
  | color (paint : Paint)
  | hsb (paint : Paint)
  | darker (dimming : Dimming)
  | lighter (dimming : Dimming)
  | status
  deriving DecidableEq, Repr, Inhabited

/-- how far one dimming goes -/
def stepOf (modifier : Option String) (stepSize : Int) : Int :=
  if modifier == some "much" then 0x50 * stepSize
  else if modifier == some "little" then 0x5 * stepSize
  else 0x20 * stepSize

/-- the tint of levels on the 16-bit scale, which always have one -/
def tintOf (rgb : Levels) : Tint :=
  match Tint.ofRgb rgb with
  | .ok tint => tint
  | .error _ => .gray 0

def resolveName (name : String) : Except CommandError Levels :=
  match Color.ofName? name with
  | some rgb => .ok rgb
  | none => .error (.unknownColor name)

def readPaint (tokens : List String) (settings : Settings) (isRgb : Bool) :
    Except CommandError Paint := do
  let choice ← readColor tokens
  let speed := (readSpeed? tokens).getD settings.transition
  match choice with
  | .name name =>
    let rgb ← resolveName name
    return { choice, tint := tintOf rgb, speed, rgb := some rgb }
  | .levels levels =>
    if isRgb then return { choice, tint := tintOf levels, speed, rgb := some levels }
    else return { choice, tint := .hued levels, speed, rgb := none }

def readDimming (tokens : List String) (settings : Settings) : Dimming :=
  let modifier := readAdverb? tokens
  { modifier, step := stepOf modifier settings.stepSize
    speed := (readSpeed? tokens).getD settings.transition }

namespace Effect

def read (verb : Verb) (tokens : List String) (settings : Settings) :
    Except CommandError Effect :=
  match verb with
  | .on => .ok .on
  | .off => .ok .off
  | .save => .ok (.save (valueAfter? tokens "to"))
  | .restore => .ok (.restore (valueAfter? tokens "from") (readSpeed? tokens))
  | .color => (readPaint tokens settings true).map .color
  | .hsb => (readPaint tokens settings false).map .hsb
  | .darker => .ok (.darker (readDimming tokens settings))
  | .lighter => .ok (.lighter (readDimming tokens settings))
  | .status => .ok .status

def verb : Effect → Verb
  | .on => .on
  | .off => .off
  | .save _ => .save
  | .restore _ _ => .restore
  | .color _ => .color
  | .hsb _ => .hsb
  | .darker _ => .darker
  | .lighter _ => .lighter
  | .status => .status

end Effect

/-! ### Parameters -/

namespace Levels

def toJson (levels : Levels) : Json :=
  .arr [.int levels.first, .int levels.second, .int levels.third]

end Levels

namespace Tint

def toJson : Tint → Json
  | .gray brightness => .int brightness
  | .hued levels => levels.toJson

end Tint

namespace ColorChoice

def toJson : ColorChoice → Json
  | .levels rgb => rgb.toJson
  | .name text => .str text

end ColorChoice

namespace Paint

def toJson (paint : Paint) : Json :=
  .obj [("color", paint.choice.toJson), ("hsv", paint.tint.toJson), ("speed", .int paint.speed),
    ("rgb", Json.ofOption Levels.toJson paint.rgb)]

end Paint

namespace Dimming

def toJson (dimming : Dimming) : Json :=
  .obj [("modifier", Json.ofOption .str dimming.modifier), ("step", .int dimming.step),
    ("speed", .int dimming.speed)]

end Dimming

namespace Effect

/-- the parameters of an effect, by name -/
def parameters : Effect → Json
  | .on | .off | .status => .obj []
  | .save stateName => .obj [("state_name", Json.ofOption .str stateName)]
  | .restore stateName speed =>
    .obj [("state_name", Json.ofOption .str stateName), ("speed", Json.ofOption .int speed)]
  | .color paint | .hsb paint => paint.toJson
  | .darker dimming | .lighter dimming => dimming.toJson

end Effect

end Lamplighter
