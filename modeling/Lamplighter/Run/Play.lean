import Lamplighter.Assoc
import Lamplighter.Command.Action
import Lamplighter.Network.Basic

/-!
# Plays: what an effect does on one bulb

A play is what is left to do on a bulb, step by step: ask for the state of the bulb, send a request,
report, keep a state for later.  `Effect.play` gives the play of an effect; it depends on the
settings, on the bulb, and for a restore on the states that were saved.
-/

namespace Lamplighter

inductive Play where
  | done (reply : Reply)
  /-- ask for the state until the bulb itself answers -/
  | ask (next : BulbState → Play)
  | send (request : Request) (next : Reply → Play)
  | report (message : String) (data : Option Json) (next : Play)
  /-- keep a state for the end of the run -/
  | keep (state : BulbState) (next : Play)

namespace Play

instance : Inhabited Play := ⟨.done .nothing⟩

/-- nothing is left to do -/
def finish : Play := .done .nothing

/-- turn the bulb on or off and say so -/
def switch (handle : Handle) (isOn : Bool) (next : Play) : Play :=
  .send (.power isOn 0) fun _ =>
    .report ((if isOn then "Turning on bulb " else "Turning off bulb ") ++ handle.name) none next

/-- turn the bulb on unless it is on -/
def switchOn (handle : Handle) (state : BulbState) (next : Play) : Play :=
  if state.isOn then next else switch handle true next

end Play

/-- a number in hexadecimal digits behind `0x` -/
def hexLevel (n : Int) : String :=
  "0x" ++ String.ofList (Text.signed Text.hexadecimal n)

def decimalText (n : Int) : String :=
  String.ofList (Text.signed Text.decimal n)

/-- the states that were saved, by the normal form of their labels; the last of a label counts -/
abbrev Saved := List (String × BulbState)

def Saved.ofStates (states : List BulbState) : Saved :=
  Assoc.ofList (states.map fun s => (normalName s.label, s))

/-- the channels that a tint sets on a bulb in a state; a gray is plain white -/
def Tint.channels (tint : Tint) (state : BulbState) : Int × Int × Int × Int :=
  match tint with
  | .gray brightness => (0, 0, brightness, 0)
  | .hued levels => (levels.first, levels.second, levels.third, state.kelvin)

/-! ### The plays -/

/-- set a tint; a bulb that would be too dim is turned off instead -/
def paintPlay (settings : Settings) (handle : Handle) (tint : Tint) (speed : Int) : Play :=
  .ask fun state =>
    let (hue, saturation, brightness, kelvin) := tint.channels state
    if brightness < settings.turnOffLevel then
      if state.isOn then Play.switch handle false .finish else .finish
    else
      Play.switchOn handle state <|
        .send (.color hue saturation brightness kelvin speed) fun _ =>
          .report ("Set " ++ handle.name ++ " to [hsb] " ++ hexLevel hue ++ " "
            ++ hexLevel saturation ++ " " ++ hexLevel brightness) none .finish

/-- a bulb that is off or has no brightness is left alone; one too dim is turned off -/
def darkerPlay (settings : Settings) (handle : Handle) (dimming : Dimming) : Play :=
  .ask fun state =>
    if state.brightness == 0 || !state.isOn then .finish
    else
      let brightness := max 0 (state.brightness - dimming.step)
      if brightness ≤ settings.turnOffLevel then Play.switch handle false .finish
      else
        .send (.color state.hue state.saturation brightness state.kelvin dimming.speed) fun _ =>
          .report ("Dimmed " ++ handle.name ++ " to " ++ hexLevel brightness) none .finish

/-- a bulb that is on at full brightness is left alone -/
def lighterPlay (handle : Handle) (dimming : Dimming) : Play :=
  .ask fun state =>
    if state.brightness == maxLevel && state.isOn then .finish
    else
      let brightness := min maxLevel (state.brightness + dimming.step)
      Play.switchOn handle state <|
        .send (.color state.hue state.saturation brightness state.kelvin dimming.speed) fun _ =>
          .report ("Brightened " ++ handle.name ++ " to " ++ hexLevel brightness) none .finish

def savePlay (handle : Handle) : Play :=
  .ask fun state =>
    .keep state (.report ("Captured state of " ++ handle.name) none .finish)

/-- bring a bulb back to the state it was saved in; one that was not saved is left alone -/
def restorePlay (saved : Option Saved) (speed : Option Int) (handle : Handle) : Play :=
  match saved.bind fun s => Assoc.get? s (normalName handle.name) with
  | none => .finish
  | some state =>
    .ask fun current =>
      let paint : Play :=
        .send (.color state.hue state.saturation state.brightness state.kelvin
          (speed.getD state.duration)) fun _ =>
          .report ("Restored " ++ handle.name) none .finish
      if current.isOn == state.isOn then paint
      else .send (.power state.isOn 0) fun _ => paint

/-- the lines that describe a state -/
def statusLines (handle : Handle) (state : BulbState) : List String :=
  ["status for " ++ (if state.label.isEmpty then handle.name else state.label),
    "---------------",
    "Bulb is " ++ (if state.isOn then "on" else "off"),
    "Color is [hsb]: " ++ hexLevel state.hue ++ " " ++ hexLevel state.saturation ++ " "
      ++ hexLevel state.brightness,
    "White color value " ++ hexLevel state.kelvin,
    "Fade time is " ++ decimalText state.duration ++ "[ms]",
    "---------------"]

def statusPlay (handle : Handle) : Play :=
  .ask fun state =>
    .report ("\n".intercalate (statusLines handle state)) (some state.toJson) .finish

def Effect.play (effect : Effect) (settings : Settings) (saved : Option Saved) (handle : Handle) :
    Play :=
  match effect with
  | .on => Play.switch handle true .finish
  | .off => Play.switch handle false .finish
  | .save _ => savePlay handle
  | .restore _ speed => restorePlay saved speed handle
  | .color paint | .hsb paint => paintPlay settings handle paint.tint paint.speed
  | .darker dimming => darkerPlay settings handle dimming
  | .lighter dimming => lighterPlay handle dimming
  | .status => statusPlay handle

end Lamplighter
