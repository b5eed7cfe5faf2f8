import Lamplighter.Json.Writer
import Lamplighter.Run.Play

/-!
# Listings: the bulbs that were found, as text and as Json

A listing names each bulb with its address, and its state where it gave one, in the order of the
lower-cased names.
-/

namespace Lamplighter

structure Listed where
  handle : Handle
  state : Option BulbState
  deriving DecidableEq, Repr, Inhabited

namespace Listed

/-- in the order of names, without regard to case; bulbs of one name stay in their order -/
def sort (listing : List Listed) : List Listed :=
  listing.mergeSort fun a b =>
    decide (¬ Text.lowerString b.handle.name < Text.lowerString a.handle.name)

def stateText (state : BulbState) : String :=
  " - " ++ (if state.isOn then "on" else "off") ++ " hsbk " ++ hexLevel state.hue ++ " "
    ++ hexLevel state.saturation ++ " " ++ hexLevel state.brightness ++ " "
    ++ decimalText state.kelvin ++ "K"

/-- one bulb as a line -/
def line (place : Nat) (listed : Listed) : String :=
  decimalText place ++ ") "
    ++ (if listed.handle.label.isEmpty then "(no label)" else listed.handle.label)
    ++ " [" ++ listed.handle.serial ++ "] " ++ listed.handle.host ++ ":"
    ++ decimalText listed.handle.port ++ (listed.state.map stateText).getD ""

/-- a line for each bulb, numbered from one -/
def toText (listing : List Listed) : String :=
  if listing.isEmpty then "No LIFX bulbs discovered.\n"
  else String.join ((listing.zipIdx 1).map fun (listed, place) => line place listed ++ "\n")

def toJson (listed : Listed) : Json :=
  .obj [("label", .str listed.handle.label), ("serial", .str listed.handle.serial),
    ("host", .str listed.handle.host), ("port", .int listed.handle.port),
    ("state", Json.ofOption BulbState.toJson listed.state)]

def toJsonText (listing : List Listed) : String :=
  (Json.arr (listing.map toJson)).toPrettyText .ascii ++ "\n"

end Listed

end Lamplighter
