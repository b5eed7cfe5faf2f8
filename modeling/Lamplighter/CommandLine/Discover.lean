import Lamplighter.CommandLine.Outcome
import Lamplighter.Discovery.Search
import Lamplighter.Network.Lan

/-!
# The tool that lists: the bulbs on the local network

It listens for a while and lists the bulbs it has heard of, as text or as Json.
-/

namespace Lamplighter.CommandLine.Discover

def grammar : Grammar :=
  { program := "lifx-act-discover"
    takesWords := false
    options := [helpOption, ⟨["--timeout-seconds"], .decimal⟩, ⟨["--broadcast"], .text⟩,
      ⟨["--json"], .flag⟩, verboseOption] }

/-- how long bulbs are listened for -/
def listenSeconds : Float := 3.0

/-- how long a bulb has to tell its state -/
def stateTime : Duration := .seconds 2

/-- the end of a search -/
def ofListing (asJson : Bool) : Except Fault (List Listed) → Outcome
  | .ok listing =>
    { result := .ok 0
      output := if asJson then Listed.toJsonText listing else Listed.toText listing }
  | .error (.timeout text) | .error (.unreachable text) =>
    { result := .ok 1, errors := "Discovery failed: " ++ text ++ "\n" }
  | .error fault => .crash (.run fault)

/-- list the bulbs; the settings are read before the arguments -/
def listBulbs (env : Environment) (place : Place) (args : List String) (lan : Lan) :
    Lan × Outcome :=
  match Settings.ofEnvironment env place with
  | .error fault => (lan, .crash (.settings fault))
  | .ok settings =>
    match parse grammar args with
    | .error halt => (lan, .ofHalt grammar halt)
    | .ok arguments =>
      let (network, client) := lan.addClient
        { broadcast := (arguments.text? "--broadcast").getD settings.broadcast
          interval := settings.discoveryInterval }
      let start : Session Lan := { network }
      let (s, listing) := start.discover client
        (.ofFloat ((arguments.decimal? "--timeout-seconds").getD listenSeconds)) stateTime
      (s.network, ofListing (arguments.isGiven "--json") listing)

end Lamplighter.CommandLine.Discover
