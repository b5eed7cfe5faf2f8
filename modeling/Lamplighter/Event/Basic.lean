import Lamplighter.Json.Basic
import Lamplighter.Timeline.Calendar

/-!
# Events: what a run reports

An event has a kind, the command of the run, a message, and may name a bulb and carry data.
-/

namespace Lamplighter

inductive EventKind where
  | runStarted
  | deviceMatched
  | deviceReport
  | deviceFailed
  | runFinished
  | other (name : String)
  deriving DecidableEq, Repr, Inhabited

namespace EventKind

def name : EventKind → String
  | .runStarted => "run.started"
  | .deviceMatched => "device.matched"
  | .deviceReport => "device.report"
  | .deviceFailed => "device.failed"
  | .runFinished => "run.finished"
  | .other name => name

end EventKind

structure Event where
  stamp : String
  kind : EventKind
  command : String
  message : String
  device : Option String := none
  data : Option Json := none
  deriving Inhabited

namespace Event

/-- an event of the given moment -/
def ofMoment (moment : Moment) (kind : EventKind) (command message : String)
    (device : Option String := none) (data : Option Json := none) : Event :=
  { stamp := Calendar.stamp moment, kind, command, message, device, data }

/-- a member that is left out when it has no value -/
def optional (name : String) : Option Json → List (String × Json)
  | none => []
  | some value => [(name, value)]

def toJson (event : Event) : Json :=
  .obj ([("ts", .str event.stamp), ("type", .str event.kind.name), ("command", .str event.command),
    ("message", .str event.message)]
    ++ optional "device" (event.device.map .str) ++ optional "data" event.data)

end Event

end Lamplighter
