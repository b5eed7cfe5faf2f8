import Lamplighter.Command.Targets
import Lamplighter.Bulb.Basic

/-!
# Control: the books of a run

A run listens to messages: a bulb was seen, an effect has ended, an idle interval has passed.  Of
the bulbs that are announced only the first of each serial becomes a message, and of those only the
ones that the working targets name are acted on; each takes its name off the working targets.

A run stops looking for bulbs when an effect has ended and named targets are exhausted, or when an
idle interval passed with nothing in flight and no bulb was matched since the one before it.
-/

namespace Lamplighter

inductive Message where
  | seen (handle : Handle)
  | ended (handle : Handle) (isOk : Bool)
  | tick
  deriving DecidableEq, Repr

structure Control where
  working : Targets
  isLooking : Bool := true
  seen : List String := []
  isAlive : Bool := true
  inFlight : Int := 0
  matched : List String := []
  failed : List String := []
  idleChecks : Nat := 0
  deriving DecidableEq, Repr, Inhabited

namespace Control

/-- the message of an announcement, for the first one of its serial -/
def announce (control : Control) (handle : Handle) : Control × Option Message :=
  if handle.serial ∈ control.seen then (control, none)
  else ({ control with seen := control.seen ++ [handle.serial] }, some (.seen handle))

/-- act on a bulb if it is named, and tell whether -/
def match? (control : Control) (handle : Handle) : Control × Bool :=
  if control.working.isMatch handle.name then
    ({ control with
        isAlive := true
        working := control.working.discard handle.name
        inFlight := control.inFlight + 1
        matched := control.matched ++ [handle.name] }, true)
  else (control, false)

/-- an effect has ended -/
def settle (control : Control) (handle : Handle) (isOk : Bool) : Control :=
  { control with
    inFlight := control.inFlight - 1
    failed := if isOk then control.failed else control.failed ++ [handle.name] }

/-- stop looking for bulbs once named targets are exhausted -/
def stopIfExhausted (control : Control) : Control :=
  if control.working.isExhausted then { control with isLooking := false } else control

/-- an idle interval has passed -/
def tick (control : Control) : Control :=
  if !control.isAlive && control.inFlight == 0 then
    { control with idleChecks := control.idleChecks + 1, isLooking := false }
  else { control with idleChecks := control.idleChecks + 1, isAlive := false }

/-- a message is handled; tells the bulb to act on -/
def handle (control : Control) : Message → Control × Option Handle
  | .seen bulb =>
    match control.match? bulb with
    | (control, true) => (control, some bulb)
    | (control, false) => (control, none)
  | .ended bulb isOk => ((control.settle bulb isOk).stopIfExhausted, none)
  | .tick => (control.tick, none)

/-- the effects that had ended unnoticed when the run stopped looking -/
def settleAll (control : Control) (messages : List Message) : Control :=
  messages.foldl (fun control message =>
    match message with
    | .ended bulb isOk => control.settle bulb isOk
    | _ => control) control

/-- the names that no bulb answered to -/
def unmatched (control : Control) : List String :=
  control.working.names

end Control

end Lamplighter
