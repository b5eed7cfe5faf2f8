import Lamplighter.Run.Fault
import Lamplighter.Timeline.Moment

/-!
# Networks: how bulbs are found, asked and told

A client of a network starts and stops listening for bulbs, and sends requests to the bulbs it has
found.  What a request will come to is known when it is sent, how long it takes too; what it does
happens when it is settled, which is never if it is given up before.
-/

namespace Lamplighter

inductive Request where
  | read
  | power (isOn : Bool) (duration : Int)
  | color (hue saturation brightness kelvin duration : Int)
  /-- find out the label of a light that was met for the first time -/
  | introduce
  deriving DecidableEq, Repr, Inhabited

/-- what a request gives back -/
inductive Reply where
  | nothing
  /-- the bulb that answered, with its state -/
  | state (handle : Handle) (state : BulbState)
  deriving DecidableEq, Repr, Inhabited

/-- how long it takes until a request is settled -/
inductive Wait where
  | atOnce
  | lasting (duration : Duration)
  deriving DecidableEq, Repr, Inhabited

/-- what a request comes to when it is settled -/
inductive Answer where
  | ok
  /-- a bulb of another serial answers -/
  | impostor (serial : String)
  | fault (fault : Fault)
  deriving DecidableEq, Repr

/-- what a network does of its own while a client listens; a client that stops and starts again is
in another session -/
inductive Signal where
  /-- a bulb makes itself known -/
  | bulb (client session : Nat) (handle : Handle)
  /-- the search for bulbs goes on -/
  | search (client session : Nat)
  deriving DecidableEq, Repr

/-- what a network has come to: bulbs that were found, and signals that are set for later, each
after its wait -/
structure Sighting where
  found : List Handle := []
  later : List (Wait × Signal) := []
  deriving Inhabited

class Network (ν : Type) where
  /-- send a request to a bulb -/
  send : ν → (client : Nat) → Handle → Request → ν × Wait × Answer
  /-- settle a request that was sent; introductions may find a bulb -/
  settle : ν → (client : Nat) → Handle → Request → Answer → ν × Except Fault Reply × List Handle
  /-- listen for bulbs -/
  start : ν → (client : Nat) → ν × Except Fault Sighting
  stop : ν → (client : Nat) → ν
  /-- a signal comes -/
  signal : ν → Signal → ν × Sighting

end Lamplighter
