import Lamplighter.Snapshot.Store

/-!
# Faults: what goes wrong while lights are asked and told

A fault has the text that is shown for it.  Two of them are faults of the transport: no answer came,
or the bulb could not be reached.
-/

namespace Lamplighter

inductive Fault where
  /-- no answer came -/
  | timeout (text : String)
  | unreachable (text : String)
  /-- a query for the state of a bulb was given up -/
  | silent (name : String) (retries : Nat)
  /-- a channel is beyond what a light understands -/
  | badLevel (channel : String)
  /-- a number is beyond the floating-point numbers -/
  | tooLarge (text : String)
  | broken (text : String)
  | noStore
  | store (fault : Snapshot.StoreFault)
  deriving DecidableEq, Repr

namespace Fault

def message : Lamplighter.Fault → String
  | .timeout text | .unreachable text | .tooLarge text | .broken text => text
  | .silent name retries =>
    "No state from " ++ name ++ " after " ++ String.ofList (Text.decimal retries) ++ " retries"
  | .badLevel channel => channel
  | .noStore => "No snapshot store configured"
  | .store fault => fault.message

end Fault

end Lamplighter
