import Lamplighter.Bulb.Record
import Lamplighter.Json.Reader
import Lamplighter.Json.Writer

/-!
# Snapshots as text

The states of a snapshot are a Json list of records, on one line and with every character outside
ASCII as it is.  Text that is no such list has a fault.
-/

namespace Lamplighter.Snapshot

/-- why a text is no snapshot -/
inductive Fault where
  | notJson
  | notList
  | record (fault : RecordFault)
  deriving DecidableEq, Repr

def encode (states : List BulbState) : String :=
  (Json.arr (states.map BulbState.toJson)).toText .unicode

def decodeList (items : List Json) : Except Fault (List BulbState) :=
  (items.mapM BulbState.ofJson).mapError .record

def decode (text : String) : Except Fault (List BulbState) :=
  match Json.read? text with
  | none => .error .notJson
  | some (.arr items) => decodeList items
  | some _ => .error .notList

namespace Fault

def message : Fault → String
  | .notJson => "snapshot is not Json"
  | .notList => "snapshot is not a list"
  | .record fault => fault.message

/-- a fault that makes a row unreadable; an infinite number is not one of them -/
def isSkipped : Fault → Bool
  | .record (.notWhole .infinite) => false
  | _ => true

end Fault

end Lamplighter.Snapshot
