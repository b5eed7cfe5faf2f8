import Lamplighter.Assoc
import Lamplighter.Snapshot.Codec
import Lamplighter.Snapshot.Table

/-!
# The store: snapshots by target set and name

A configuration maps each key to the snapshots of its target set: one without a name, and named
ones.  It is read from the rows of a table, unreadable ones skipped, and written row by row in one
transaction: either every row is written or the table is as it was.  Saving one snapshot reads the
configuration, puts the snapshot into it and writes all of it back.

The database under the table may have an outage: it reads nothing, or writes only so much more.

A key or a name may be missing where a configuration is made by hand; the table accepts no such
row.
-/

namespace Lamplighter.Snapshot

/-- the snapshots of one target set; the empty name stands for none -/
structure Shelf where
  unnamed : Option (List BulbState) := none
  named : List (Option String × List BulbState) := []
  deriving DecidableEq, Repr, Inhabited

namespace Shelf

def isNamed (name : Option String) : Bool :=
  match name with
  | none => false
  | some n => !n.isEmpty

def get? (shelf : Shelf) (name : Option String) : Option (List BulbState) :=
  if isNamed name then Assoc.get? shelf.named name else shelf.unnamed

def put (shelf : Shelf) (name : Option String) (states : List BulbState) : Shelf :=
  if isNamed name then { shelf with named := Assoc.put shelf.named name states }
  else { shelf with unnamed := some states }

end Shelf

abbrev Configuration := List (Option String × Shelf)

namespace Configuration

def put (configuration : Configuration) (key name : Option String) (states : List BulbState) :
    Configuration :=
  Assoc.put configuration key (((Assoc.get? configuration key).getD {}).put name states)

def get? (configuration : Configuration) (key name : Option String) : Option (List BulbState) :=
  (Assoc.get? configuration key).bind fun shelf => shelf.get? name

end Configuration

/-- why the store cannot do what it is asked -/
inductive StoreFault where
  | notConnected
  /-- a row without a value in the named column -/
  | missing (column : String)
  | unreadable (fault : Fault)
  deriving DecidableEq, Repr

def StoreFault.message : StoreFault → String
  | .notConnected => "Database not connected"
  | .missing column => "NOT NULL constraint failed: snapshots." ++ column
  | .unreadable fault => fault.message

/-- what a database does not do, and the fault it has then -/
inductive Outage where
  | reading (fault : StoreFault)
  /-- so many rows and commits are still written -/
  | writing (left : Nat) (fault : StoreFault)
  deriving DecidableEq, Repr

/-- a row or a commit is written -/
def Outage.write : Option Outage → Except StoreFault (Option Outage)
  | some (.writing 0 fault) => .error fault
  | some (.writing (left + 1) fault) => .ok (some (.writing left fault))
  | outage => .ok outage

/-- the table as it is committed, and as the open transaction sees it; nothing while disconnected -/
structure Store where
  tables : Option (Table × Table) := some ([], [])
  outage : Option Outage := none
  deriving Inhabited

namespace Store

/-- the rows that a reader sees -/
def rows (store : Store) : Except StoreFault Table :=
  match store.tables, store.outage with
  | none, _ => .error .notConnected
  | some _, some (.reading fault) => .error fault
  | some (_, working), _ => .ok working

def connect (table : Table) : Store :=
  { tables := some (table, table) }

def close : Store :=
  { tables := none }

def commit (store : Store) : Except StoreFault Store :=
  match store.tables with
  | none => .error .notConnected
  | some (_, working) => do
    return { tables := some (working, working), outage := ← Outage.write store.outage }

def rollback (store : Store) : Store :=
  { store with tables := store.tables.map fun (committed, _) => (committed, committed) }

/-- write one row into the open transaction -/
def upsert (store : Store) (key name : Option String) (text : Option String) (updated : Int) :
    Except StoreFault Store :=
  match store.tables, key, name, text with
  | none, _, _, _ => .error .notConnected
  | some _, none, _, _ => .error (.missing "target_key")
  | some _, some _, none, _ => .error (.missing "state_name")
  | some _, some _, some _, none => .error (.missing "states_json")
  | some (committed, working), some key, some name, some text => do
    return {
      tables := some (committed, working.upsert { key, name, text, updated })
      outage := ← Outage.write store.outage }

/-! ### Reading -/

/-- one row put into a configuration, or the configuration as it was if the row is unreadable -/
def readRow (configuration : Configuration) (row : Row) : Except StoreFault Configuration :=
  match decode row.text with
  | .ok states => .ok (configuration.put (some row.key) (some row.name) states)
  | .error fault => if fault.isSkipped then .ok configuration else .error (.unreadable fault)

def configurationOf (table : Table) : Except StoreFault Configuration :=
  table.foldlM readRow []

def loadConfiguration (store : Store) : Except StoreFault Configuration := do
  configurationOf (← store.rows)

def load (store : Store) (key name : Option String) :
    Except StoreFault (Option (List BulbState)) := do
  return (← store.loadConfiguration).get? key name

/-! ### Writing -/

/-- the rows of a shelf, the one without a name first -/
def shelfRows (key : Option String) (shelf : Shelf) :
    List (Option String × Option String × String) :=
  (shelf.unnamed.toList.map fun states => (key, some "", encode states))
    ++ shelf.named.map fun (name, states) => (key, name, encode states)

def configurationRows (configuration : Configuration) :
    List (Option String × Option String × String) :=
  configuration.flatMap fun (key, shelf) => shelfRows key shelf

def writeRows (store : Store) (rows : List (Option String × Option String × String))
    (updated : Int) : Except StoreFault Store :=
  rows.foldlM (fun store (key, name, text) => store.upsert key name (some text) updated) store

/-- write every row and commit, or roll back; the store afterwards and the fault if there was one.
A commit that has a fault is rolled back by the database itself. -/
def saveConfiguration (store : Store) (configuration : Configuration) (updated : Int) :
    Store × Option StoreFault :=
  match store.writeRows (configurationRows configuration) updated >>= commit with
  | .error fault => (store.rollback, some fault)
  | .ok committed => (committed, none)

def save (store : Store) (key : Option String) (states : List BulbState) (name : Option String)
    (updated : Int) : Store × Option StoreFault :=
  match store.loadConfiguration with
  | .error fault => (store, some fault)
  | .ok configuration => store.saveConfiguration (configuration.put key name states) updated

end Store

end Lamplighter.Snapshot
