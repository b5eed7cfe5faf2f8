import Lamplighter.Json.Basic
import Lamplighter.Snapshot.Table

/-!
# Tables as Json records

A table is a list of rows, each of which is a list of its key, its name, its text and the time of
its last update.
-/

namespace Lamplighter.Snapshot

namespace Row

def toJson (row : Row) : Json :=
  .arr [.str row.key, .str row.name, .str row.text, .int row.updated]

def ofJson? : Json → Option Row
  | .arr [.str key, .str name, .str text, .int updated] => some { key, name, text, updated }
  | _ => none

theorem ofJson?_toJson (row : Row) : ofJson? row.toJson = some row := rfl

end Row

namespace Table

def toJson (table : Table) : Json :=
  .arr (table.map Row.toJson)

def ofJson? : Json → Option Table
  | .arr rows => rows.mapM Row.ofJson?
  | _ => none

theorem ofJson?_toJson (table : Table) : ofJson? (toJson table) = some table := by
  simp only [toJson, ofJson?]
  induction table with
  | nil => rfl
  | cons row rest ih => simp [List.mapM_cons, Row.ofJson?_toJson, ih]

end Table

end Lamplighter.Snapshot
