/-!
# The table of snapshots

A row has a key, a name and a text, and the pair of key and name is unique.  Rows are kept in the
order of key and name, compared by code points.  `upsert` inserts a row or replaces the one with the
same key and name.
-/

namespace Lamplighter.Snapshot

structure Row where
  key : String
  name : String
  text : String
  updated : Int
  deriving DecidableEq, Repr, Inhabited

abbrev Table := List Row

namespace Row

def isSame (a b : Row) : Bool :=
  a.key == b.key && a.name == b.name

def isBefore (a b : Row) : Bool :=
  a.key < b.key || (a.key == b.key && a.name < b.name)

end Row

namespace Table

def upsert (table : Table) (row : Row) : Table :=
  match table with
  | [] => [row]
  | r :: rest =>
    if r.isSame row then row :: rest
    else if row.isBefore r then row :: r :: rest
    else r :: upsert rest row

def find? (table : Table) (key name : String) : Option Row :=
  List.find? (fun r => r.key == key && r.name == name) table

theorem mem_upsert_self (table : Table) (row : Row) : row ∈ upsert table row := by
  induction table with
  | nil => simp [upsert]
  | cons r rest ih =>
    unfold upsert
    split
    · simp
    · split <;> simp [ih]

end Table

end Lamplighter.Snapshot
