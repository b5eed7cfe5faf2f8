import Lamplighter.Snapshot.Store

/-!
# Files: tables kept between programs

A table is kept in the file that its path names.  One path stands for a table in memory, which is
new each time and kept nowhere.  A file is there as soon as its table was opened, and with it every
directory above it.
-/

namespace Lamplighter.Snapshot

abbrev Files := List (String × Table)

namespace Files

def memory : String := ":memory:"

/-- open the table at a path -/
def openAt (files : Files) (path : String) : Files × Store :=
  let table := (Assoc.get? files path).getD []
  if path == memory then (files, Store.connect [])
  else (Assoc.put files path table, Store.connect table)

/-- keep what is committed -/
def close (files : Files) (path : String) (store : Store) : Files :=
  match store.tables with
  | none => files
  | some (committed, _) => if path == memory then files else Assoc.put files path committed

/-- a file or a directory above one -/
def isThere (files : Files) (path : String) : Bool :=
  files.any fun file => file.1 == path || (path ++ "/").toList.isPrefixOf file.1.toList

end Files

end Lamplighter.Snapshot
