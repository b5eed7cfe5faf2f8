import Lamplighter.Proofs.Snapshot.Configuration

/-!
# The store as a map

* `Table.writeAll`      a table once lines have been written into it;
* `saveConfiguration_cases`   a configuration is written as a whole or not at all;
* `Store.IsSound`       the store is connected to a table in order that can be read, and the database
                        has no outage;
* `Store.load_eq`       what is loaded from a sound store is what its table has;
* `lookup_rewritten`    what a table has after it was read and written again with a snapshot put in;
* `Store.save_cases`    a snapshot is saved, or there is a fault in an outage;
* `IsSound.save_fault`, `IsSound.save`   a sound store has no fault, and nothing but the place of the
                        snapshot changes;
* `IsSettled.save`       whatever outage there is, a snapshot is put in or the tables stay as they are;
* `Store.save_connect`  the same of any table that can be read, as an equation for `save` and `load`.
-/

namespace Lamplighter

namespace Snapshot

variable {table : Table} {row : Row} {key name : String} {states : List BulbState}

/-! ### Writing -/

/-- a row that writes what a configuration has under a key and a name -/
def IsRowOf (configuration : Configuration) (line : Option String × Option String × String) : Prop :=
  ∃ key name states, line = (some key, some name, encode states) ∧
    configuration.get? (some key) (some name) = some states

lemma mem_shelfRows {shelf : Shelf} (h : shelf.IsProper) (key : Option String)
    {line : Option String × Option String × String} : line ∈ Store.shelfRows key shelf ↔
      ∃ name states, line = (key, some name, encode states) ∧
        shelf.get? (some name) = some states := by
  unfold Store.shelfRows
  rw [List.mem_append, List.mem_map, List.mem_map]
  constructor
  · rintro (⟨states, hstates, rfl⟩ | ⟨⟨name, states⟩, hmem, rfl⟩)
    · rw [Option.mem_toList] at hstates
      exact ⟨"", states, rfl, hstates⟩
    · have htitle := h.named _ hmem
      cases name with
      | none => exact absurd rfl htitle
      | some name =>
        refine ⟨name, states, rfl, ?_⟩
        rw [Shelf.get?, if_pos (isNamed_iff.mpr htitle)]
        exact Assoc.get?_of_mem h.distinct hmem
  · rintro ⟨name, states, rfl, hget⟩
    unfold Shelf.get? at hget
    split at hget
    · exact .inr ⟨(some name, states), Assoc.mem_of_get? hget, rfl⟩
    · rename_i hname
      rw [isNamed_iff, not_not] at hname
      refine .inl ⟨states, Option.mem_toList.mpr hget, ?_⟩
      rw [show name = "" from hname]

lemma mem_configurationRows {configuration : Configuration} (h : configuration.IsProper)
    {line : Option String × Option String × String} :
    line ∈ Store.configurationRows configuration ↔ IsRowOf configuration line := by
  unfold Store.configurationRows IsRowOf
  rw [List.mem_flatMap]
  constructor
  · rintro ⟨⟨key, shelf⟩, hmem, hline⟩
    obtain ⟨hkey, hshelf⟩ := h.shelves _ hmem
    obtain ⟨key, rfl⟩ := Option.isSome_iff_exists.mp hkey
    obtain ⟨name, states, rfl, hget⟩ := (mem_shelfRows hshelf _).mp hline
    refine ⟨key, name, states, rfl, ?_⟩
    rw [Configuration.get?, Assoc.get?_of_mem h.distinct hmem]
    exact hget
  · rintro ⟨key, name, states, rfl, hget⟩
    obtain ⟨shelf, hshelf, hstates⟩ := Option.bind_eq_some_iff.mp hget
    have hmem := Assoc.mem_of_get? hshelf
    exact ⟨(some key, shelf), hmem,
      (mem_shelfRows (h.shelves _ hmem).2 _).mpr ⟨name, states, rfl, hstates⟩⟩

/-- a line that is written has a key and a name -/
lemma IsRowOf.places {configuration : Configuration} {line : Option String × Option String × String}
    (h : IsRowOf configuration line) : ∃ key name text, line = (some key, some name, text) := by
  obtain ⟨key, name, states, rfl, -⟩ := h
  exact ⟨key, name, encode states, rfl⟩

namespace Table

/-- the table once lines have been written into it, one after the other -/
def writeAll (table : Table) (lines : List (Option String × Option String × String))
    (updated : Int) : Table :=
  lines.foldl (fun table (key, name, text) =>
    table.upsert { key := title key, name := title name, text, updated }) table

variable {lines : List (Option String × Option String × String)}

lemma IsSorted.writeAll (h : table.IsSorted)
    (lines : List (Option String × Option String × String)) (updated : Int) :
    (table.writeAll lines updated).IsSorted := by
  induction lines generalizing table with
  | nil => exact h
  | cons line lines ih => exact ih (h.upsert _)

/-- a row stays if no line is written in its place -/
lemma mem_writeAll (h : row ∈ table) {updated : Int}
    (hplace : ∀ key name text, (key, name, text) ∈ lines →
      ¬ (title key = row.key ∧ title name = row.name)) : row ∈ table.writeAll lines updated := by
  induction lines generalizing table with
  | nil => exact h
  | cons line lines ih =>
    obtain ⟨key, name, text⟩ := line
    refine ih ?_ fun key name text hmem => hplace key name text (List.mem_cons_of_mem _ hmem)
    refine mem_upsert_of_not_isSame h ?_
    rw [Row.isSame_iff]
    rintro ⟨hkey, hname⟩
    exact hplace key name text (List.mem_cons_self ..) ⟨hkey.symm, hname.symm⟩

/-- each line that is written replaces what the table had in its place: by induction on the lines -/
lemma lookup_writeAll {configuration : Configuration} (hshort : configuration.IsShort)
    (hlines : ∀ line ∈ lines, IsRowOf configuration line) (updated : Int)
    (hreadable : ∀ row ∈ table, row.IsReadable) :
    (∀ row ∈ table.writeAll lines updated, row.IsReadable) ∧ ∀ key name,
      (table.writeAll lines updated).lookup key name = configuration.get? (some key) (some name) ∨
        (∀ text, (some key, some name, text) ∉ lines) ∧
          (table.writeAll lines updated).lookup key name = table.lookup key name := by
  induction lines generalizing table with
  | nil => exact ⟨hreadable, fun key name => .inr ⟨by simp, rfl⟩⟩
  | cons line lines ih =>
    obtain ⟨key, name, states, rfl, hget⟩ := hlines line (List.mem_cons_self ..)
    have hdecode := decode_encode (hshort _ _ _ hget)
    have hrow : Row.IsReadable { key, name, text := encode states, updated } := by
      intro fault hfault
      rw [hdecode] at hfault
      cases hfault
    have hreadable' : ∀ row ∈ table.upsert { key, name, text := encode states, updated },
        row.IsReadable := by
      intro row hmem
      rcases mem_upsert hmem with rfl | hmem
      · exact hrow
      · exact hreadable row hmem
    obtain ⟨hreadable', hlookup⟩ :=
      ih (fun line hmem => hlines line (List.mem_cons_of_mem _ hmem)) hreadable'
    refine ⟨hreadable', ?_⟩
    intro other wanted
    rcases hlookup other wanted with hnew | ⟨hnone, hsame⟩
    · exact .inl hnew
    · rw [lookup_upsert] at hsame
      dsimp only at hsame
      by_cases hplace : key = other ∧ name = wanted
      · obtain ⟨rfl, rfl⟩ := hplace
        rw [if_pos ⟨rfl, rfl⟩, hdecode] at hsame
        exact .inl (hsame.trans hget.symm)
      · rw [if_neg hplace] at hsame
        refine .inr ⟨?_, hsame⟩
        intro text hmem
        rcases List.mem_cons.mp hmem with heq | hmem
        · obtain ⟨hkey, hname, _⟩ : some other = some key ∧ some wanted = some name ∧ _ := by
            simpa using heq
          exact hplace ⟨(Option.some.inj hkey).symm, (Option.some.inj hname).symm⟩
        · exact hnone text hmem

end Table

/-- a write has a fault only in an outage, and makes none -/
lemma Outage.write_cases (outage : Option Outage) :
    (outage ≠ none ∧ ∃ fault, Outage.write outage = .error fault) ∨
      ∃ left, (outage = none → left = none) ∧ Outage.write outage = .ok left := by
  cases outage with
  | none => exact .inr ⟨none, id, rfl⟩
  | some outage =>
    match outage with
    | .writing 0 fault => exact .inl ⟨by simp, fault, rfl⟩
    | .writing (left + 1) fault => exact .inr ⟨_, by simp, rfl⟩
    | .reading fault => exact .inr ⟨_, by simp, rfl⟩

lemma Store.writeRows_cons (committed table : Table) (outage : Option Outage)
    (key name text : String) (lines : List (Option String × Option String × String))
    (updated : Int) :
    Store.writeRows { tables := some (committed, table), outage }
        ((some key, some name, text) :: lines) updated
      = Outage.write outage >>= fun left =>
        Store.writeRows
          { tables := some (committed, table.upsert { key, name, text, updated }), outage := left }
          lines updated := by
  show (Outage.write outage >>= _) >>= _ = _
  cases Outage.write outage <;> rfl

lemma Store.commit_connected (committed table : Table) (outage : Option Outage) :
    Store.commit { tables := some (committed, table), outage }
      = Outage.write outage >>= fun left =>
        .ok { tables := some (table, table), outage := left } := rfl

/-- lines are written unless there is an outage: by induction on the lines -/
lemma Store.writeRows_cases (committed table : Table) (outage : Option Outage)
    {lines : List (Option String × Option String × String)}
    (hlines : ∀ line ∈ lines, ∃ key name text, line = (some key, some name, text))
    (updated : Int) :
    (outage ≠ none ∧ ∃ fault,
      Store.writeRows { tables := some (committed, table), outage } lines updated = .error fault) ∨
    ∃ left, (outage = none → left = none) ∧
      Store.writeRows { tables := some (committed, table), outage } lines updated
        = .ok { tables := some (committed, table.writeAll lines updated), outage := left } := by
  induction lines generalizing table outage with
  | nil => exact .inr ⟨outage, id, rfl⟩
  | cons line lines ih =>
    obtain ⟨key, name, text, rfl⟩ := hlines line (List.mem_cons_self ..)
    rw [writeRows_cons]
    rcases Outage.write_cases outage with ⟨hout, fault, hwrite⟩ | ⟨left, hleft, hwrite⟩
    · rw [hwrite]
      exact .inl ⟨hout, fault, rfl⟩
    · rw [hwrite]
      rcases ih _ left (fun line hmem => hlines line (List.mem_cons_of_mem _ hmem)) with
        ⟨hout, hfault⟩ | ⟨last, hlast, hwritten⟩
      · exact .inl ⟨fun h => hout (hleft h), hfault⟩
      · exact .inr ⟨last, fun h => hlast (hleft h), hwritten⟩

/-- a configuration is written as a whole, or in an outage not at all -/
theorem Store.saveConfiguration_cases (committed table : Table) (outage : Option Outage)
    {configuration : Configuration} (hproper : configuration.IsProper) (updated : Int) :
    (outage ≠ none ∧ ∃ fault,
      Store.saveConfiguration { tables := some (committed, table), outage } configuration updated
        = ({ tables := some (committed, committed), outage }, some fault)) ∨
    ∃ rewritten left, (outage = none → left = none) ∧
      rewritten = table.writeAll (Store.configurationRows configuration) updated ∧
      Store.saveConfiguration { tables := some (committed, table), outage } configuration updated
        = ({ tables := some (rewritten, rewritten), outage := left }, none) := by
  have hlines : ∀ line ∈ Store.configurationRows configuration,
      ∃ key name text, line = (some key, some name, text) :=
    fun line hline => ((mem_configurationRows hproper).mp hline).places
  unfold Store.saveConfiguration
  rcases writeRows_cases committed table outage hlines updated with
    ⟨hout, fault, hfault⟩ | ⟨left, hleft, hwritten⟩
  · rw [hfault]
    exact .inl ⟨hout, fault, rfl⟩
  · rw [hwritten]
    have hcommit := commit_connected committed
      (table.writeAll (Store.configurationRows configuration) updated) left
    rcases Outage.write_cases left with ⟨hout, fault, hwrite⟩ | ⟨rest, hrest, hwrite⟩
    · rw [hwrite] at hcommit
      refine .inl ⟨fun h => hout (hleft h), fault, ?_⟩
      simp only [bind, Except.bind] at hcommit ⊢
      rw [hcommit]
      rfl
    · rw [hwrite] at hcommit
      refine .inr ⟨_, rest, fun h => hrest (hleft h), rfl, ?_⟩
      simp only [bind, Except.bind] at hcommit ⊢
      rw [hcommit]

/-! ### Stores -/

namespace Store

variable {store : Store}

/-- the store is connected to a table in order, no row of it ends the reading, and the database has
no outage -/
structure IsSound (store : Store) : Prop where
  connected : ∃ committed table, store.tables = some (committed, table) ∧ table.IsSorted ∧
    ∀ row ∈ table, row.IsReadable
  works : store.outage = none

lemma loadConfiguration_connected {committed table : Table} {outage : Option Outage}
    (h : ∀ fault, outage ≠ some (.reading fault)) :
    loadConfiguration { tables := some (committed, table), outage } = configurationOf table := by
  unfold loadConfiguration rows
  split
  · rename_i heq
    cases heq
  · rename_i fault _ hout
    exact absurd hout (h fault)
  · rename_i heq _
    cases heq
    rfl

/-- a connected store without an outage is sound when its table is in order and can be read -/
theorem isSound_iff {committed table : Table} (h : store.tables = some (committed, table))
    (hworks : store.outage = none) :
    store.IsSound ↔ table.IsSorted ∧ ∃ configuration, store.loadConfiguration = .ok configuration := by
  have hstore : store = { tables := some (committed, table) } := by rw [← h, ← hworks]
  rw [hstore, loadConfiguration_connected (by simp), configurationOf_isOk_iff]
  constructor
  · rintro ⟨⟨_, table', htables, hsorted, hreadable⟩, -⟩
    obtain ⟨-, rfl⟩ := Prod.mk.inj (Option.some.inj htables)
    exact ⟨hsorted, hreadable⟩
  · rintro ⟨hsorted, hreadable⟩
    exact ⟨⟨_, table, rfl, hsorted, hreadable⟩, rfl⟩

/-- what a store has under a key and a name -/
def held (store : Store) (key : String) (name : Option String) : Option (List BulbState) :=
  store.tables.bind fun tables => tables.2.lookup key (title name)

/-- a sound store can be read -/
lemma IsSound.loadConfiguration (h : store.IsSound) : ∃ committed table configuration,
    store = { tables := some (committed, table) } ∧ table.IsSorted ∧
      configurationOf table = .ok configuration ∧
      store.loadConfiguration = .ok configuration := by
  obtain ⟨committed, table, htables, hsorted, hreadable⟩ := h.connected
  obtain ⟨configuration, hread⟩ := configurationOf_isOk_iff.mpr hreadable
  have hstore : store = { tables := some (committed, table) } := by rw [← htables, ← h.works]
  refine ⟨committed, table, configuration, hstore, hsorted, hread, ?_⟩
  rw [hstore, loadConfiguration_connected (by simp)]
  exact hread

/-- what a sound store has is what is loaded from it -/
theorem IsSound.load_eq (h : store.IsSound) (key : String) (name : Option String) :
    store.load (some key) name = .ok (store.held key name) := by
  obtain ⟨committed, table, configuration, rfl, hsorted, hread, hloaded⟩ := h.loadConfiguration
  unfold load
  rw [hloaded]
  exact congrArg Except.ok (configurationOf_get? hsorted hread key name)

/-- what a table has after it was read, and written again with one snapshot put into it: the
snapshot, and all else that it had, unreadable rows too -/
theorem lookup_rewritten {configuration : Configuration} (hsorted : table.IsSorted)
    (hread : configurationOf table = .ok configuration) (key : String) (name : Option String)
    (hstates : ∀ state ∈ states, state.IsShort) (updated : Int) {rewritten : Table}
    (hrewritten : rewritten = table.writeAll
      (configurationRows (configuration.put (some key) name states)) updated) :
    rewritten.IsSorted ∧ (∀ row ∈ rewritten, row.IsReadable) ∧
      (∀ other wanted, rewritten.lookup other wanted
        = if other = key ∧ wanted = title name then some states else table.lookup other wanted) ∧
      ∀ row ∈ table, (∃ fault, decode row.text = .error fault) →
        ¬ (row.key = key ∧ row.name = title name) → row ∈ rewritten := by
  subst hrewritten
  have hproper := (isProper_of_configurationOf hread).1.put key name states
  have hshort := (isProper_of_configurationOf hread).2.put (some key) name hstates
  have hput : ∀ other wanted,
      (configuration.put (some key) name states).get? (some other) (some wanted)
        = if other = key ∧ wanted = title name then some states
          else table.lookup other wanted := by
    intro other wanted
    rw [Configuration.get?_put, configurationOf_get? hsorted hread]
    simp only [Option.some_inj]
    rfl
  have hlines : ∀ line ∈ configurationRows (configuration.put (some key) name states),
      IsRowOf (configuration.put (some key) name states) line :=
    fun line hline => (mem_configurationRows hproper).mp hline
  obtain ⟨hreadable, hlookup⟩ := Table.lookup_writeAll hshort hlines updated
    (configurationOf_isOk_iff.mp ⟨_, hread⟩)
  refine ⟨hsorted.writeAll _ _, hreadable, ?_, ?_⟩
  · intro other wanted
    rw [← hput]
    rcases hlookup other wanted with hnew | ⟨hnone, hold⟩
    · exact hnew
    · cases hget : (configuration.put (some key) name states).get? (some other) (some wanted) with
      | none =>
        rw [hput] at hget
        split at hget
        · cases hget
        · rw [hold]
          exact hget
      | some found =>
        exact absurd ((mem_configurationRows hproper).mpr ⟨other, wanted, found, rfl, hget⟩)
          (hnone _)
  · rintro row hrow ⟨fault, hfault⟩ hplace
    refine Table.mem_writeAll hrow ?_
    rintro other wanted text hline ⟨hkey, hname⟩
    obtain ⟨other, wanted, found, heq, hget⟩ := hlines _ hline
    obtain ⟨rfl, rfl, rfl⟩ : _ = some other ∧ _ = some wanted ∧ text = encode found := by
      simpa using heq
    obtain ⟨rfl, rfl⟩ : other = row.key ∧ wanted = row.name := ⟨hkey, hname⟩
    rw [hput, if_neg hplace, Table.lookup, hsorted.find?_mem hrow, Option.bind_some, hfault] at hget
    cases hget

/-- a snapshot is saved, or in an outage the table goes back to what was committed -/
theorem save_cases (committed : Table) (outage : Option Outage) {configuration : Configuration}
    (hread : configurationOf table = .ok configuration) (key : String) (states : List BulbState)
    (name : Option String) (updated : Int) :
    (outage ≠ none ∧ ∃ fault tables, (tables = (committed, committed) ∨ tables = (committed, table)) ∧
      Store.save { tables := some (committed, table), outage } (some key) states name updated
        = ({ tables := some tables, outage }, some fault)) ∨
    ∃ rewritten left, (outage = none → left = none) ∧
      rewritten = table.writeAll
        (configurationRows (configuration.put (some key) name states)) updated ∧
      Store.save { tables := some (committed, table), outage } (some key) states name updated
        = ({ tables := some (rewritten, rewritten), outage := left }, none) := by
  have hproper := (isProper_of_configurationOf hread).1.put key name states
  unfold Store.save
  by_cases hout : ∃ fault, outage = some (.reading fault)
  · obtain ⟨fault, rfl⟩ := hout
    exact .inl ⟨by simp, fault, _, .inr rfl, rfl⟩
  · rw [loadConfiguration_connected fun fault h => hout ⟨fault, h⟩, hread]
    rcases saveConfiguration_cases committed table outage hproper updated with
      ⟨hout, fault, hfault⟩ | ⟨rewritten, left, hleft, hrewritten, hsaved⟩
    · exact .inl ⟨hout, fault, _, .inl rfl, hfault⟩
    · exact .inr ⟨rewritten, left, hleft, hrewritten, hsaved⟩

/-- a sound store has no fault when something is saved -/
theorem IsSound.save_fault (h : store.IsSound) (key : String) (states : List BulbState)
    (name : Option String) (updated : Int) :
    (store.save (some key) states name updated).2 = none := by
  obtain ⟨committed, table, configuration, rfl, -, hread, -⟩ := h.loadConfiguration
  rcases save_cases committed none hread key states name updated with
    ⟨hout, -⟩ | ⟨rewritten, left, -, -, hsaved⟩
  · exact absurd rfl hout
  · rw [hsaved]

/-- saving changes what is under its own key and name, and nothing else -/
theorem IsSound.save (h : store.IsSound) (key : String) (hstates : ∀ state ∈ states, state.IsShort)
    (name : Option String) (updated : Int) :
    (store.save (some key) states name updated).1.IsSound ∧ ∀ other wanted,
      (store.save (some key) states name updated).1.held other wanted
        = if other = key ∧ title wanted = title name then some states
          else store.held other wanted := by
  obtain ⟨committed, table, configuration, rfl, hsorted, hread, -⟩ := h.loadConfiguration
  rcases save_cases committed none hread key states name updated with
    ⟨hout, -⟩ | ⟨rewritten, left, hleft, hrewritten, hsaved⟩
  · exact absurd rfl hout
  · obtain ⟨hsorted', hreadable, hlookup, -⟩ :=
      lookup_rewritten hsorted hread key name hstates updated hrewritten
    rw [hsaved, hleft rfl]
    exact ⟨⟨⟨_, _, rfl, hsorted', hreadable⟩, rfl⟩, fun other wanted => hlookup other (title wanted)⟩

/-! ### All or nothing -/

/-- no transaction is open, and the table is in order -/
structure IsSettled (store : Store) : Prop where
  closed : ∀ committed table, store.tables = some (committed, table) → committed = table
  sorted : ∀ committed table, store.tables = some (committed, table) → table.IsSorted

lemma IsSettled.of_tables (h : store.IsSettled) {other : Store} (htables : other.tables = store.tables) :
    other.IsSettled :=
  ⟨fun committed table heq => h.closed committed table (htables ▸ heq),
    fun committed table heq => h.sorted committed table (htables ▸ heq)⟩

/-- tables have come from others by a snapshot: the configuration that is read from them is the one that
is read from the others, with the snapshot put in -/
def Puts (before after : Option (Table × Table)) (key : String) (name : Option String)
    (states : List BulbState) : Prop :=
  ∃ old new, loadConfiguration { tables := before } = .ok old ∧
    loadConfiguration { tables := after } = .ok new ∧
    ∀ other wanted, new.get? (some other) wanted
      = (old.put (some key) name states).get? (some other) wanted

/-- whatever outage the database has, a snapshot is put into the tables or they stay as they are -/
theorem IsSettled.save (h : store.IsSettled) (key : String) (name : Option String)
    (hstates : ∀ state ∈ states, state.IsShort) (updated : Int) :
    (store.save (some key) states name updated).1.tables = store.tables ∨
      Puts store.tables (store.save (some key) states name updated).1.tables key name states := by
  obtain ⟨_ | ⟨committed, table⟩, outage⟩ := store
  · exact .inl rfl
  · obtain rfl : committed = table := h.closed _ _ rfl
    by_cases hread : ∃ configuration, configurationOf committed = .ok configuration
    · obtain ⟨configuration, hread⟩ := hread
      rcases save_cases committed outage hread key states name updated with
        ⟨-, fault, tables, htables, hsaved⟩ | ⟨rewritten, left, -, hrewritten, hsaved⟩
      · rw [hsaved]
        exact .inl (congrArg some (htables.elim id id))
      · have hsorted : committed.IsSorted := h.sorted _ _ rfl
        obtain ⟨hsorted', hreadable, hlookup, -⟩ :=
          lookup_rewritten hsorted hread key name hstates updated hrewritten
        obtain ⟨after, hafter⟩ := configurationOf_isOk_iff.mpr hreadable
        rw [hsaved]
        refine .inr ⟨configuration, after, hread, hafter, ?_⟩
        intro other wanted
        rw [Configuration.get?_put, configurationOf_get? hsorted' hafter, hlookup,
          configurationOf_get? hsorted hread]
        simp only [Option.some_inj]
    · -- what cannot be read is not written
      have hfault : ∃ fault, loadConfiguration { tables := some (committed, committed), outage }
          = .error fault := by
        cases hload : loadConfiguration { tables := some (committed, committed), outage } with
        | error fault => exact ⟨fault, rfl⟩
        | ok configuration =>
          refine absurd ⟨configuration, ?_⟩ hread
          by_cases hout : ∃ fault, outage = some (.reading fault)
          · obtain ⟨fault, rfl⟩ := hout
            cases hload
          · rwa [loadConfiguration_connected fun fault h => hout ⟨fault, h⟩] at hload
      obtain ⟨fault, hfault⟩ := hfault
      unfold Store.save
      rw [hfault]
      exact .inl rfl

/-! ### Tables that can be read -/

/-- what is loaded from a table in order that can be read -/
lemma load_connect (hsorted : table.IsSorted) {configuration : Configuration}
    (hread : configurationOf table = .ok configuration) (key : String) (name : Option String) :
    (connect table).load (some key) name = .ok (table.lookup key (title name)) := by
  have hsound : (connect table).IsSound :=
    ⟨⟨table, table, rfl, hsorted, configurationOf_isOk_iff.mp ⟨_, hread⟩⟩, rfl⟩
  exact hsound.load_eq key name

/-- a snapshot that is saved is loaded under its key and its name, all else is loaded as before, and
the rows in other places that cannot be read are still there -/
theorem save_connect {configuration : Configuration} (hsorted : table.IsSorted)
    (hread : (connect table).loadConfiguration = .ok configuration) (key : String)
    (states : List BulbState) (hstates : ∀ state ∈ states, state.IsShort) (name : Option String)
    (updated : Int) :
    ∃ rewritten, (connect table).save (some key) states name updated = (connect rewritten, none) ∧
      (∀ other wanted, (connect rewritten).load (some other) wanted
        = if other = key ∧ title wanted = title name then .ok (some states)
          else (connect table).load (some other) wanted) ∧
      ∀ row ∈ table, (∃ fault, decode row.text = .error fault) →
        ¬ (row.key = key ∧ row.name = title name) → row ∈ rewritten := by
  have hread : configurationOf table = .ok configuration := hread
  rcases save_cases table none hread key states name updated with
    ⟨hout, -⟩ | ⟨rewritten, left, hleft, hrewritten, hsaved⟩
  · exact absurd rfl hout
  · obtain ⟨hsorted', hreadable, hlookup, hkept⟩ :=
      lookup_rewritten hsorted hread key name hstates updated hrewritten
    obtain ⟨after, hafter⟩ := configurationOf_isOk_iff.mpr hreadable
    rw [hleft rfl] at hsaved
    refine ⟨rewritten, hsaved, ?_, hkept⟩
    intro other wanted
    rw [load_connect hsorted' hafter, load_connect hsorted hread, hlookup]
    split <;> rfl

/-- a row that is no snapshot, and one that is loosely typed -/
def looseTable : Table :=
  [{ key := "bar_", name := "", text := "[1", updated := 0 },
    { key := "hall_", name := ""
      text := "[\x7b\"label\": 7, \"power\": \" 65535\", \"hue\": true, \"saturation\": 1.5, "
        ++ "\"brightness\": 3, \"kelvin\": 3500, \"more\": []\x7d]"
      updated := 0 }]

/-- a bulb as it is at night -/
def dimmed : BulbState :=
  { label := "Hall", power := 65535, hue := 0, saturation := 0, brightness := 655, kelvin := 2500 }

theorem save_connect_loose :
    looseTable.IsSorted ∧
      (∃ configuration, (connect looseTable).loadConfiguration = .ok configuration) ∧
      dimmed.IsShort ∧
      ∃ rewritten, (connect looseTable).save (some "hall_") [dimmed] (some "night") 9
          = (connect rewritten, none) ∧
        (connect rewritten).load (some "hall_") (some "night") = .ok (some [dimmed]) ∧
        (connect rewritten).load (some "hall_") none = (connect looseTable).load (some "hall_") none ∧
        { key := "bar_", name := "", text := "[1", updated := 0 } ∈ rewritten := by
  have hsorted : looseTable.IsSorted := by
    unfold Table.IsSorted
    decide +kernel
  obtain ⟨configuration, hread⟩ : ∃ configuration,
      (connect looseTable).loadConfiguration = .ok configuration := by
    have hok : (connect looseTable).loadConfiguration.toBool = true := by decide +kernel
    cases h : (connect looseTable).loadConfiguration with
    | error fault =>
      rw [h] at hok
      cases hok
    | ok configuration => exact ⟨configuration, rfl⟩
  have hshort : dimmed.IsShort := by decide +kernel
  obtain ⟨rewritten, hsaved, hload, hkept⟩ :=
    save_connect hsorted hread "hall_" [dimmed] (by simpa using hshort) (some "night") 9
  refine ⟨hsorted, ⟨configuration, hread⟩, hshort, rewritten, hsaved, ?_, ?_, ?_⟩
  · rw [hload, if_pos ⟨rfl, rfl⟩]
  · rw [hload, if_neg (by decide)]
  · refine hkept _ (List.mem_cons_self ..) ?_ (by decide)
    cases h : decode "[1" with
    | error fault => exact ⟨fault, rfl⟩
    | ok states =>
      have herror : (decode "[1").toBool = false := by decide +kernel
      rw [h] at herror
      cases herror

end Store

end Snapshot

end Lamplighter
