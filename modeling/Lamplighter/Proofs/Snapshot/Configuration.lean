import Lamplighter.Proofs.Snapshot.Table

/-!
# Configurations: what a table is read as

* `title`             the name under which a snapshot is kept, the same for none and the empty one;
* `Configuration.get?_put`   what is put under a key and a name is found there, and nothing else changes;
* `configurationOf_get?`     a table is read as what it has under each key and name;
* `configurationOf_isOk_iff` it is read unless a row ends the reading;
* `isProper_of_configurationOf`   what it is read as can be written again.
-/

namespace Lamplighter

namespace Snapshot

variable {table : Table} {row : Row} {key name : String} {states : List BulbState}

/-! ### Configurations -/

/-- the name under which a snapshot is kept; the empty one stands for none -/
def title (name : Option String) : String :=
  name.getD ""

lemma isNamed_iff {name : Option String} : Shelf.isNamed name = true ↔ title name ≠ "" := by
  cases name with
  | none => simp [Shelf.isNamed, title]
  | some n =>
    show (!n.isEmpty) = true ↔ n ≠ ""
    rw [Bool.not_eq_true', ← Bool.not_eq_true, String.isEmpty_iff]

lemma eq_of_title {name other : Option String} (h : title name = title other)
    (hnamed : title name ≠ "") : name = other := by
  cases name with
  | none => exact absurd rfl hnamed
  | some n =>
    cases other with
    | none => exact absurd h hnamed
    | some m => exact congrArg some h

lemma get?_putShelf (shelf : Shelf) (name other : Option String) (states : List BulbState) :
    (shelf.put name states).get? other
      = if title other = title name then some states else shelf.get? other := by
  unfold Shelf.put Shelf.get?
  by_cases hname : Shelf.isNamed name = true
  · rw [if_pos hname]
    by_cases hother : Shelf.isNamed other = true
    · rw [if_pos hother, if_pos hother]
      by_cases hsame : title other = title name
      · rw [if_pos hsame, eq_of_title hsame (isNamed_iff.mp hother), Assoc.get?_put_self]
      · rw [if_neg hsame, Assoc.get?_put_of_ne]
        rintro rfl
        exact hsame rfl
    · rw [if_neg hother, if_neg hother, if_neg]
      intro hsame
      exact hother (isNamed_iff.mpr (hsame ▸ isNamed_iff.mp hname))
  · rw [if_neg hname]
    rw [isNamed_iff, not_not] at hname
    by_cases hother : Shelf.isNamed other = true
    · rw [if_pos hother, if_pos hother, if_neg]
      intro hsame
      exact isNamed_iff.mp hother (hsame.trans hname)
    · rw [if_neg hother, if_neg hother]
      rw [isNamed_iff, not_not] at hother
      rw [if_pos (hother.trans hname.symm)]

namespace Configuration

variable {configuration : Configuration}

/-- what a configuration has after a snapshot was put into it -/
lemma get?_put (configuration : Configuration) (key other : Option String)
    (name wanted : Option String) (states : List BulbState) :
    (configuration.put key name states).get? other wanted
      = if other = key ∧ title wanted = title name then some states
        else configuration.get? other wanted := by
  have hempty : ∀ name, Shelf.get? {} name = none := by
    intro name
    unfold Shelf.get?
    split <;> rfl
  unfold put get?
  by_cases hkey : other = key
  · subst hkey
    rw [Assoc.get?_put_self, Option.bind_some, get?_putShelf]
    by_cases hsame : title wanted = title name
    · rw [if_pos hsame, if_pos ⟨rfl, hsame⟩]
    · rw [if_neg hsame, if_neg fun h => hsame h.2]
      cases Assoc.get? configuration other with
      | none => exact hempty wanted
      | some shelf => rfl
  · rw [Assoc.get?_put_of_ne _ _ hkey, if_neg fun h => hkey h.1]

end Configuration

/-! ### Reading -/

lemma readRow_eq_ok_iff {configuration next : Configuration} :
    Store.readRow configuration row = .ok next ↔ row.IsReadable ∧
      next = match (decode row.text).toOption with
        | some states => configuration.put (some row.key) (some row.name) states
        | none => configuration := by
  unfold Store.readRow Row.IsReadable
  cases hdecode : decode row.text with
  | ok states =>
    have hreadable : ∀ fault, (Except.ok states : Except Fault (List BulbState)) = .error fault →
        fault.isSkipped = true := fun _ h => by cases h
    exact ⟨fun h => ⟨hreadable, (Except.ok.inj h).symm⟩, fun h => congrArg Except.ok h.2.symm⟩
  | error fault =>
    dsimp only [Except.toOption]
    split
    · rename_i hskipped
      refine ⟨fun h => ⟨?_, (Except.ok.inj h).symm⟩, fun h => congrArg Except.ok h.2.symm⟩
      rintro _ ⟨⟩
      exact hskipped
    · rename_i hskipped
      constructor
      · intro h
        cases h
      · exact fun h => absurd (h.1 fault rfl) hskipped

/-- a table is read as what it has, and what there was before: by induction on the rows -/
lemma foldlM_readRow (hsorted : table.IsSorted) {before after : Configuration}
    (h : table.foldlM Store.readRow before = .ok after) (key : String) (name : Option String) :
    after.get? (some key) name = (table.lookup key (title name)).or (before.get? (some key) name) := by
  induction table generalizing before with
  | nil =>
    obtain rfl := Except.ok.inj h
    rfl
  | cons row rest ih =>
    rw [List.foldlM_cons, Except.bind_eq_ok_iff] at h
    obtain ⟨next, hrow, hrest⟩ := h
    obtain ⟨-, rfl⟩ := readRow_eq_ok_iff.mp hrow
    rw [ih (List.pairwise_cons.mp hsorted).2 hrest]
    unfold Table.lookup
    rw [Table.find?_cons]
    by_cases hsame : row.key = key ∧ row.name = title name
    · obtain ⟨rfl, hname⟩ := hsame
      rw [if_pos ⟨rfl, hname⟩, ← hname, hsorted.find?_rest, Option.bind_none, Option.none_or,
        Option.bind_some]
      cases (decode row.text).toOption with
      | none => rfl
      | some states =>
        dsimp only
        rw [Configuration.get?_put, if_pos ⟨rfl, hname.symm⟩, Option.some_or]
    · rw [if_neg hsame]
      cases (decode row.text).toOption with
      | none => rfl
      | some states =>
        dsimp only
        rw [Configuration.get?_put, if_neg]
        rintro ⟨hkey, hname⟩
        exact hsame ⟨(Option.some.inj hkey).symm, hname.symm⟩

theorem configurationOf_get? (hsorted : table.IsSorted) {configuration : Configuration}
    (h : Store.configurationOf table = .ok configuration) (key : String) (name : Option String) :
    configuration.get? (some key) name = table.lookup key (title name) := by
  rw [foldlM_readRow hsorted h key name]
  exact Option.or_none

/-- a table is read unless a row has a fault that ends the reading -/
theorem configurationOf_isOk_iff : (∃ configuration, Store.configurationOf table = .ok configuration) ↔
    ∀ row ∈ table, row.IsReadable := by
  have hfold : ∀ before : Configuration,
      (∃ after, table.foldlM Store.readRow before = .ok after) ↔ ∀ row ∈ table, row.IsReadable := by
    induction table with
    | nil =>
      intro before
      simp only [List.not_mem_nil, IsEmpty.forall_iff, implies_true, iff_true]
      exact ⟨before, rfl⟩
    | cons row rest ih =>
      intro before
      rw [List.forall_mem_cons]
      constructor
      · rintro ⟨after, h⟩
        rw [List.foldlM_cons, Except.bind_eq_ok_iff] at h
        obtain ⟨next, hrow, hrest⟩ := h
        exact ⟨(readRow_eq_ok_iff.mp hrow).1, (ih next).mp ⟨after, hrest⟩⟩
      · rintro ⟨hrow, hrest⟩
        obtain ⟨after, h⟩ := (ih _).mpr hrest
        refine ⟨after, ?_⟩
        rw [List.foldlM_cons, Except.bind_eq_ok_iff]
        exact ⟨_, readRow_eq_ok_iff.mpr ⟨hrow, rfl⟩, h⟩
  exact hfold []

/-! ### Proper configurations -/

/-- the names are not empty and none is there twice -/
structure Shelf.IsProper (shelf : Shelf) : Prop where
  distinct : (shelf.named.map Prod.fst).Nodup
  named : ∀ pair ∈ shelf.named, title pair.1 ≠ ""

/-- every key is there once, with proper snapshots -/
structure Configuration.IsProper (configuration : Configuration) : Prop where
  distinct : (configuration.map Prod.fst).Nodup
  shelves : ∀ pair ∈ configuration, pair.1.isSome = true ∧ pair.2.IsProper

/-- the numbers of a configuration can be written -/
def Configuration.IsShort (configuration : Configuration) : Prop :=
  ∀ key name states, configuration.get? key name = some states → ∀ state ∈ states, state.IsShort

lemma Shelf.IsProper.put {shelf : Shelf} (h : shelf.IsProper) (name : Option String)
    (states : List BulbState) : (shelf.put name states).IsProper := by
  unfold Shelf.put
  split
  · rename_i hname
    refine ⟨Assoc.nodup_put h.distinct name states, ?_⟩
    intro pair hpair
    rcases Assoc.mem_put hpair with rfl | hpair
    · exact isNamed_iff.mp hname
    · exact h.named pair hpair
  · exact ⟨h.distinct, h.named⟩

namespace Configuration

variable {configuration : Configuration}

lemma IsProper.put (h : configuration.IsProper) (key : String) (name : Option String)
    (states : List BulbState) : (configuration.put (some key) name states).IsProper := by
  refine ⟨Assoc.nodup_put h.distinct _ _, ?_⟩
  have hshelf : ((Assoc.get? configuration (some key)).getD {}).IsProper := by
    cases hget : Assoc.get? configuration (some key) with
    | none => exact ⟨List.nodup_nil, by simp⟩
    | some shelf => exact (h.shelves _ (Assoc.mem_of_get? hget)).2
  intro pair hpair
  rcases Assoc.mem_put hpair with rfl | hpair
  · exact ⟨rfl, hshelf.put name states⟩
  · exact h.shelves pair hpair

lemma IsShort.put (h : configuration.IsShort) (key name : Option String)
    (hstates : ∀ state ∈ states, state.IsShort) : (configuration.put key name states).IsShort := by
  intro other wanted found hget
  rw [get?_put] at hget
  split at hget
  · obtain rfl := Option.some.inj hget
    exact hstates
  · exact h other wanted found hget

end Configuration

/-- what a table is read as is proper, and can be written -/
lemma isProper_of_configurationOf {configuration : Configuration}
    (h : Store.configurationOf table = .ok configuration) :
    configuration.IsProper ∧ configuration.IsShort := by
  have hfold : ∀ before after : Configuration, before.IsProper ∧ before.IsShort →
      table.foldlM Store.readRow before = .ok after → after.IsProper ∧ after.IsShort := by
    clear h
    induction table with
    | nil =>
      intro before after hbefore h
      obtain rfl := Except.ok.inj h
      exact hbefore
    | cons row rest ih =>
      intro before after hbefore h
      rw [List.foldlM_cons, Except.bind_eq_ok_iff] at h
      obtain ⟨next, hrow, hrest⟩ := h
      obtain ⟨-, rfl⟩ := readRow_eq_ok_iff.mp hrow
      refine ih _ after ?_ hrest
      cases hdecode : decode row.text with
      | error fault => exact hbefore
      | ok states =>
        exact ⟨hbefore.1.put row.key (some row.name) states,
          hbefore.2.put (some row.key) (some row.name) (isShort_of_decode hdecode)⟩
  refine hfold [] configuration ⟨⟨List.nodup_nil, by simp⟩, ?_⟩ h
  intro key name states hget
  cases hget

end Snapshot

end Lamplighter
