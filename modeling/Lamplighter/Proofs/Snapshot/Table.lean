import Lamplighter.Proofs.Snapshot.Codec
import Lamplighter.Snapshot.Store

/-!
# The table: rows in order

* `Row.IsReadable`      the text of a row is a snapshot, or has a fault that a reader skips;
* `Table.IsSorted`      every row comes before the later ones, and so no place has two rows;
* `Table.lookup`        the states that a table has under a key and a name;
* `lookup_upsert`, `mem_upsert_of_not_isSame`   writing a row changes its own place alone.
-/

namespace Lamplighter

namespace Snapshot

variable {table : Table} {row : Row} {key name : String} {states : List BulbState}

/-! ### Rows in order -/

namespace Row

variable {a b c : Row}

lemma isBefore_iff : a.isBefore b = true ↔ a.key < b.key ∨ a.key = b.key ∧ a.name < b.name := by
  unfold isBefore
  rw [Bool.or_eq_true, Bool.and_eq_true, decide_eq_true_iff, decide_eq_true_iff, beq_iff_eq]

lemma isSame_iff : a.isSame b = true ↔ a.key = b.key ∧ a.name = b.name := by
  unfold isSame
  rw [Bool.and_eq_true, beq_iff_eq, beq_iff_eq]

lemma isBefore_trans (h : a.isBefore b = true) (h' : b.isBefore c = true) :
    a.isBefore c = true := by
  rw [isBefore_iff] at h h' ⊢
  rcases h with h | ⟨hkey, h⟩
  · rcases h' with h' | ⟨hkey', _⟩
    · exact .inl (String.lt_trans h h')
    · exact .inl (hkey' ▸ h)
  · rcases h' with h' | ⟨hkey', h'⟩
    · exact .inl (hkey ▸ h')
    · exact .inr ⟨hkey.trans hkey', String.lt_trans h h'⟩

lemma isBefore_of_not (hsame : ¬ a.isSame b = true) (h : ¬ b.isBefore a = true) :
    a.isBefore b = true := by
  rw [isSame_iff] at hsame
  rw [isBefore_iff, not_or, not_and] at h
  rw [isBefore_iff]
  by_cases hkey : a.key < b.key
  · exact .inl hkey
  · have heq : a.key = b.key := String.le_antisymm h.1 hkey
    by_cases hname : a.name < b.name
    · exact .inr ⟨heq, hname⟩
    · exact absurd ⟨heq, String.le_antisymm (h.2 heq.symm) hname⟩ hsame

lemma not_isSame_of_isBefore (h : a.isBefore b = true) : ¬ a.isSame b = true := by
  rw [isBefore_iff] at h
  rw [isSame_iff]
  rintro ⟨hkey, hname⟩
  rcases h with h | ⟨_, h⟩
  · rw [hkey] at h
    exact String.lt_irrefl _ h
  · rw [hname] at h
    exact String.lt_irrefl _ h

/-- the row has states, or a fault that makes a reader skip it -/
def IsReadable (row : Row) : Prop :=
  ∀ fault, decode row.text = .error fault → fault.isSkipped = true

end Row

namespace Table

/-- every row comes before the later ones -/
def IsSorted (table : Table) : Prop :=
  table.Pairwise fun a b => a.isBefore b = true

/-- the states that a table has under a key and a name -/
def lookup (table : Table) (key name : String) : Option (List BulbState) :=
  (table.find? key name).bind fun row => (decode row.text).toOption

lemma mem_upsert {r : Row} (h : r ∈ table.upsert row) : r = row ∨ r ∈ table := by
  induction table with
  | nil => exact .inl (List.mem_singleton.mp h)
  | cons first rest ih =>
    unfold upsert at h
    split at h
    · exact (List.mem_cons.mp h).imp id (List.mem_cons_of_mem _)
    · split at h
      · exact List.mem_cons.mp h
      · rcases List.mem_cons.mp h with rfl | h
        · exact .inr (List.mem_cons_self ..)
        · exact (ih h).imp id (List.mem_cons_of_mem _)

lemma mem_upsert_of_not_isSame {r : Row} (h : r ∈ table) (hplace : ¬ r.isSame row = true) :
    r ∈ table.upsert row := by
  induction table with
  | nil => cases h
  | cons first rest ih =>
    unfold upsert
    split
    · rename_i hsame
      rcases List.mem_cons.mp h with rfl | h
      · exact absurd hsame hplace
      · exact List.mem_cons_of_mem _ h
    · split
      · exact List.mem_cons_of_mem _ h
      · rcases List.mem_cons.mp h with rfl | h
        · exact List.mem_cons_self ..
        · exact List.mem_cons_of_mem _ (ih h)

theorem IsSorted.upsert (h : table.IsSorted) (row : Row) : (table.upsert row).IsSorted := by
  induction table with
  | nil => exact List.pairwise_singleton _ _
  | cons first rest ih =>
    obtain ⟨hfirst, hrest⟩ := List.pairwise_cons.mp h
    unfold Table.upsert
    split
    · rename_i hsame
      rw [Row.isSame_iff] at hsame
      refine List.pairwise_cons.mpr ⟨?_, hrest⟩
      intro r hr
      have hbefore := hfirst r hr
      rw [Row.isBefore_iff] at hbefore ⊢
      rwa [← hsame.1, ← hsame.2]
    · rename_i hsame
      split
      · rename_i hbefore
        refine List.pairwise_cons.mpr ⟨?_, h⟩
        intro r hr
        rcases List.mem_cons.mp hr with rfl | hr
        · exact hbefore
        · exact Row.isBefore_trans hbefore (hfirst r hr)
      · rename_i hbefore
        refine List.pairwise_cons.mpr ⟨?_, ih hrest⟩
        intro r hr
        rcases mem_upsert hr with rfl | hr
        · exact Row.isBefore_of_not hsame hbefore
        · exact hfirst r hr

lemma find?_cons (row : Row) (rest : Table) (key name : String) : find? (row :: rest) key name
    = if row.key = key ∧ row.name = name then some row else find? rest key name := by
  unfold find?
  rw [List.find?_cons]
  by_cases h : row.key = key ∧ row.name = name
  · rw [if_pos h, beq_iff_eq.mpr h.1, beq_iff_eq.mpr h.2]
    rfl
  · have hfalse : (row.key == key && row.name == name) = false := by
      rw [Bool.eq_false_iff, ne_eq, Bool.and_eq_true, beq_iff_eq, beq_iff_eq]
      exact h
    rw [if_neg h, hfalse]

/-- what is found after a row was written -/
lemma find?_upsert (table : Table) (row : Row) (key name : String) : (table.upsert row).find? key name
    = if row.key = key ∧ row.name = name then some row else table.find? key name := by
  induction table with
  | nil => exact find?_cons row [] key name
  | cons first rest ih =>
    unfold Table.upsert
    split
    · rename_i hsame
      rw [Row.isSame_iff] at hsame
      rw [find?_cons, find?_cons, hsame.1, hsame.2]
      split <;> rfl
    · split
      · exact find?_cons row _ key name
      · rename_i hsame _
        rw [Row.isSame_iff] at hsame
        rw [find?_cons, find?_cons, ih]
        split
        · rename_i hfirst
          rw [if_neg]
          rintro ⟨rfl, rfl⟩
          exact hsame hfirst
        · rfl

lemma IsSorted.find?_rest {rest : Table} (h : IsSorted (row :: rest)) :
    find? rest row.key row.name = none := by
  refine List.find?_eq_none.mpr ?_
  intro r hr hsame
  rw [Bool.and_eq_true, beq_iff_eq, beq_iff_eq] at hsame
  exact Row.not_isSame_of_isBefore ((List.pairwise_cons.mp h).1 r hr)
    (Row.isSame_iff.mpr ⟨hsame.1.symm, hsame.2.symm⟩)

lemma IsSorted.find?_mem (h : table.IsSorted) (hrow : row ∈ table) :
    table.find? row.key row.name = some row := by
  induction table with
  | nil => cases hrow
  | cons first rest ih =>
    rw [find?_cons]
    rcases List.mem_cons.mp hrow with rfl | hrow
    · exact if_pos ⟨rfl, rfl⟩
    · obtain ⟨hfirst, hrest⟩ := List.pairwise_cons.mp h
      rw [if_neg, ih hrest hrow]
      intro hsame
      exact Row.not_isSame_of_isBefore (hfirst row hrow) (Row.isSame_iff.mpr hsame)

/-- what a table has after a row was written -/
lemma lookup_upsert (table : Table) (row : Row) (key name : String) :
    (table.upsert row).lookup key name = if row.key = key ∧ row.name = name
      then (decode row.text).toOption else table.lookup key name := by
  unfold lookup
  rw [find?_upsert]
  split <;> rfl

end Table

end Snapshot

end Lamplighter
