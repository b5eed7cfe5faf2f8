import Mathlib.Data.List.Nodup
import Mathlib.Tactic.Lemma
import Lamplighter.Assoc

/-!
# Keys: what is put under a key is found there

* `mem_put`, `nodup_put`   a list after `put`: each key once, if it was so before;
* `put_of_not_mem`         a new key goes to the end;
* `keys_put_of_mem`        a key that is there stays in its place;
* `get?_of_mem`            with each key once, looking up is membership.
-/

namespace Lamplighter.Assoc

variable {κ α : Type} [DecidableEq κ] {list : List (κ × α)} {k : κ} {v : α}

lemma mem_put {pair : κ × α} (h : pair ∈ put list k v) : pair = (k, v) ∨ pair ∈ list := by
  induction list with
  | nil => exact .inl (List.mem_singleton.mp h)
  | cons first rest ih =>
    unfold put at h
    split at h
    · rename_i hkey
      rw [hkey] at h
      exact (List.mem_cons.mp h).imp id (List.mem_cons_of_mem _)
    · rcases List.mem_cons.mp h with rfl | h
      · exact .inr (List.mem_cons_self ..)
      · exact (ih h).imp id (List.mem_cons_of_mem _)

lemma nodup_put (h : (list.map Prod.fst).Nodup) (k : κ) (v : α) :
    ((put list k v).map Prod.fst).Nodup := by
  induction list with
  | nil => exact List.nodup_cons.mpr ⟨List.not_mem_nil, List.nodup_nil⟩
  | cons first rest ih =>
    rw [List.map_cons, List.nodup_cons] at h
    unfold put
    split
    · exact List.nodup_cons.mpr h
    · rename_i hne
      rw [List.map_cons, List.nodup_cons]
      refine ⟨?_, ih h.2⟩
      intro hmem
      obtain ⟨pair, hpair, hkey⟩ := List.mem_map.mp hmem
      rcases mem_put hpair with rfl | hpair
      · exact hne hkey.symm
      · exact h.1 (List.mem_map.mpr ⟨pair, hpair, hkey⟩)

/-- a new key goes to the end -/
lemma put_of_not_mem (v : α) (h : k ∉ list.map Prod.fst) : put list k v = list ++ [(k, v)] := by
  induction list with
  | nil => rfl
  | cons first rest ih =>
    rw [List.map_cons, List.mem_cons, not_or] at h
    rw [put, if_neg (Ne.symm h.1), ih h.2]
    rfl

/-- a key that is there stays in its place -/
lemma keys_put_of_mem (v : α) (h : k ∈ list.map Prod.fst) :
    (put list k v).map Prod.fst = list.map Prod.fst := by
  induction list with
  | nil => cases h
  | cons first rest ih =>
    unfold put
    split
    · rfl
    · rename_i hne
      have hrest : k ∈ rest.map Prod.fst := (List.mem_cons.mp h).resolve_left (Ne.symm hne)
      rw [List.map_cons, List.map_cons, ih hrest]

lemma get?_of_mem (h : (list.map Prod.fst).Nodup) (hmem : (k, v) ∈ list) :
    get? list k = some v := by
  induction list with
  | nil => cases hmem
  | cons first rest ih =>
    rw [List.map_cons, List.nodup_cons] at h
    unfold get?
    rcases List.mem_cons.mp hmem with rfl | hmem
    · exact if_pos rfl
    · rw [if_neg, ih h.2 hmem]
      rintro rfl
      exact h.1 (List.mem_map.mpr ⟨_, hmem, rfl⟩)

lemma mem_of_get? (h : get? list k = some v) : (k, v) ∈ list := by
  induction list with
  | nil => cases h
  | cons first rest ih =>
    unfold get? at h
    split at h
    · rename_i hkey
      obtain rfl := Option.some.inj h
      rw [← hkey]
      exact List.mem_cons_self ..
    · exact List.mem_cons_of_mem _ (ih h)

lemma get?_isSome : (get? list k).isSome ↔ k ∈ list.map Prod.fst := by
  induction list with
  | nil => simp
  | cons first rest ih =>
    unfold get?
    split
    · rename_i hkey
      exact iff_of_true rfl (hkey ▸ List.mem_cons_self ..)
    · rename_i hne
      rw [ih, List.map_cons, List.mem_cons, or_iff_right (Ne.symm hne)]

end Lamplighter.Assoc
