import Mathlib.Data.List.Basic
import Lamplighter.Command.Targets

/-!
# Names: the targets that a list of names makes

* `distinctNames`     of some names the first of each normal form, in order;
* `ofNames_eq`        just these are the targets, each under its normal form;
* `eraseDups_map_normalName`   their normal forms are those of all the names, without repeats;
* `discard_ofNames`   to discard a name is to leave out the names of its normal form;
* `copy_ofNames`      built anew from its spellings the set is the same;
* `key_ofNames`       the key has the normal forms, each with its mark behind it.
-/

namespace Lamplighter.Targets

/-- the first name of each normal form, in order -/
def distinctNames : List String → List String
  | [] => []
  | name :: rest => name :: (distinctNames rest).filter fun other => normalName other != normalName name

/-- a name under its normal form -/
def entryOf (name : String) : String × String :=
  (normalName name, name)

lemma isSame_iff {s t : Targets} : s.isSame t = true ↔ s.isAll = t.isAll ∧ s.normalNames = t.normalNames := by
  rw [isSame, Bool.and_eq_true, beq_iff_eq, beq_iff_eq]

lemma isMatch_named {entries : List (String × String)} {name : String} :
    (named entries).isMatch name = true ↔ normalName name ∈ entries.map Prod.fst := by
  simp [isMatch, hasNormal]

lemma hasNormal_append (entries others : List (String × String)) (normal : String) :
    hasNormal (entries ++ others) normal = (hasNormal entries normal || hasNormal others normal) :=
  List.any_append

lemma foldl_addName_eq (entries : List (String × String)) (names : List String) :
    names.foldl addName entries = entries
      ++ ((distinctNames names).filter fun name => !hasNormal entries (normalName name)).map
        entryOf := by
  induction names generalizing entries with
  | nil => simp [distinctNames]
  | cons name rest ih =>
    rw [List.foldl_cons, ih, distinctNames]
    cases hhas : hasNormal entries (normalName name) with
    | true =>
      -- a name that is there already is left out, and so are those of its normal form
      have hadd : addName entries name = entries := by simp [addName, addEntry, hhas]
      rw [hadd, List.filter_cons_of_neg (by simp [hhas]), List.filter_filter]
      refine congrArg (fun kept => entries ++ List.map entryOf kept) (List.filter_congr ?_)
      intro other _
      by_cases hsame : normalName other = normalName name
      · simp [hsame, hhas]
      · simp [hsame]
    | false =>
      have hadd : addName entries name = entries ++ [entryOf name] := by
        simp [addName, addEntry, hhas, entryOf]
      rw [hadd, List.filter_cons_of_pos (by simp [hhas]), List.map_cons, List.filter_filter,
        List.append_assoc, List.singleton_append]
      refine congrArg (fun kept => entries ++ entryOf name :: List.map entryOf kept)
        (List.filter_congr ?_)
      intro other _
      rw [hasNormal_append, bne, BEq.comm (a := normalName other)]
      simp [hasNormal, entryOf]

theorem ofNames_eq (names : List String) :
    ofNames names = .named ((distinctNames names).map entryOf) := by
  rw [ofNames, foldl_addName_eq, List.nil_append]
  simp [hasNormal]

lemma names_ofNames (names : List String) : (ofNames names).names = distinctNames names := by
  rw [ofNames_eq]
  simp [Targets.names, entryOf, Function.comp_def]

lemma normalNames_ofNames (names : List String) :
    (ofNames names).normalNames = (distinctNames names).map normalName := by
  rw [ofNames_eq, normalNames, List.map_map]
  rfl

/-- names of some normal forms that are left out are left out of the distinct names -/
lemma distinctNames_filter (names : List String) (p : String → Bool) :
    distinctNames (names.filter fun name => p (normalName name))
      = (distinctNames names).filter fun name => p (normalName name) := by
  induction names with
  | nil => rfl
  | cons name rest ih =>
    cases hp : p (normalName name) with
    | true =>
      simp only [distinctNames, List.filter_cons, hp, ↓reduceIte, ih, List.filter_filter, Bool.and_comm]
    | false =>
      simp only [distinctNames, List.filter_cons, hp, Bool.false_eq_true, ↓reduceIte, ih,
        List.filter_filter]
      -- what is of the normal form of the name is left out with it
      refine List.filter_congr fun other _ => ?_
      by_cases hsame : normalName other = normalName name
      · simp [hsame, hp]
      · simp [hsame]

/-- the distinct names have the normal forms of all names, each where it comes first -/
lemma eraseDups_map_normalName (names : List String) :
    (names.map normalName).eraseDups = (distinctNames names).map normalName := by
  match names with
  | [] => rfl
  | name :: rest =>
    have hrest := eraseDups_map_normalName
      (rest.filter fun other => normalName other != normalName name)
    rw [distinctNames_filter rest (· != normalName name)] at hrest
    have hkept : (rest.map normalName).filter (fun normal => !normal == normalName name)
        = (rest.filter fun other => normalName other != normalName name).map normalName := by
      simp only [List.filter_map, Function.comp_def, bne]
    rw [distinctNames, List.map_cons, List.map_cons, List.eraseDups_cons, hkept, hrest]
termination_by names.length
decreasing_by exact Nat.lt_succ_of_le (List.length_filter_le ..)

/-- to discard a name is to leave out the names of its normal form -/
theorem discard_ofNames (names : List String) (name : String) : (ofNames names).discard name
    = ofNames (names.filter fun other => normalName other != normalName name) := by
  have hkept := distinctNames_filter names (· != normalName name)
  rw [ofNames_eq, ofNames_eq, hkept, discard, without, List.filter_map]
  simp only [Function.comp_def, entryOf]

lemma distinctNames_of_pairwise {names : List String}
    (h : names.Pairwise fun a b => normalName b ≠ normalName a) : distinctNames names = names := by
  induction names with
  | nil => rfl
  | cons name rest ih =>
    obtain ⟨hname, hrest⟩ := List.pairwise_cons.mp h
    rw [distinctNames, ih hrest, List.filter_eq_self.mpr]
    simpa using hname

lemma pairwise_distinctNames (names : List String) :
    (distinctNames names).Pairwise fun a b => normalName b ≠ normalName a := by
  induction names with
  | nil => exact List.Pairwise.nil
  | cons name rest ih =>
    rw [distinctNames]
    refine List.pairwise_cons.mpr ⟨fun other hother => ?_, ih.filter _⟩
    simpa using (List.mem_filter.mp hother).2

theorem copy_ofNames (names : List String) : (ofNames names).copy = ofNames names := by
  have hcopy : (ofNames names).copy = ofNames (ofNames names).names := rfl
  rw [hcopy, names_ofNames, ofNames_eq, ofNames_eq,
    distinctNames_of_pairwise (pairwise_distinctNames names)]

theorem key_ofNames (names : List String) : (ofNames names).key
    = String.ofList ((distinctNames names).flatMap fun name => escapeName (normalName name).toList) := by
  rw [ofNames_eq]
  simp [key, entryOf, List.flatMap_map]

end Lamplighter.Targets
