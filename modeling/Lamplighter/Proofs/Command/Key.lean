import Mathlib.Data.List.Basic
import Lamplighter.Command.Targets

/-!
# Keys: what the key of a target set tells

The key writes the names one after the other, each with its underscores doubled and one behind it.
The mark behind a name is the character that is doubled inside of names, so where two names meet
the underscores tell only how many they are together: `a` and `_b` are written like `a_` and `b`.
Once no name is empty or begins with an underscore, the first mark that stands alone ends a name.

* `escapeName_append_inj`   a written name and what follows it can be told apart;
* `flatMap_escapeName_inj`  and so can all the names of a key;
* `key_eq_key_iff`          then the key tells the target set.
-/

namespace Lamplighter.Targets

/-! ### Written names -/

/-- the text does not begin with an underscore -/
def Unmarked (text : List Char) : Prop :=
  text.head? ≠ some '_'

/-- a name that is neither empty nor begins with an underscore -/
def IsClear (name : List Char) : Prop :=
  name ≠ [] ∧ Unmarked name

/-- no name of the set is empty or begins with an underscore -/
def AreClear (targets : Targets) : Prop :=
  ∀ name ∈ targets.normalNames, IsClear name.toList

@[simp] lemma escapeName_nil : escapeName [] = ['_'] := rfl

lemma escapeName_cons_mark (name : List Char) :
    escapeName ('_' :: name) = '_' :: '_' :: escapeName name := rfl

lemma escapeName_cons {c : Char} (h : c ≠ '_') (name : List Char) :
    escapeName (c :: name) = c :: escapeName name := by
  simp [escapeName, h]

lemma unmarked_escapeName {name : List Char} (h : IsClear name) : Unmarked (escapeName name) := by
  obtain ⟨hne, hunmarked⟩ := h
  obtain ⟨c, rest, rfl⟩ := List.exists_cons_of_ne_nil hne
  have hc : c ≠ '_' := by simpa [Unmarked] using hunmarked
  rw [escapeName_cons hc]
  simpa [Unmarked] using hc

lemma unmarked_flatMap_escapeName {names : List (List Char)} (h : ∀ name ∈ names, IsClear name) :
    Unmarked (names.flatMap escapeName) := by
  cases names with
  | nil => simp [Unmarked]
  | cons name rest =>
    have hname := unmarked_escapeName (h name (List.mem_cons_self ..))
    have hne : escapeName name ≠ [] := by simp [escapeName]
    obtain ⟨c, more, heq⟩ := List.exists_cons_of_ne_nil hne
    rw [List.flatMap_cons, heq]
    rw [heq] at hname
    simpa [Unmarked] using hname

/-- the induction is on both names at once: doubled marks go together, and a mark that ends one name
only would leave the other text with a mark in front -/
theorem escapeName_append_inj {name other rest more : List Char} (hrest : Unmarked rest)
    (hmore : Unmarked more) (h : escapeName name ++ rest = escapeName other ++ more) :
    name = other ∧ rest = more := by
  induction name generalizing other with
  | nil =>
    cases other with
    | nil => exact ⟨rfl, by simpa using h⟩
    | cons d other =>
      by_cases hd : d = '_'
      · subst hd
        have hmark : rest = '_' :: (escapeName other ++ more) := by
          simpa [escapeName_cons_mark] using h
        exact absurd (by rw [hmark]; rfl) hrest
      · rw [escapeName_cons hd] at h
        exact absurd (List.cons.inj h).1.symm hd
  | cons c name ih =>
    by_cases hc : c = '_'
    · subst hc
      cases other with
      | nil =>
        have hmark : '_' :: (escapeName name ++ rest) = more := by
          simpa [escapeName_cons_mark] using h
        exact absurd (by rw [← hmark]; rfl) hmore
      | cons d other =>
        by_cases hd : d = '_'
        · subst hd
          have hnames : escapeName name ++ rest = escapeName other ++ more := by
            simpa [escapeName_cons_mark] using h
          obtain ⟨rfl, rfl⟩ := ih hnames
          exact ⟨rfl, rfl⟩
        · rw [escapeName_cons_mark, escapeName_cons hd] at h
          exact absurd (List.cons.inj h).1.symm hd
    · rw [escapeName_cons hc] at h
      cases other with
      | nil => exact absurd (List.cons.inj h).1 hc
      | cons d other =>
        by_cases hd : d = '_'
        · subst hd
          exact absurd (List.cons.inj h).1 hc
        · rw [escapeName_cons hd] at h
          obtain ⟨rfl, hnames⟩ := List.cons.inj h
          obtain ⟨rfl, rfl⟩ := ih hnames
          exact ⟨rfl, rfl⟩

theorem flatMap_escapeName_inj {names others : List (List Char)}
    (hnames : ∀ name ∈ names, IsClear name) (hothers : ∀ name ∈ others, IsClear name)
    (h : names.flatMap escapeName = others.flatMap escapeName) : names = others := by
  induction names generalizing others with
  | nil =>
    cases others with
    | nil => rfl
    | cons other rest => simp [escapeName] at h
  | cons name rest ih =>
    cases others with
    | nil => simp [escapeName] at h
    | cons other more =>
      have hrest := fun n hn => hnames n (List.mem_cons_of_mem _ hn)
      have hmore := fun n hn => hothers n (List.mem_cons_of_mem _ hn)
      rw [List.flatMap_cons, List.flatMap_cons] at h
      obtain ⟨rfl, htails⟩ := escapeName_append_inj (unmarked_flatMap_escapeName hrest)
        (unmarked_flatMap_escapeName hmore) h
      rw [ih hrest hmore htails]

/-! ### Keys -/

/-- the texts of the names that a key is made of -/
def normalTexts (targets : Targets) : List (List Char) :=
  targets.normalNames.map String.toList

lemma key_named (entries : List (String × String)) :
    key (.named entries) = String.ofList ((normalTexts (.named entries)).flatMap escapeName) := by
  simp [key, normalTexts, normalNames, List.flatMap_map]

/-- the key of named targets is empty or ends with a mark -/
lemma key_named_ne_all (entries : List (String × String)) : key (.named entries) ≠ key .all := by
  intro h
  rw [key_named] at h
  have htexts : (normalTexts (.named entries)).flatMap escapeName = ['a', 'l', 'l'] := by
    simpa [key] using congrArg String.toList h
  rcases List.eq_nil_or_concat (normalTexts (.named entries)) with hnil | ⟨front, last, hlast⟩
  · simp [hnil] at htexts
  · have hend := congrArg List.getLast? htexts
    simp [hlast, escapeName] at hend

lemma normalTexts_inj {s t : Targets} (h : s.normalTexts = t.normalTexts) :
    s.normalNames = t.normalNames :=
  List.map_injective_iff.mpr (fun _ _ => String.toList_inj.mp) h

/-- Two target sets of clear names have the same key just when they are the same. -/
theorem key_eq_key_iff (s t : Targets) (hs : s.AreClear) (ht : t.AreClear) :
    s.key = t.key ↔ s.isSame t = true := by
  cases s with
  | all =>
    cases t with
    | all => simp [isSame]
    | named entries => simp [isSame, isAll, (key_named_ne_all entries).symm]
  | named entries =>
    cases t with
    | all => simp [isSame, isAll, key_named_ne_all entries]
    | named others =>
      have hclear : ∀ targets : Targets, targets.AreClear →
          ∀ name ∈ targets.normalTexts, IsClear name := by
        intro targets h name hname
        obtain ⟨normal, hnormal, rfl⟩ := List.mem_map.mp hname
        exact h normal hnormal
      constructor
      · intro h
        rw [key_named, key_named, String.ofList_inj] at h
        have htexts := flatMap_escapeName_inj (hclear _ hs) (hclear _ ht) h
        simp [isSame, isAll, normalTexts_inj htexts]
      · intro h
        have hnames : normalNames (.named entries) = normalNames (.named others) := by
          simpa [isSame, isAll] using h
        rw [key_named, key_named, normalTexts, normalTexts, hnames]

/-- Names that hold or end in underscores are told apart, as long as none begins with one. -/
theorem key_eq_key_iff_shelf : AreClear (ofNames ["a_", "b__c"]) ∧ AreClear (ofNames ["a", "b_"]) ∧
    ((ofNames ["a_", "b__c"]).key = (ofNames ["a", "b_"]).key
      ↔ (ofNames ["a_", "b__c"]).isSame (ofNames ["a", "b_"]) = true) := by
  have hfirst : AreClear (ofNames ["a_", "b__c"]) := by
    unfold AreClear IsClear Unmarked
    decide +kernel
  have hsecond : AreClear (ofNames ["a", "b_"]) := by
    unfold AreClear IsClear Unmarked
    decide +kernel
  exact ⟨hfirst, hsecond, key_eq_key_iff _ _ hfirst hsecond⟩

/-- An underscore in front of a name is written like one at the end of the name before it, so two
target sets that share no name have one key. -/
theorem key_not_injective : (ofNames ["a", "_b"]).key = (ofNames ["a_", "b"]).key ∧
    (ofNames ["a", "_b"]).isSame (ofNames ["a_", "b"]) = false := by
  decide +kernel

end Lamplighter.Targets
