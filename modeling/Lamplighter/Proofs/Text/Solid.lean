import Mathlib.Data.List.Basic
import Lamplighter.Text.Digits
import Lamplighter.Text.Lowercase

/-!
# Solid texts: what trimming, cutting and lower case do to them

* `IsSolid`           no character of the text is blank, as in a token of a sentence;
* `trim_of_isSolid`   such a text has nothing to trim;
* `flatten_words`     the words of a text one after the other are the text without its blanks;
* `mem_lower`         but for two characters each has its lower-case form in that of the text;
* `lower_eq_map`      without these two, lower case goes character by character;
* `lower_of_ascii`    in the ASCII range it is the usual one;
* `lower_append_space`   and on the two sides of a space it goes its own way;
* `lowerChar_of_isDigit`, `isDigit_lowerChar`   a digit has no letter case, and nothing else has one as
                      its lower-case form.
-/

namespace Lamplighter.Text

/-! ### Blanks -/

def IsSolid (cs : List Char) : Prop :=
  ∀ c ∈ cs, isBlank c = false

instance : DecidablePred IsSolid := fun cs =>
  decidable_of_iff ((cs.all fun c => !isBlank c) = true) (by simp [IsSolid])

lemma dropWhile_of_isSolid {cs : List Char} (h : IsSolid cs) : cs.dropWhile isBlank = cs := by
  cases cs with
  | nil => rfl
  | cons c cs => rw [List.dropWhile_cons_of_neg (by simp [h c (List.mem_cons_self ..)])]

theorem trim_of_isSolid {cs : List Char} (h : IsSolid cs) : trim cs = cs := by
  have hreverse : IsSolid cs.reverse := fun c hc => h c (List.mem_reverse.mp hc)
  rw [trim, dropWhile_of_isSolid h, dropWhile_of_isSolid hreverse, List.reverse_reverse]

lemma mem_dropWhile_of_not {α : Type} {p : α → Bool} {a : α} {as : List α} (ha : a ∈ as)
    (hp : p a = false) : a ∈ as.dropWhile p := by
  induction as with
  | nil => cases ha
  | cons b as ih =>
    by_cases hb : p b = true
    · rw [List.dropWhile_cons_of_pos hb]
      rcases List.mem_cons.mp ha with rfl | ha
      · rw [hp] at hb
        cases hb
      · exact ih ha
    · rwa [List.dropWhile_cons_of_neg hb]

lemma mem_trim {c : Char} {cs : List Char} (hc : c ∈ cs) (hblank : isBlank c = false) :
    c ∈ trim cs :=
  List.mem_reverse.mpr <|
    mem_dropWhile_of_not (List.mem_reverse.mpr (mem_dropWhile_of_not hc hblank)) hblank

lemma trim_cons {c : Char} (h : isBlank c = false) (cs : List Char) :
    ∃ rest, trim (c :: cs) = c :: rest := by
  have hlast : (cs.reverse ++ [c]).dropWhile isBlank
      = cs.reverse.dropWhile isBlank ++ [c] := by
    rw [List.dropWhile_append]
    split
    · rename_i hempty
      rw [List.isEmpty_iff.mp hempty, List.dropWhile_cons_of_neg (by simp [h])]
      rfl
    · rfl
  refine ⟨(cs.reverse.dropWhile isBlank).reverse, ?_⟩
  rw [trim, List.dropWhile_cons_of_neg (by simp [h]), List.reverse_cons, hlast]
  simp

lemma flatten_attach (c : Char) (next : List Char) (ws : List (List Char)) :
    (attach c next ws).flatten = c :: ws.flatten := by
  unfold attach
  split
  · split <;> simp
  · simp

theorem flatten_words (cs : List Char) : (words cs).flatten = cs.filter fun c => !isBlank c := by
  induction cs with
  | nil => rfl
  | cons c cs ih =>
    cases hc : isBlank c with
    | true => rw [words_cons_blank hc, ih, List.filter_cons_of_neg (by simp [hc])]
    | false =>
      rw [words_cons_of_not_blank hc, flatten_attach, ih, List.filter_cons_of_pos (by simp [hc])]

/-! ### Lower case -/

/-- a character whose lower-case form is one character and does not hang on its neighbours -/
def IsSimple (c : Char) : Prop :=
  c ≠ 'Σ' ∧ c ≠ 'İ'

lemma lowerBetween_of_isSimple {c : Char} (h : IsSimple c) (before after : List Char) :
    lowerBetween before c after = [lowerChar c] := by
  rw [lowerBetween, if_neg h.1, if_neg h.2]

lemma mem_lowerFrom {c : Char} {cs : List Char} (hc : c ∈ cs) (h : IsSimple c)
    (before : List Char) : lowerChar c ∈ lowerFrom before cs := by
  induction cs generalizing before with
  | nil => cases hc
  | cons d cs ih =>
    rw [lowerFrom]
    rcases List.mem_cons.mp hc with rfl | hc
    · simp [lowerBetween_of_isSimple h]
    · exact List.mem_append_right _ (ih hc _)

theorem mem_lower {c : Char} {cs : List Char} (hc : c ∈ cs) (h : IsSimple c) :
    lowerChar c ∈ lower cs :=
  mem_lowerFrom hc h []

lemma lower_cons {c : Char} (h : IsSimple c) (cs : List Char) :
    ∃ rest, lower (c :: cs) = lowerChar c :: rest := by
  rw [lower, lowerFrom, lowerBetween_of_isSimple h]
  exact ⟨_, rfl⟩

lemma lowerFrom_of_isSimple {cs : List Char} (h : ∀ c ∈ cs, IsSimple c) (before : List Char) :
    lowerFrom before cs = cs.map lowerChar := by
  induction cs generalizing before with
  | nil => rfl
  | cons c cs ih =>
    rw [List.forall_mem_cons] at h
    rw [lowerFrom, lowerBetween_of_isSimple h.1, ih h.2]
    rfl

/-- a character in the ASCII range has the lower-case form that it has there -/
lemma lowerChar_of_ascii {c : Char} (h : c.toNat < 128) : IsSimple c ∧ lowerChar c = c.toLower := by
  have htable : ∀ n < 128, Char.ofNat n ≠ 'Σ' ∧ Char.ofNat n ≠ 'İ' ∧
      lowerChar (Char.ofNat n) = (Char.ofNat n).toLower := by
    decide +kernel
  obtain ⟨hsigma, hdotted, hlower⟩ := htable c.toNat h
  rw [Char.ofNat_toNat] at hsigma hdotted hlower
  exact ⟨⟨hsigma, hdotted⟩, hlower⟩

theorem lower_of_ascii {cs : List Char} (h : ∀ c ∈ cs, c.toNat < 128) :
    lower cs = cs.map Char.toLower := by
  rw [lower, lowerFrom_of_isSimple fun c hc => (lowerChar_of_ascii (h c hc)).1]
  exact List.map_congr_left fun c hc => (lowerChar_of_ascii (h c hc)).2

/-- neither of the two sigmas nor the combining dot -/
def marks : List Char := ['σ', 'ς', '\u0307']

/-- the two characters that are not simple leave a mark in the lower-case form -/
lemma exists_mark {c : Char} (h : ¬ IsSimple c) (before after : List Char) :
    ∃ mark ∈ marks, mark ∈ lowerBetween before c after := by
  unfold lowerBetween
  by_cases hsigma : c = 'Σ'
  · rw [if_pos hsigma]
    split
    · exact ⟨'ς', by decide, by decide⟩
    · exact ⟨'σ', by decide, by decide⟩
  · have hdotted : c = 'İ' := by
      by_contra hnot
      exact h ⟨hsigma, hnot⟩
    rw [if_neg hsigma, if_pos hdotted]
    exact ⟨'\u0307', by decide, by decide⟩

lemma lowerFrom_eq_map {before cs : List Char} (h : ∀ mark ∈ marks, mark ∉ lowerFrom before cs) :
    (∀ c ∈ cs, IsSimple c) ∧ lowerFrom before cs = cs.map lowerChar := by
  have hsimple : ∀ c ∈ cs, IsSimple c := by
    induction cs generalizing before with
    | nil => simp
    | cons c cs ih =>
      rw [lowerFrom] at h
      have hfirst : IsSimple c := by
        by_contra hnot
        obtain ⟨mark, hmark, hmem⟩ := exists_mark hnot before cs
        exact h mark hmark (List.mem_append_left _ hmem)
      have hrest := ih fun mark hmark hmem => h mark hmark (List.mem_append_right _ hmem)
      exact List.forall_mem_cons.mpr ⟨hfirst, hrest⟩
  exact ⟨hsimple, lowerFrom_of_isSimple hsimple before⟩

/-- A text whose lower-case form has none of the marks is put into lower case character by
character. -/
theorem lower_eq_map {cs : List Char} (h : ∀ mark ∈ marks, mark ∉ lower cs) :
    (∀ c ∈ cs, IsSimple c) ∧ lower cs = cs.map lowerChar :=
  lowerFrom_eq_map h

/-- a space has no letter case, and is not passed over -/
lemma space_caseless : lowerChar ' ' = ' ' ∧ inRanges transparentRanges ' ' = false ∧
    inRanges casedRanges ' ' = false := by
  decide +kernel

/-- no letter is looked for beyond a space -/
lemma meetsCased_space (cs ds : List Char) : meetsCased (cs ++ ' ' :: ds) = meetsCased cs := by
  obtain ⟨-, hspace⟩ := space_caseless
  unfold meetsCased
  rw [List.dropWhile_append]
  cases hrest : cs.dropWhile (inRanges transparentRanges) with
  | nil => simp [hspace]
  | cons c rest => simp

lemma lowerFrom_space (before more cs : List Char) :
    lowerFrom (before ++ ' ' :: more) cs = lowerFrom before cs := by
  induction cs generalizing before with
  | nil => rfl
  | cons c cs ih =>
    have hbetween : lowerBetween (before ++ ' ' :: more) c cs = lowerBetween before c cs := by
      rw [lowerBetween, lowerBetween, meetsCased_space]
    rw [lowerFrom, lowerFrom, hbetween, ← List.cons_append, ih]

lemma lowerFrom_append_space (before cs ds : List Char) :
    lowerFrom before (cs ++ ' ' :: ds) = lowerFrom before cs ++ ' ' :: lower ds := by
  induction cs generalizing before with
  | nil =>
    have hspace : lowerBetween before ' ' ds = [' '] := by
      rw [lowerBetween, if_neg (by decide), if_neg (by decide), space_caseless.1]
    show lowerBetween before ' ' ds ++ lowerFrom (' ' :: before) ds = ' ' :: lower ds
    rw [hspace]
    exact congrArg (' ' :: ·) (lowerFrom_space [] before ds)
  | cons c cs ih =>
    have hbetween : lowerBetween before c (cs ++ ' ' :: ds) = lowerBetween before c cs := by
      rw [lowerBetween, lowerBetween, meetsCased_space]
    rw [List.cons_append, lowerFrom, lowerFrom, hbetween, ih, List.append_assoc]

/-- Texts on the two sides of a space are put into lower case each on its own. -/
theorem lower_append_space (cs ds : List Char) :
    lower (cs ++ ' ' :: ds) = lower cs ++ ' ' :: lower ds :=
  lowerFrom_append_space [] cs ds

lemma lower_eq_nil_iff {cs : List Char} : lower cs = [] ↔ cs = [] := by
  have hbetween : ∀ before c after, lowerBetween before c after ≠ [] := by
    intro before c after
    unfold lowerBetween
    split
    · split <;> simp
    · split <;> simp
  cases cs with
  | nil => simp [lower, lowerFrom]
  | cons c cs => simp [lower, lowerFrom, hbetween]

/-! ### Digits -/

lemma lowerCodeIn_of_outside {runs : List (Nat × Nat × Nat × Nat)} {n : Nat}
    (h : ∀ run ∈ runs, n < run.1 ∨ run.2.1 < n) : lowerCodeIn runs n = n := by
  induction runs with
  | nil => rfl
  | cons run runs ih =>
    obtain ⟨first, last, stride, image⟩ := run
    have hrun : n < first ∨ last < n := h _ (List.mem_cons_self ..)
    rw [lowerCodeIn, if_neg (by omega)]
    exact ih fun other hother => h other (List.mem_cons_of_mem _ hother)

lemma inRanges_iff {ranges : List (Nat × Nat)} {c : Char} :
    inRanges ranges c = true ↔ ∃ range ∈ ranges, range.1 ≤ c.toNat ∧ c.toNat ≤ range.2 := by
  simp [inRanges]

/-- nothing is in both ranges -/
def isApart (range other : Nat × Nat) : Bool :=
  Nat.blt range.2 other.1 || Nat.blt other.2 range.1

/-- the characters that have another lower-case form, these forms, the blanks and the null character -/
def plainRanges : List (Nat × Nat) :=
  (0, 0) :: blankRanges ++ lowercaseRuns.map (fun run => (run.1, run.2.1))
    ++ lowercaseRuns.map fun run => (run.2.2.2, run.2.2.2 + (run.2.1 - run.1))

/-- none of them is a digit -/
lemma apart_of_mem {range other : Nat × Nat} (h : range ∈ plainRanges) (hdigit : other ∈ digitRanges) :
    range.2 < other.1 ∨ other.2 < range.1 := by
  have htable : (plainRanges.all fun range => digitRanges.all (isApart range)) = true := by
    decide +kernel
  have hapart := List.all_eq_true.mp (List.all_eq_true.mp htable range h) other hdigit
  simpa [isApart, Nat.blt_eq] using hapart

theorem lowerChar_of_isDigit {c : Char} (h : isDigit c = true) : lowerChar c = c := by
  obtain ⟨range, hrange, hlow, hhigh⟩ := inRanges_iff.mp h
  have hcode : lowerCodeIn lowercaseRuns c.toNat = c.toNat := by
    refine lowerCodeIn_of_outside fun run hrun => ?_
    have hmem : (run.1, run.2.1) ∈ plainRanges :=
      List.mem_append_left _ (List.mem_append_right _ (List.mem_map_of_mem hrun))
    rcases apart_of_mem hmem hrange with habove | hbelow
    · exact Or.inr (by omega)
    · exact Or.inl (by omega)
  rw [lowerChar, hcode, Char.ofNat_toNat]

lemma lowerCodeIn_cases (runs : List (Nat × Nat × Nat × Nat)) (n : Nat) :
    lowerCodeIn runs n = n ∨
      ∃ run ∈ runs, run.1 ≤ n ∧ n ≤ run.2.1 ∧ lowerCodeIn runs n = run.2.2.2 + (n - run.1) := by
  induction runs with
  | nil => exact .inl rfl
  | cons run runs ih =>
    obtain ⟨first, last, stride, image⟩ := run
    rw [lowerCodeIn]
    split
    · rename_i h
      exact .inr ⟨_, List.mem_cons_self .., h.1, h.2.1, rfl⟩
    · refine ih.imp id ?_
      rintro ⟨run, hrun, h⟩
      exact ⟨run, List.mem_cons_of_mem _ hrun, h⟩

/-- lower case makes no digits -/
theorem isDigit_lowerChar (c : Char) : isDigit (lowerChar c) = isDigit c := by
  cases hdigit : isDigit c with
  | true => rw [lowerChar_of_isDigit hdigit, hdigit]
  | false =>
    rcases lowerCodeIn_cases lowercaseRuns c.toNat with hsame | ⟨run, hrun, hfirst, hlast, hcode⟩
    · rw [lowerChar, hsame, Char.ofNat_toNat, hdigit]
    · refine Bool.eq_false_iff.mpr fun hlower => ?_
      obtain ⟨range, hrange, hlow, hhigh⟩ := inRanges_iff.mp hlower
      have hcases : (lowerChar c).toNat = lowerCodeIn lowercaseRuns c.toNat ∨
          (lowerChar c).toNat = 0 := by
        rw [lowerChar, Char.ofNat]
        by_cases hvalid : (lowerCodeIn lowercaseRuns c.toNat).isValidChar
        · rw [dif_pos hvalid]
          exact .inl rfl
        · rw [dif_neg hvalid]
          exact .inr rfl
      have hnull : ((0, 0) : Nat × Nat) ∈ plainRanges := List.mem_cons_self ..
      have hform : (run.2.2.2, run.2.2.2 + (run.2.1 - run.1)) ∈ plainRanges :=
        List.mem_append_right _ (List.mem_map_of_mem hrun)
      have hnull := apart_of_mem hnull hrange
      have hform := apart_of_mem hform hrange
      omega

lemma isDigit_marked {c : Char} (h : c ∈ ['Σ', 'σ', 'ς', 'İ', 'i']) : isDigit c = false := by
  have htable : (['Σ', 'σ', 'ς', 'İ', 'i'].all fun c => !isDigit c) = true := by decide +kernel
  simpa using List.all_eq_true.mp htable c h

/-- whether a text begins with a digit is seen in its lower-case form -/
theorem isDigit_head?_lower (cs : List Char) :
    (lower cs).head?.map isDigit = cs.head?.map isDigit := by
  cases cs with
  | nil => rfl
  | cons c cs =>
    have hbetween : ∀ before after, ∃ rest d, lowerBetween before c after = d :: rest ∧
        isDigit d = isDigit c := by
      intro before after
      unfold lowerBetween
      split
      · rename_i hsigma
        subst hsigma
        rw [isDigit_marked (by decide)]
        split
        · exact ⟨[], _, rfl, isDigit_marked (by decide)⟩
        · exact ⟨[], _, rfl, isDigit_marked (by decide)⟩
      · split
        · rename_i hdotted
          subst hdotted
          exact ⟨_, _, rfl, (isDigit_marked (by decide)).trans (isDigit_marked (by decide)).symm⟩
        · exact ⟨_, _, rfl, isDigit_lowerChar c⟩
    obtain ⟨rest, d, heq, hdigit⟩ := hbetween [] cs
    rw [lower, lowerFrom, heq, List.cons_append, List.head?_cons, List.head?_cons, Option.map_some,
      Option.map_some, hdigit]

lemma isSimple_of_isDigit {c : Char} (h : isDigit c = true) : IsSimple c := by
  refine ⟨?_, ?_⟩ <;>
  · rintro rfl
    rw [isDigit_marked (by decide)] at h
    cases h

lemma isBlank_of_isDigit {c : Char} (h : isDigit c = true) : isBlank c = false := by
  obtain ⟨range, hrange, hlow, hhigh⟩ := inRanges_iff.mp h
  by_contra hblank
  obtain ⟨blank, hmem, hfirst, hlast⟩ := inRanges_iff.mp (Bool.not_eq_false _ ▸ hblank)
  have hblank : blank ∈ plainRanges :=
    List.mem_append_left _ (List.mem_append_left _ (List.mem_cons_of_mem _ hmem))
  have hapart := apart_of_mem hblank hrange
  omega

end Lamplighter.Text
