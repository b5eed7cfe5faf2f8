import Lamplighter.Proofs.Command.Sentence
import Lamplighter.Proofs.Command.Speed
import Lamplighter.Proofs.Snapshot.Store

/-!
# Keeping: sentences that save and restore

A sentence that saves and one that restores differ in their verb and in the keyword before the name
of the state.  No name may be one of the two keywords, or one of the sentences would end there.

* `keeping`            the tokens of such a sentence;
* `scan_keeping`       the scans for the names and for the name of the state find just these;
* `compile_save`, `compile_restore_speed`, `compile_restore`   so both sentences compile, and are about the same targets and
                       the same state.
-/

namespace Lamplighter

open Snapshot (title)

/-- a verb, names, and maybe the name of a state behind a keyword -/
def keeping (word : String) (names : List String) (keyword : String) : Option String → List String
  | none => word :: names
  | some name => word :: names ++ [keyword, name]

section

variable {word keyword : String} {names : List String}

lemma spoken_cons {token : String} (h : lowerToken token ≠ "") (rest : List String) :
    spoken (token :: rest) = token :: spoken rest := by
  refine List.filter_cons_of_pos ?_
  rw [Bool.not_eq_true', ← Bool.not_eq_true, String.isEmpty_iff]
  rintro rfl
  exact h (by decide +kernel)

/-- the empty name is left out, and stands for none anyway -/
lemma title_spoken (name : String) : title (spoken [name])[0]? = title (some name) := by
  by_cases hempty : name = ""
  · rw [hempty]
    rfl
  · have hkept : spoken [name] = [name] := by
      refine List.filter_cons_of_pos ?_
      rwa [Bool.not_eq_true', ← Bool.not_eq_true, String.isEmpty_iff]
    rw [hkept]
    rfl

/-- the clause ends the names, and what is behind its keyword is the name of the state -/
lemma scan_keeping (name : Option String) {stop : String} (hstop : stop ≠ "") (hword : lowerToken word ≠ "")
    (hverb : lowerToken word ≠ stop) (hkeyword : lowerToken keyword = stop)
    (hnames : ∀ n ∈ names, lowerToken n ≠ stop) :
    nameSpan (spoken (keeping word names keyword name)) 1 (some stop) = spoken names ∧
      title (valueAfter? (spoken (keeping word names keyword name)) stop) = title name := by
  have hfront : ∀ token ∈ word :: spoken names, lowerToken token ≠ stop := by
    intro token htoken
    rcases List.mem_cons.mp htoken with rfl | htoken
    · exact hverb
    · exact hnames token (List.mem_filter.mp htoken).1
  cases name with
  | none =>
    have htokens : spoken (keeping word names keyword none) = word :: spoken names :=
      spoken_cons hword names
    have hindex := indexOf?_eq_none_iff.mpr hfront
    rw [htokens, nameSpan, valueAfter?, Option.bind_some, hindex]
    exact ⟨rfl, rfl⟩
  | some name =>
    have htokens : spoken (keeping word names keyword (some name))
        = word :: spoken names ++ keyword :: spoken [name] := by
      rw [← spoken_cons hword, ← spoken_cons (hkeyword ▸ hstop)]
      exact List.filter_append ..
    have hindex := Sentence.indexOf?_of_first (spoken [name]) hfront hkeyword
    have hbehind : (word :: spoken names ++ keyword :: spoken [name])[(word :: spoken names).length + 1]?
        = (spoken [name])[0]? := by
      rw [List.getElem?_append_right (Nat.le_succ _)]
      simp
    rw [htokens, nameSpan, valueAfter?, Option.bind_some, hindex, Option.bind_some, hbehind]
    refine ⟨?_, title_spoken name⟩
    dsimp only
    rw [List.take_left]
    rfl

/-- a sentence that begins with such a verb compiles -/
lemma compile_keeping (name : Option String) (settings : Settings) {verb : Verb} {stop : String}
    (hverb : verb.stopper = some stop) (hword : lowerToken word = verb.word)
    (hkeyword : lowerToken keyword = stop) (hnames : ∀ n ∈ names, lowerToken n ≠ stop)
    {effect : Effect}
    (hread : Effect.read verb (spoken (keeping word names keyword name)) settings = .ok effect) :
    ∃ action, compile (keeping word names keyword name) settings = .ok action ∧
      action.effect = effect ∧ action.targets = targetsOf (spoken names) ∧
      title (valueAfter? (spoken (keeping word names keyword name)) stop) = title name := by
  have hnamed : Verb.ofWord? (lowerToken word) = some verb := by
    rw [hword]
    exact Verb.ofWord?_word verb
  have hne : lowerToken word ≠ "" := by
    rw [hword]
    cases verb <;> decide +kernel
  have hstop : stop ≠ "" := by
    rintro rfl
    cases verb <;> simp [Verb.stopper] at hverb
  obtain ⟨hspan, htitle⟩ := scan_keeping name hstop hne
    (Sentence.word_ne_stopper hnamed stop hverb) hkeyword hnames
  have hheads : Heads (spoken (keeping word names keyword name)) 0 verb := by
    obtain ⟨rest, hrest⟩ : ∃ rest, spoken (keeping word names keyword name) = word :: rest := by
      cases name with
      | none => exact ⟨_, spoken_cons hne _⟩
      | some name => exact ⟨_, spoken_cons hne _⟩
    rw [hrest]
    exact .plain (Sentence.not_isAdverb hnamed) hnamed
  refine ⟨_, compile_eq_ok_iff.mpr ⟨0, verb, effect, hheads, hread, rfl⟩, rfl, ?_, htitle⟩
  rw [hverb]
  exact congrArg targetsOf hspan

/-- a sentence that saves -/
theorem compile_save (name : Option String) (hword : lowerToken word = "save")
    (hkeyword : lowerToken keyword = "to") (hnames : ∀ n ∈ names, lowerToken n ≠ "to")
    (settings : Settings) :
    ∃ action given, compile (keeping word names keyword name) settings = .ok action ∧
      action.effect = .save given ∧ title given = title name ∧
      action.targets = targetsOf (spoken names) := by
  have hstop : Verb.save.stopper = some "to" := rfl
  obtain ⟨action, hcompile, heffect, htargets, htitle⟩ :=
    compile_keeping name settings hstop hword hkeyword hnames rfl
  exact ⟨action, _, hcompile, heffect, htitle, htargets⟩

/-- a sentence that restores -/
theorem compile_restore_speed (name : Option String) (hword : lowerToken word = "restore")
    (hkeyword : lowerToken keyword = "from") (hnames : ∀ n ∈ names, lowerToken n ≠ "from")
    (settings : Settings) :
    ∃ action given, compile (keeping word names keyword name) settings = .ok action ∧
      action.effect = .restore given (readSpeed? (spoken (keeping word names keyword name))) ∧
      title given = title name ∧ action.targets = targetsOf (spoken names) := by
  have hstop : Verb.restore.stopper = some "from" := rfl
  obtain ⟨action, hcompile, heffect, htargets, htitle⟩ :=
    compile_keeping name settings hstop hword hkeyword hnames rfl
  exact ⟨action, _, hcompile, heffect, htitle, htargets⟩

/-- a sentence that restores, without a speed word -/
theorem compile_restore (name : Option String) (hword : lowerToken word = "restore")
    (hkeyword : lowerToken keyword = "from") (hnames : ∀ n ∈ names, lowerToken n ≠ "from")
    (hplain : readSpeed? (keeping word names keyword name) = none) (settings : Settings) :
    ∃ action given, compile (keeping word names keyword name) settings = .ok action ∧
      action.effect = .restore given none ∧ title given = title name ∧
      action.targets = targetsOf (spoken names) := by
  obtain ⟨action, given, hcompile, heffect, htitle, htargets⟩ :=
    compile_restore_speed name hword hkeyword hnames settings
  rw [readSpeed?_spoken hplain] at heffect
  exact ⟨action, given, hcompile, heffect, htitle, htargets⟩

end

end Lamplighter
