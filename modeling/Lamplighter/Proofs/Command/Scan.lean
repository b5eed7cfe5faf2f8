import Mathlib.Data.List.Basic
import Lamplighter.Command.Action

/-!
# Scans: what each part of a sentence is read from

* `indexOf?_append`, `hasKeyword_append`   a keyword is found in the first of two parts that has it;
* `targetsOf`, `nameSpan`   the targets are read from the span between the verb and the stopper;
* `Heads`                   a sentence begins with a verb, maybe behind an adverb;
* `compile_eq_ok_iff`       a sentence compiles when it begins with a verb whose effect can be read.
-/

namespace Lamplighter

/-! ### Keywords -/

lemma indexOf?_append (xs ys : List String) (keyword : String) :
    indexOf? (xs ++ ys) keyword
      = (indexOf? xs keyword).or ((indexOf? ys keyword).map (· + xs.length)) :=
  List.findIdx?_append

lemma indexOf?_eq_none_iff {tokens : List String} {keyword : String} :
    indexOf? tokens keyword = none ↔ ∀ t ∈ tokens, lowerToken t ≠ keyword := by
  simp [indexOf?]

lemma indexOf?_append_of_none {xs : List String} {keyword : String}
    (h : indexOf? xs keyword = none) (ys : List String) :
    indexOf? (xs ++ ys) keyword = (indexOf? ys keyword).map (· + xs.length) := by
  rw [indexOf?_append, h, Option.none_or]

lemma lt_length_of_indexOf? {tokens : List String} {keyword : String} {i : Nat}
    (h : indexOf? tokens keyword = some i) : i < tokens.length :=
  (List.findIdx?_eq_some_iff_findIdx_eq.mp h).1

lemma hasKeyword_append (xs ys : List String) (keyword : String) :
    hasKeyword (xs ++ ys) keyword = (hasKeyword xs keyword || hasKeyword ys keyword) := by
  simp [hasKeyword, indexOf?_append, Option.isSome_or]

/-! ### Names -/

/-- the targets that the tokens of a span name -/
def targetsOf : List String → Targets
  | [] => .all
  | first :: rest =>
    if lowerToken first == "all" then .all
    else .ofNames ((first :: rest).filter fun t => lowerToken t != "and")

/-- the tokens behind the first ones, up to the stopper -/
def nameSpan (tokens : List String) (start : Nat) (stopper : Option String) : List String :=
  match stopper.bind (indexOf? tokens) with
  | some stop => (tokens.take stop).drop start
  | none => tokens.drop start

lemma drop_clampIndex (tokens : List String) (stop start : Nat) :
    (tokens.take stop).drop (clampIndex tokens.length start) = (tokens.take stop).drop start := by
  have hclamp : clampIndex tokens.length start = min start tokens.length := by
    unfold clampIndex
    rw [if_neg (by omega), Int.toNat_natCast]
  have hlength : (tokens.take stop).length ≤ tokens.length := List.length_take_le' ..
  rcases Nat.le_total start tokens.length with h | h
  · rw [hclamp, Nat.min_eq_left h]
  · rw [hclamp, Nat.min_eq_right h, List.drop_of_length_le (by omega),
      List.drop_of_length_le (by simp; omega)]

lemma readTargets_none (tokens : List String) (start : Nat) :
    readTargets tokens start none = targetsOf (tokens.drop start) := by
  have hdrop := drop_clampIndex tokens tokens.length start
  rw [List.take_length] at hdrop
  rw [← hdrop]
  unfold readTargets
  dsimp only
  rw [List.take_length]
  rfl

lemma readTargets_some (tokens : List String) (start : Nat) {keyword : String}
    (hkeyword : keyword.isEmpty = false) : readTargets tokens start (some keyword)
      = targetsOf ((tokens.take ((indexOf? tokens keyword).getD tokens.length)).drop start) := by
  rw [← drop_clampIndex]
  unfold readTargets
  simp only [hkeyword]
  rfl

lemma readTargets_eq (tokens : List String) (start : Nat) (verb : Verb) :
    readTargets tokens start verb.stopper = targetsOf (nameSpan tokens start verb.stopper) := by
  have hsome : ∀ keyword : String, keyword.isEmpty = false →
      readTargets tokens start (some keyword)
        = targetsOf (nameSpan tokens start (some keyword)) := by
    intro keyword hkeyword
    rw [readTargets_some tokens start hkeyword]
    unfold nameSpan
    cases h : indexOf? tokens keyword with
    | none => simp [h]
    | some stop => simp [h]
  cases verb with
  | save | restore | color | hsb => exact hsome _ (by decide +kernel)
  | _ => exact readTargets_none tokens start

/-! ### Colors -/

/-- what a color verb makes of a color -/
def paintOf (isRgb : Bool) (speed : Int) : ColorChoice → Except CommandError Paint
  | .name name => (resolveName name).map fun rgb =>
      { choice := .name name, tint := tintOf rgb, speed, rgb := some rgb }
  | .levels levels => .ok
      { choice := .levels levels, tint := if isRgb then tintOf levels else .hued levels, speed
        rgb := if isRgb then some levels else none }

lemma readPaint_eq (tokens : List String) (settings : Settings) (isRgb : Bool) :
    readPaint tokens settings isRgb = (readColor tokens).bind
      (paintOf isRgb ((readSpeed? tokens).getD settings.transition)) := by
  unfold readPaint
  cases readColor tokens with
  | error fault => simp [bind, Except.bind]
  | ok choice =>
    cases choice with
    | name name =>
      cases h : resolveName name <;>
        simp [bind, Except.bind, paintOf, h, pure, Except.pure, Except.map]
    | levels levels =>
      cases isRgb <;> simp [bind, Except.bind, paintOf, pure, Except.pure]

lemma paintOf_speed {isRgb : Bool} {speed other : Int} {choice : ColorChoice} {paint : Paint}
    (h : paintOf isRgb speed choice = .ok paint) :
    paintOf isRgb other choice = .ok { paint with speed := other } := by
  unfold paintOf at h ⊢
  split at h
  · cases hname : resolveName _ with
    | error fault =>
      rw [hname] at h
      cases h
    | ok rgb =>
      rw [hname] at h
      obtain rfl := Except.ok.inj h
      rfl
  · obtain rfl := Except.ok.inj h
    rfl

/-! ### Verbs -/

/-- the sentence begins with the verb, in the given place: at the front, or behind an adverb that the
verb takes -/
inductive Heads : List String → Nat → Verb → Prop
  | plain {word : String} {rest : List String} {verb : Verb} (hword : isAdverb (lowerToken word) = false)
      (hverb : Verb.ofWord? (lowerToken word) = some verb) : Heads (word :: rest) 0 verb
  | modified {adverb word : String} {rest : List String} {verb : Verb}
      (hadverb : isAdverb (lowerToken adverb) = true)
      (hverb : Verb.ofWord? (lowerToken word) = some verb) (htakes : verb.takesAdverb = true) :
      Heads (adverb :: word :: rest) 1 verb

namespace Heads

variable {tokens : List String} {cursor : Nat} {verb : Verb}

lemma append (h : Heads tokens cursor verb) (more : List String) :
    Heads (tokens ++ more) cursor verb := by
  cases h with
  | plain hword hverb => exact plain hword hverb
  | modified hadverb hverb htakes => exact modified hadverb hverb htakes

lemma cursor_lt (h : Heads tokens cursor verb) : cursor + 1 ≤ tokens.length := by
  cases h <;> simp

lemma readAdverb?_append (h : Heads tokens cursor verb) (more : List String) :
    readAdverb? (tokens ++ more) = readAdverb? tokens := by
  cases h <;> rfl

end Heads

lemma readAdverb?_of_isAdverb {word : String} (h : isAdverb (lowerToken word) = true)
    (rest : List String) : readAdverb? (word :: rest) = some (lowerToken word) := by
  simp [readAdverb?, h]

lemma readAdverb?_of_not {word : String} (h : isAdverb (lowerToken word) = false)
    (rest : List String) : readAdverb? (word :: rest) = none := by
  simp [readAdverb?, h]

/-! ### Compiling -/

theorem compileVerb_eq_ok_iff {tokens : List String} {settings : Settings} {cursor : Nat}
    {verb : Verb} {action : Action} :
    compileVerb tokens settings cursor verb = .ok action ↔
      ∃ effect, Effect.read verb tokens settings = .ok effect ∧
        action = { command := " ".intercalate tokens, effect
                   targets := targetsOf (nameSpan tokens (cursor + 1) verb.stopper) } := by
  unfold compileVerb
  rw [show ((cursor : Int) + 1) = ((cursor + 1 : Nat) : Int) by simp, readTargets_eq]
  cases Effect.read verb tokens settings with
  | error fault => simp [bind, Except.bind]
  | ok effect => simp [bind, Except.bind, pure, Except.pure, eq_comm]

/-- tokens that begin with a verb are compiled as the verb says -/
lemma compileTokens_of_heads {tokens : List String} {cursor : Nat} {verb : Verb}
    (h : Heads tokens cursor verb) (settings : Settings) :
    compileTokens tokens settings = compileVerb tokens settings cursor verb := by
  unfold compileTokens
  cases h with
  | plain hword hverb => simp only [readAdverb?_of_not hword, hverb]
  | modified hadverb hverb htakes =>
    simp only [readAdverb?_of_isAdverb hadverb, hverb, htakes, ↓reduceIte]

theorem compileTokens_eq_ok_iff {tokens : List String} {settings : Settings} {action : Action} :
    compileTokens tokens settings = .ok action ↔
      ∃ cursor verb, Heads tokens cursor verb ∧
        compileVerb tokens settings cursor verb = .ok action := by
  constructor
  · intro h
    unfold compileTokens at h
    split at h
    · cases h
    · cases h
    · rename_i adverb word rest mark hmark
      have hadverb : isAdverb (lowerToken adverb) = true := by
        by_contra hnot
        rw [readAdverb?_of_not (by simpa using hnot)] at hmark
        cases hmark
      split at h
      · cases h
      · rename_i verb hverb
        split at h
        · rename_i htakes
          exact ⟨1, verb, .modified hadverb hverb htakes, h⟩
        · cases h
    · rename_i word rest hmark
      have hword : isAdverb (lowerToken word) = false := by
        by_contra hnot
        rw [readAdverb?_of_isAdverb (by simpa using hnot)] at hmark
        cases hmark
      split at h
      · cases h
      · rename_i verb hverb
        exact ⟨0, verb, .plain hword hverb, h⟩
  · rintro ⟨cursor, verb, hheads, h⟩
    rw [compileTokens_of_heads hheads]
    exact h

/-- the tokens that a sentence is compiled from -/
def spoken (tokens : List String) : List String :=
  tokens.filter fun t => !t.isEmpty

/-- A sentence compiles when it begins with a verb whose effect can be read from it; the targets are
those of its span. -/
theorem compile_eq_ok_iff {tokens : List String} {settings : Settings} {action : Action} :
    compile tokens settings = .ok action ↔
      ∃ cursor verb effect, Heads (spoken tokens) cursor verb ∧
        Effect.read verb (spoken tokens) settings = .ok effect ∧
        action = { command := " ".intercalate (spoken tokens), effect
                   targets := targetsOf (nameSpan (spoken tokens) (cursor + 1) verb.stopper) } := by
  show compileTokens (spoken tokens) settings = .ok action ↔ _
  simp only [compileTokens_eq_ok_iff, compileVerb_eq_ok_iff]
  constructor
  · rintro ⟨cursor, verb, hheads, effect, hread, haction⟩
    exact ⟨cursor, verb, effect, hheads, hread, haction⟩
  · rintro ⟨cursor, verb, effect, hheads, hread, haction⟩
    exact ⟨cursor, verb, hheads, effect, hread, haction⟩

lemma verb_of_read {verb : Verb} {tokens : List String} {settings : Settings} {effect : Effect}
    (h : Effect.read verb tokens settings = .ok effect) : effect.verb = verb := by
  have hmap : ∀ {make : Paint → Effect} {result : Except CommandError Paint},
      result.map make = .ok effect → ∃ paint, effect = make paint := by
    intro make result hmap
    cases result with
    | error fault => cases hmap
    | ok paint => exact ⟨paint, (Except.ok.inj hmap).symm⟩
  cases verb with
  | color =>
    obtain ⟨paint, rfl⟩ := hmap h
    rfl
  | hsb =>
    obtain ⟨paint, rfl⟩ := hmap h
    rfl
  | _ =>
    obtain rfl := Except.ok.inj h
    rfl

end Lamplighter
