import Lamplighter.Proofs.Command.Color
import Lamplighter.Proofs.Command.Names
import Lamplighter.Proofs.Command.Scan

/-!
# Sentences: every sentence that is put together right compiles to its parts

A sentence is put together from an adverb, a verb, names with separators between them, and a clause.
Each part is read by a scan over the whole sentence; none of them is led astray by the other parts.

* `Clause.Fits`          the clause is one that the verb takes;
* `Sentence.IsSound`     the parts of a sentence fit together;
* `Sentence.targets`, `Sentence.effect`   what the sentence says, read off its parts;
* `compile_sentence`     that is what it compiles to.
-/

namespace Lamplighter

open Targets

/-! ### Clauses -/

inductive Clause where
  | nothing
  | state (keyword name : String)
  | levels (keyword first second third : String)
  | color (keyword : String) (words : List String)

namespace Clause

def tokens : Clause → List String
  | nothing => []
  | state keyword name => [keyword, name]
  | levels keyword first second third => [keyword, first, second, third]
  | color keyword words => keyword :: words

def stateName : Clause → Option String
  | state _ name => some name
  | _ => none

/-- the level that a token is read as -/
def level (token : String) : Int :=
  ((readLevel token).toOption).getD 0

/-- the color that is named or given in levels -/
def choice : Clause → ColorChoice
  | levels _ first second third =>
    .levels { first := level first, second := level second, third := level third }
  | color _ words => .name (" ".intercalate words)
  | _ => .name ""

def isLevel (token : String) : Bool :=
  (readLevel token).toOption.isSome

lemma exists_of_isLevel {token : String} (h : isLevel token = true) :
    ∃ n, readLevel token = .ok n := by
  unfold isLevel at h
  cases hread : readLevel token with
  | ok n => exact ⟨n, rfl⟩
  | error fault =>
    rw [hread] at h
    cases h

/-- the clause is one that the verb takes: a name for a state, three numerals or a known color -/
def Fits (verb : Verb) : Clause → Prop
  | nothing => verb ≠ .color ∧ verb ≠ .hsb
  | state keyword _ =>
    (verb = .save ∧ lowerToken keyword = "to") ∨ (verb = .restore ∧ lowerToken keyword = "from")
  | levels keyword first second third =>
    (verb = .color ∨ verb = .hsb) ∧ lowerToken keyword = "in" ∧ startsWithDigit first = true ∧
      isLevel first = true ∧ isLevel second = true ∧ isLevel third = true
  | color keyword words =>
    (verb = .color ∨ verb = .hsb) ∧ lowerToken keyword = "in" ∧ words ≠ [] ∧
      (Color.ofName? (" ".intercalate words)).isSome = true

instance (verb : Verb) : DecidablePred (Fits verb)
  | nothing => inferInstanceAs (Decidable (_ ∧ _))
  | state _ _ => inferInstanceAs (Decidable (_ ∨ _))
  | levels _ _ _ _ => inferInstanceAs (Decidable (_ ∧ _))
  | color _ _ => inferInstanceAs (Decidable (_ ∧ _))

end Clause

/-! ### Sentences -/

structure Sentence where
  adverb : Option String
  word : String
  /-- the names, and the separators among them -/
  span : List String
  clause : Clause

namespace Sentence

/-- what stands before the clause -/
def front (s : Sentence) : List String :=
  s.adverb.toList ++ s.word :: s.span

def tokens (s : Sentence) : List String :=
  s.front ++ s.clause.tokens

/-- the parts of the sentence fit together -/
structure IsSound (s : Sentence) (verb : Verb) : Prop where
  tokens : ∀ token ∈ s.tokens, IsToken token
  adverb : ∀ adverb ∈ s.adverb, isAdverb (lowerToken adverb) = true ∧ verb.takesAdverb = true
  word : Verb.ofWord? (lowerToken s.word) = some verb
  span : ∀ token ∈ s.span, ∀ keyword ∈ verb.stopper, lowerToken token ≠ keyword
  clause : s.clause.Fits verb

instance (s : Sentence) (verb : Verb) : Decidable (s.IsSound verb) :=
  decidable_of_iff
    ((∀ token ∈ s.tokens, IsToken token) ∧
      (∀ adverb ∈ s.adverb, isAdverb (lowerToken adverb) = true ∧ verb.takesAdverb = true) ∧
      Verb.ofWord? (lowerToken s.word) = some verb ∧
      (∀ token ∈ s.span, ∀ keyword ∈ verb.stopper, lowerToken token ≠ keyword) ∧
      s.clause.Fits verb)
    ⟨fun ⟨htokens, hadverb, hword, hspan, hclause⟩ => ⟨htokens, hadverb, hword, hspan, hclause⟩,
      fun h => ⟨h.tokens, h.adverb, h.word, h.span, h.clause⟩⟩

/-- the names in the order in which they are mentioned first, in their first spelling -/
def names (s : Sentence) : List String :=
  distinctNames (s.span.filter fun token => lowerToken token != "and")

/-- no name is given, or the first one is that of every bulb -/
def isForAll (s : Sentence) : Bool :=
  match s.span with
  | [] => true
  | first :: _ => lowerToken first == "all"

def targets (s : Sentence) : Targets :=
  if s.isForAll then .all else .named (s.names.map entryOf)

def key (s : Sentence) : String :=
  if s.isForAll then "all"
  else String.ofList (s.names.flatMap fun name => escapeName (normalName name).toList)

/-- what the verb makes of the color of the clause -/
def paint (s : Sentence) (isRgb : Bool) (speed : Int) : Paint :=
  ((paintOf isRgb speed s.clause.choice).toOption).getD default

def dimming (s : Sentence) (settings : Settings) (speed : Int) : Dimming :=
  { modifier := s.adverb.map lowerToken
    step := stepOf (s.adverb.map lowerToken) settings.stepSize, speed }

/-- what the sentence asks for, at a speed -/
def effect (s : Sentence) (verb : Verb) (settings : Settings) (speed : Option Int) : Effect :=
  match verb with
  | .on => .on
  | .off => .off
  | .save => .save s.clause.stateName
  | .restore => .restore s.clause.stateName speed
  | .color => .color (s.paint true (speed.getD settings.transition))
  | .hsb => .hsb (s.paint false (speed.getD settings.transition))
  | .darker => .darker (s.dimming settings (speed.getD settings.transition))
  | .lighter => .lighter (s.dimming settings (speed.getD settings.transition))
  | .status => .status

/-! ### Scanning -/

lemma indexOf?_of_first {front : List String} {keyword word : String} (rest : List String)
    (hfront : ∀ token ∈ front, lowerToken token ≠ keyword) (hword : lowerToken word = keyword) :
    indexOf? (front ++ word :: rest) keyword = some front.length := by
  have hfirst : indexOf? (word :: rest) keyword = some 0 := by
    simp [indexOf?, List.findIdx?_cons, hword]
  rw [indexOf?_append_of_none (indexOf?_eq_none_iff.mpr hfront), hfirst]
  simp

/-- a verb is no keyword that ends names, and no adverb -/
lemma word_ne_stopper {word : String} {verb other : Verb} (h : Verb.ofWord? word = some verb) :
    ∀ keyword ∈ other.stopper, word ≠ keyword := by
  rintro keyword hkeyword rfl
  have hnone : ∀ v : Verb, ∀ keyword ∈ v.stopper, Verb.ofWord? keyword = none := by
    intro v
    cases v <;> decide +kernel
  rw [hnone other _ hkeyword] at h
  cases h

lemma not_isAdverb {word : String} {verb : Verb} (h : Verb.ofWord? word = some verb) :
    isAdverb word = false := by
  by_contra hadverb
  rw [Bool.not_eq_false, isAdverb, Bool.or_eq_true, beq_iff_eq, beq_iff_eq] at hadverb
  have hmuch : Verb.ofWord? "much" = none := by decide +kernel
  have hlittle : Verb.ofWord? "little" = none := by decide +kernel
  rcases hadverb with rfl | rfl
  · rw [hmuch] at h
    cases h
  · rw [hlittle] at h
    cases h

lemma adverb_ne_stopper {word : String} (h : isAdverb word = true) (verb : Verb) :
    ∀ keyword ∈ verb.stopper, word ≠ keyword := by
  rintro keyword hkeyword rfl
  have hnone : ∀ v : Verb, ∀ keyword ∈ v.stopper, isAdverb keyword = false := by
    intro v
    cases v <;> decide +kernel
  rw [hnone verb _ hkeyword] at h
  cases h

variable {s : Sentence} {verb : Verb}

/-- how many tokens stand before the verb -/
def cursor (s : Sentence) : Nat :=
  s.adverb.toList.length

lemma heads (h : s.IsSound verb) : Heads s.tokens s.cursor verb := by
  unfold tokens front cursor
  cases hadverb : s.adverb with
  | none => exact .plain (not_isAdverb h.word) h.word
  | some adverb =>
    obtain ⟨hmark, htakes⟩ := h.adverb adverb hadverb
    exact .modified hmark h.word htakes

lemma readAdverb?_tokens (h : s.IsSound verb) :
    readAdverb? s.tokens = s.adverb.map lowerToken := by
  unfold tokens front
  cases hadverb : s.adverb with
  | none => exact readAdverb?_of_not (not_isAdverb h.word) _
  | some adverb => exact readAdverb?_of_isAdverb (h.adverb adverb hadverb).1 _

lemma front_ne_stopper (h : s.IsSound verb) {keyword : String} (hkeyword : keyword ∈ verb.stopper) :
    ∀ token ∈ s.front, lowerToken token ≠ keyword := by
  intro token htoken
  rcases List.mem_append.mp htoken with hadverb | hrest
  · exact adverb_ne_stopper (h.adverb token (Option.mem_toList.mp hadverb)).1 verb keyword hkeyword
  · rcases List.mem_cons.mp hrest with rfl | hspan
    · exact word_ne_stopper h.word keyword hkeyword
    · exact h.span token hspan keyword hkeyword

lemma spoken_tokens (h : s.IsSound verb) : spoken s.tokens = s.tokens := by
  refine List.filter_eq_self.mpr fun token htoken => ?_
  have hne := (h.tokens token htoken).ne_nil
  rw [Bool.not_eq_true', ← Bool.not_eq_true, String.isEmpty_iff]
  rintro rfl
  exact hne rfl

/-- the keyword of the clause is the stopper of the verb -/
lemma clause_keyword (h : s.clause.Fits verb) : s.clause.tokens = [] ∨
    ∃ keyword rest, s.clause.tokens = keyword :: rest ∧
      verb.stopper = some (lowerToken keyword) := by
  cases hclause : s.clause with
  | nothing => exact Or.inl rfl
  | state keyword name =>
    rw [hclause] at h
    refine Or.inr ⟨keyword, [name], rfl, ?_⟩
    rcases h with ⟨rfl, hword⟩ | ⟨rfl, hword⟩ <;> simp [hword, Verb.stopper]
  | levels keyword first second third =>
    rw [hclause] at h
    refine Or.inr ⟨keyword, [first, second, third], rfl, ?_⟩
    obtain ⟨rfl | rfl, hword, -⟩ := h <;> simp [hword, Verb.stopper]
  | color keyword words =>
    rw [hclause] at h
    refine Or.inr ⟨keyword, words, rfl, ?_⟩
    obtain ⟨rfl | rfl, hword, -⟩ := h <;> simp [hword, Verb.stopper]

/-- the clause is found right behind the names -/
lemma indexOf?_stopper (h : s.IsSound verb) {keyword : String} (hkeyword : verb.stopper = some keyword) :
    indexOf? s.tokens keyword = if s.clause.tokens = [] then none else some s.front.length := by
  have hfront := front_ne_stopper h hkeyword
  unfold tokens
  rcases clause_keyword h.clause with hnone | ⟨word, rest, hclause, hstop⟩
  · rw [if_pos hnone, hnone, List.append_nil, indexOf?_eq_none_iff]
    exact hfront
  · rw [if_neg (by simp [hclause]), hclause]
    rw [hkeyword] at hstop
    exact indexOf?_of_first rest hfront (Option.some.inj hstop).symm

lemma nameSpan_tokens (h : s.IsSound verb) :
    nameSpan s.tokens (s.cursor + 1) verb.stopper = s.span := by
  have hspan : s.front.drop (s.cursor + 1) = s.span := by
    unfold front cursor
    cases s.adverb <;> rfl
  cases hstop : verb.stopper with
  | none =>
    have hclause : s.clause.tokens = [] := by
      rcases clause_keyword h.clause with hnone | ⟨word, rest, -, hsome⟩
      · exact hnone
      · rw [hstop] at hsome
        cases hsome
    show s.tokens.drop _ = _
    rw [tokens, hclause, List.append_nil, hspan]
  | some keyword =>
    have hindex := indexOf?_stopper h hstop
    unfold nameSpan
    rw [Option.bind_some, hindex]
    by_cases hclause : s.clause.tokens = []
    · rw [if_pos hclause]
      dsimp only
      rw [tokens, hclause, List.append_nil, hspan]
    · rw [if_neg hclause]
      dsimp only
      rw [tokens, List.take_left, hspan]

/-! ### Reading -/

lemma targetsOf_span (s : Sentence) : targetsOf s.span = s.targets := by
  unfold targets names isForAll
  cases s.span with
  | nil => rfl
  | cons first rest =>
    show (if _ then _ else _) = (if _ then _ else _)
    rw [ofNames_eq]

lemma copy_targets (s : Sentence) : s.targets.copy = s.targets := by
  unfold targets names
  split
  · rfl
  · rw [← ofNames_eq, copy_ofNames]

lemma key_targets (s : Sentence) : s.targets.key = s.key := by
  unfold targets key names
  split
  · rfl
  · rw [← ofNames_eq, key_ofNames]

lemma valueAfter?_tokens (h : s.IsSound verb) {keyword : String}
    (hkeyword : verb.stopper = some keyword) (hcolor : verb ≠ .color) (hhsb : verb ≠ .hsb) :
    valueAfter? s.tokens keyword = s.clause.stateName := by
  unfold valueAfter?
  rw [indexOf?_stopper h hkeyword]
  have hfits := h.clause
  cases hclause : s.clause with
  | nothing => rfl
  | state word name =>
    show s.tokens[s.front.length + 1]? = some name
    rw [tokens, hclause, List.getElem?_append_right (by omega)]
    simp [Clause.tokens]
  | levels word first second third =>
    rw [hclause] at hfits
    obtain ⟨rfl | rfl, -⟩ := hfits
    · exact absurd rfl hcolor
    · exact absurd rfl hhsb
  | color word words =>
    rw [hclause] at hfits
    obtain ⟨rfl | rfl, -⟩ := hfits
    · exact absurd rfl hcolor
    · exact absurd rfl hhsb

lemma filter_speed {words : List String} (h : ∀ word ∈ words, isSpeedWord word = false) :
    words.filter (fun word => !isSpeedWord word) = words :=
  List.filter_eq_self.mpr fun word hword => by simp [h word hword]

lemma level_eq {token : String} {n : Int} (h : readLevel token = .ok n) : Clause.level token = n := by
  rw [Clause.level, h]
  rfl

lemma readColor_tokens (h : s.IsSound verb) (hverb : verb = .color ∨ verb = .hsb) :
    readColor s.tokens = .ok s.clause.choice := by
  have hstop : verb.stopper = some "in" := by
    rcases hverb with rfl | rfl <;> rfl
  have hindex := indexOf?_stopper h hstop
  have hfits := h.clause
  have hbehind : ∀ keyword rest, s.clause.tokens = keyword :: rest → rest ≠ [] →
      (∀ word ∈ rest, isSpeedWord word = false) → readColor s.tokens = readColorWords rest := by
    intro keyword rest hclause hrest hspeed
    rw [hclause, if_neg (List.cons_ne_nil _ _)] at hindex
    have hdrop : s.tokens.drop (s.front.length + 1) = rest := by
      rw [tokens, hclause, List.drop_append]
      simp
    unfold readColor
    rw [hindex]
    dsimp only
    rw [hdrop]
    obtain ⟨first, more, rfl⟩ := List.exists_cons_of_ne_nil hrest
    dsimp only
    rw [filter_speed hspeed]
  have hmem : ∀ {keyword rest word}, s.clause.tokens = keyword :: rest → word ∈ rest →
      IsToken word := by
    intro keyword rest word hclause hword
    refine h.tokens word (List.mem_append_right _ ?_)
    rw [hclause]
    exact List.mem_cons_of_mem _ hword
  cases hclause : s.clause with
  | nothing =>
    rw [hclause] at hfits
    rcases hverb with rfl | rfl
    · exact absurd rfl hfits.1
    · exact absurd rfl hfits.2
  | state keyword name =>
    rw [hclause] at hfits
    rcases hverb with rfl | rfl <;> rcases hfits with ⟨hv, -⟩ | ⟨hv, -⟩ <;> cases hv
  | levels keyword first second third =>
    rw [hclause] at hfits
    obtain ⟨-, -, hdigit, hfirst, hsecond, hthird⟩ := hfits
    obtain ⟨a, ha⟩ := Clause.exists_of_isLevel hfirst
    obtain ⟨b, hb⟩ := Clause.exists_of_isLevel hsecond
    obtain ⟨c, hc⟩ := Clause.exists_of_isLevel hthird
    have htokens : s.clause.tokens = keyword :: [first, second, third] := by rw [hclause]; rfl
    have hspeed : ∀ word ∈ [first, second, third], isSpeedWord word = false := by
      intro word hword
      have htoken := hmem htokens hword
      simp only [List.mem_cons, List.not_mem_nil, or_false] at hword
      rcases hword with rfl | rfl | rfl
      · exact isSpeedWord_of_readLevel htoken ha
      · exact isSpeedWord_of_readLevel htoken hb
      · exact isSpeedWord_of_readLevel htoken hc
    rw [hbehind _ _ htokens (List.cons_ne_nil _ _) hspeed, readColorWords_levels hdigit ha hb hc]
    rw [Clause.choice, level_eq ha, level_eq hb, level_eq hc]
  | color keyword words =>
    rw [hclause] at hfits
    obtain ⟨-, -, hne, hknown⟩ := hfits
    obtain ⟨rgb, hrgb⟩ := Option.isSome_iff_exists.mp hknown
    have htokens : s.clause.tokens = keyword :: words := by rw [hclause]; rfl
    have hspeed : ∀ word ∈ words, isSpeedWord word = false := fun word hword =>
      isSpeedWord_of_ofName? (fun other hother => hmem htokens hother) hrgb hword
    rw [hbehind _ _ htokens hne hspeed, readColorWords_name hne hrgb]
    rfl

/-- the color of a fitting clause can be painted with -/
lemma paintOf_choice (h : s.clause.Fits verb) (hverb : verb = .color ∨ verb = .hsb) (isRgb : Bool)
    (speed : Int) : paintOf isRgb speed s.clause.choice = .ok (s.paint isRgb speed) := by
  have hok : ∃ paint, paintOf isRgb speed s.clause.choice = .ok paint := by
    cases hclause : s.clause with
    | color keyword words =>
      rw [hclause] at h
      obtain ⟨-, -, -, hknown⟩ := h
      obtain ⟨rgb, hrgb⟩ := Option.isSome_iff_exists.mp hknown
      rw [Clause.choice, paintOf, resolveName, hrgb]
      exact ⟨_, rfl⟩
    | levels keyword first second third => exact ⟨_, rfl⟩
    | nothing =>
      rw [hclause] at h
      rcases hverb with rfl | rfl
      · exact absurd rfl h.1
      · exact absurd rfl h.2
    | state keyword name =>
      rw [hclause] at h
      rcases hverb with rfl | rfl <;> rcases h with ⟨hv, -⟩ | ⟨hv, -⟩ <;> cases hv
  obtain ⟨paint, hpaint⟩ := hok
  rw [Sentence.paint, hpaint]
  rfl

lemma read_tokens (h : s.IsSound verb) (settings : Settings) : Effect.read verb s.tokens settings
    = .ok (s.effect verb settings (readSpeed? s.tokens)) := by
  have hpaint : ∀ isRgb, verb = .color ∨ verb = .hsb → readPaint s.tokens settings isRgb
      = .ok (s.paint isRgb ((readSpeed? s.tokens).getD settings.transition)) := by
    intro isRgb hverb
    rw [readPaint_eq, readColor_tokens h hverb]
    exact paintOf_choice h.clause hverb isRgb _
  have hdimming : readDimming s.tokens settings
      = s.dimming settings ((readSpeed? s.tokens).getD settings.transition) := by
    rw [readDimming, dimming, readAdverb?_tokens h]
  cases verb with
  | save =>
    rw [Effect.read, effect, valueAfter?_tokens h rfl (by decide) (by decide)]
  | restore =>
    rw [Effect.read, effect, valueAfter?_tokens h rfl (by decide) (by decide)]
  | color =>
    rw [Effect.read, effect, hpaint true (Or.inl rfl)]
    rfl
  | hsb =>
    rw [Effect.read, effect, hpaint false (Or.inr rfl)]
    rfl
  | darker => rw [Effect.read, effect, hdimming]
  | lighter => rw [Effect.read, effect, hdimming]
  | on => rfl
  | off => rfl
  | status => rfl

/-- A sound sentence compiles to what its parts say: the targets are the distinct names, the key is
made of their normal forms, and the effect has what the clause and the adverb say. -/
theorem compile_sentence (s : Sentence) (verb : Verb) (settings : Settings) (h : s.IsSound verb) :
    ∃ action, compile s.tokens settings = .ok action ∧ action.verb = verb ∧
      action.targets = s.targets ∧ action.wanted = s.targets ∧ action.key = s.key ∧
      action.effect = s.effect verb settings (readSpeed? s.tokens) := by
  have hread := read_tokens h settings
  have hcompiles := compile_eq_ok_iff.mpr ⟨s.cursor, verb, _, by
    rw [spoken_tokens h]; exact heads h, by rw [spoken_tokens h]; exact hread, rfl⟩
  rw [spoken_tokens h, nameSpan_tokens h, targetsOf_span] at hcompiles
  refine ⟨_, hcompiles, verb_of_read hread, rfl, copy_targets s, ?_, rfl⟩
  show s.targets.copy.key = s.key
  rw [copy_targets, key_targets]

/-- a lamp that is named twice, in two spellings, with separators after it -/
def barAndHall : Sentence :=
  { adverb := none, word := "RGB", span := ["Bar_2", "AND", "bar_2", "and", "Hall"]
    clause := .color "In" ["Red"] }

/-- The lamp is named once, in its first spelling. -/
theorem compile_sentence_barAndHall : barAndHall.IsSound .color ∧
    barAndHall.targets = .named [("bar_2", "Bar_2"), ("hall", "Hall")] ∧
    ∃ action, compile barAndHall.tokens {} = .ok action ∧ action.verb = .color ∧
      action.targets = barAndHall.targets ∧ action.wanted = barAndHall.targets ∧
      action.key = barAndHall.key ∧
      action.effect = barAndHall.effect .color {} (readSpeed? barAndHall.tokens) := by
  have hsound : barAndHall.IsSound .color := by decide +kernel
  exact ⟨hsound, by decide +kernel, compile_sentence barAndHall .color {} hsound⟩

end Sentence

end Lamplighter
