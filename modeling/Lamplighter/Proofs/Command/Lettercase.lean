import Lamplighter.Proofs.Command.Color
import Lamplighter.Proofs.Command.Key
import Lamplighter.Proofs.Command.Names
import Lamplighter.Proofs.Command.Scan

/-!
# Letter case: a sentence means the same in every letter case

Two lists of tokens are alike here if they have the same lower-case forms, token by token.  Every
scan of a sentence comes to the same on both, up to the letter case of what it takes from them.

* `Agrees`             two results: both are errors of one code, or both are values that are related;
* `Effect.lowered`     an effect with the name of its state or of its color in lower case;
* `read_recased`       what a verb reads from the two lists;
* `isSame_targetsOf`   the targets that they name are the same;
* `compile_recased`    so what they compile to is the same, or both are rejected for the same reason.
-/

namespace Lamplighter

open Text

/-! ### Results -/

/-- both are errors of one code, or both are values that are related -/
inductive Agrees {α β : Type} (related : α → β → Prop) :
    Except CommandError α → Except CommandError β → Prop
  | error {fault fault' : CommandError} (code : fault.code = fault'.code) :
    Agrees related (.error fault) (.error fault')
  | ok {a : α} {b : β} (value : related a b) : Agrees related (.ok a) (.ok b)

namespace Agrees

variable {α β α' β' : Type} {related : α → β → Prop} {related' : α' → β' → Prop}
  {x : Except CommandError α} {y : Except CommandError β}

lemma bind (h : Agrees related x y) {f : α → Except CommandError α'} {g : β → Except CommandError β'}
    (hnext : ∀ a b, related a b → Agrees related' (f a) (g b)) :
    Agrees related' (x.bind f) (y.bind g) := by
  cases h with
  | error code => exact .error code
  | ok value => exact hnext _ _ value

lemma map (h : Agrees related x y) {f : α → α'} {g : β → β'}
    (hvalue : ∀ a b, related a b → related' (f a) (g b)) : Agrees related' (x.map f) (y.map g) := by
  cases h with
  | error code => exact .error code
  | ok value => exact .ok (hvalue _ _ value)

end Agrees

namespace ColorChoice

/-- the color with its name in lower case -/
def lowered : ColorChoice → ColorChoice
  | .levels rgb => .levels rgb
  | .name text => .name (lowerString text)

end ColorChoice

namespace Effect

/-- the effect with the name of its state or of its color in lower case -/
def lowered : Effect → Effect
  | .save stateName => .save (stateName.map lowerString)
  | .restore stateName speed => .restore (stateName.map lowerString) speed
  | .color paint => .color { paint with choice := paint.choice.lowered }
  | .hsb paint => .hsb { paint with choice := paint.choice.lowered }
  | effect => effect

@[simp] lemma verb_lowered (effect : Effect) : effect.lowered.verb = effect.verb := by
  cases effect <;> rfl

end Effect

/-! ### Scans -/

section

variable {tokens others : List String} {token other : String}

lemma indexOf?_eq (tokens : List String) (keyword : String) :
    indexOf? tokens keyword = (tokens.map lowerToken).findIdx? (· == keyword) := by
  rw [indexOf?, List.findIdx?_map]
  rfl

lemma indexOf?_recased (h : tokens.map lowerToken = others.map lowerToken) (keyword : String) :
    indexOf? tokens keyword = indexOf? others keyword := by
  rw [indexOf?_eq, indexOf?_eq, h]

lemma readSpeed?_recased (h : tokens.map lowerToken = others.map lowerToken) :
    readSpeed? tokens = readSpeed? others := by
  unfold readSpeed? hasKeyword
  rw [indexOf?_recased h, indexOf?_recased h]

lemma readAdverb?_recased (h : tokens.map lowerToken = others.map lowerToken) :
    readAdverb? tokens = readAdverb? others := by
  have hscan : ∀ tokens : List String, readAdverb? tokens
      = (tokens.map lowerToken).head?.bind fun t => if isAdverb t then some t else none := by
    intro tokens
    cases tokens <;> rfl
  rw [hscan, hscan, h]

lemma valueAfter?_recased (h : tokens.map lowerToken = others.map lowerToken) (keyword : String) :
    (valueAfter? tokens keyword).map lowerString = (valueAfter? others keyword).map lowerString := by
  have hscan : ∀ tokens : List String, (valueAfter? tokens keyword).map lowerString
      = (indexOf? tokens keyword).bind fun i => (tokens.map lowerToken)[i + 1]? := by
    intro tokens
    rw [valueAfter?, Option.map_bind]
    refine congrArg (Option.bind _) (funext fun i => ?_)
    exact List.getElem?_map.symm
  rw [hscan, hscan, indexOf?_recased h, h]

lemma nameSpan_recased (h : tokens.map lowerToken = others.map lowerToken) (start : Nat)
    (stopper : Option String) : (nameSpan tokens start stopper).map lowerToken
      = (nameSpan others start stopper).map lowerToken := by
  have hscan : stopper.bind (indexOf? tokens) = stopper.bind (indexOf? others) :=
    congrArg (Option.bind stopper) (funext (indexOf?_recased h))
  unfold nameSpan
  rw [hscan]
  cases stopper.bind (indexOf? others) with
  | none => rw [List.map_drop, List.map_drop, h]
  | some stop => rw [List.map_drop, List.map_drop, List.map_take, List.map_take, h]

lemma filter_recased (h : tokens.map lowerToken = others.map lowerToken) (p : String → Bool) :
    (tokens.filter fun t => p (lowerToken t)).map lowerToken
      = (others.filter fun t => p (lowerToken t)).map lowerToken := by
  have hscan : ∀ tokens : List String, (tokens.filter fun t => p (lowerToken t)).map lowerToken
      = (tokens.map lowerToken).filter p := fun tokens => by
    rw [List.filter_map]
    rfl
  rw [hscan, hscan, h]

lemma isEmpty_lowerToken (token : String) : (lowerToken token).isEmpty = token.isEmpty := by
  refine Bool.eq_iff_iff.mpr ?_
  rw [String.isEmpty_iff, String.isEmpty_iff, ← String.toList_eq_nil_iff, toList_lowerToken,
    lower_eq_nil_iff, String.toList_eq_nil_iff]

lemma spoken_recased (h : tokens.map lowerToken = others.map lowerToken) :
    (spoken tokens).map lowerToken = (spoken others).map lowerToken := by
  have hspoken : ∀ tokens, spoken tokens = tokens.filter fun t => !(lowerToken t).isEmpty := by
    intro tokens
    exact List.filter_congr fun t _ => by rw [isEmpty_lowerToken]
  rw [hspoken, hspoken]
  exact filter_recased h fun t => !t.isEmpty

/-! ### Targets -/

lemma lower_eq_of_lowerToken (h : lowerToken token = lowerToken other) :
    lower token.toList = lower other.toList := by
  rw [← toList_lowerToken, ← toList_lowerToken, h]

lemma normalName_recased (h : lowerToken token = lowerToken other) (hsolid : IsSolid token.toList)
    (hsolid' : IsSolid other.toList) : normalName token = normalName other := by
  rw [normalName, normalName, normalChars, normalChars, trim_of_isSolid hsolid,
    trim_of_isSolid hsolid', lower_eq_of_lowerToken h]

lemma map_normalName_recased (h : tokens.map lowerToken = others.map lowerToken)
    (hsolid : ∀ t ∈ tokens, IsSolid t.toList) (hsolid' : ∀ t ∈ others, IsSolid t.toList) :
    tokens.map normalName = others.map normalName := by
  induction tokens generalizing others with
  | nil =>
    obtain rfl := List.map_eq_nil_iff.mp h.symm
    rfl
  | cons token tokens ih =>
    obtain ⟨other, rest, rfl, hother, hrest⟩ := List.map_eq_cons_iff.mp h.symm
    rw [List.map_cons, List.map_cons]
    rw [List.forall_mem_cons] at hsolid hsolid'
    rw [normalName_recased hother.symm hsolid.1 hsolid'.1, ih hrest.symm hsolid.2 hsolid'.2]

namespace Targets

/-- the normal forms of distinct names hang on those of the names alone -/
lemma map_normalName_distinctNames {names more : List String}
    (h : names.map normalName = more.map normalName) :
    (distinctNames names).map normalName = (distinctNames more).map normalName := by
  rw [← eraseDups_map_normalName, ← eraseDups_map_normalName, h]

/-- sets that are the same have one key -/
lemma key_eq_of_isSame {s t : Targets} (h : s.isSame t = true) : s.key = t.key := by
  obtain ⟨hall, hnames⟩ := isSame_iff.mp h
  cases s with
  | all =>
    cases t with
    | all => rfl
    | named entries => cases hall
  | named entries =>
    cases t with
    | all => cases hall
    | named others => rw [key_named, key_named, normalTexts, normalTexts, hnames]

end Targets

lemma copy_targetsOf (span : List String) : (targetsOf span).copy = targetsOf span := by
  unfold targetsOf
  split
  · rfl
  · split
    · rfl
    · exact Targets.copy_ofNames _

/-- the same bulbs are named in every letter case -/
theorem isSame_targetsOf (h : tokens.map lowerToken = others.map lowerToken)
    (hsolid : ∀ t ∈ tokens, IsSolid t.toList) (hsolid' : ∀ t ∈ others, IsSolid t.toList) :
    (targetsOf tokens).isSame (targetsOf others) = true := by
  cases tokens with
  | nil =>
    obtain rfl := List.map_eq_nil_iff.mp h.symm
    rfl
  | cons token tokens =>
    obtain ⟨other, rest, rfl, hother, hrest⟩ := List.map_eq_cons_iff.mp h.symm
    rw [targetsOf, targetsOf, hother]
    split
    · rfl
    · refine Targets.isSame_iff.mpr ⟨rfl, ?_⟩
      rw [Targets.normalNames_ofNames, Targets.normalNames_ofNames]
      refine Targets.map_normalName_distinctNames (map_normalName_recased ?_ ?_ ?_)
      · exact filter_recased h (· != "and")
      · exact fun t ht => hsolid t (List.mem_filter.mp ht).1
      · exact fun t ht => hsolid' t (List.mem_filter.mp ht).1

/-! ### Colors -/

lemma startsWithDigit_recased (h : lowerToken token = lowerToken other) :
    startsWithDigit token = startsWithDigit other := by
  rw [startsWithDigit, startsWithDigit, ← isDigit_head?_lower, lower_eq_of_lowerToken h,
    isDigit_head?_lower]

lemma readLevel_recased (h : lowerToken token = lowerToken other) (hsolid : IsSolid token.toList)
    (hsolid' : IsSolid other.toList) : Agrees (· = ·) (readLevel token) (readLevel other) := by
  unfold readLevel
  rw [trim_of_isSolid hsolid, trim_of_isSolid hsolid', lower_eq_of_lowerToken h]
  dsimp only
  split
  · exact .ok rfl
  · exact .error rfl

lemma toList_intercalate_cons (word second : String) (rest : List String) :
    (" ".intercalate (word :: second :: rest)).toList
      = word.toList ++ ' ' :: (" ".intercalate (second :: rest)).toList := by
  simp [String.intercalate_cons_cons]

/-- words with spaces between them are put into lower case each on its own -/
lemma lower_intercalate (words : List String) : lower (" ".intercalate words).toList
    = (" ".intercalate (words.map lowerToken)).toList := by
  induction words with
  | nil => rfl
  | cons word rest ih =>
    cases rest with
    | nil => simp [toList_lowerToken]
    | cons second rest =>
      rw [toList_intercalate_cons, lower_append_space, ih, ← toList_lowerToken]
      exact (toList_intercalate_cons _ _ _).symm

/-- tokens with spaces between them have no blank at the ends -/
lemma trim_intercalate {words : List String} (h : ∀ word ∈ words, IsToken word) :
    trim (" ".intercalate words).toList = (" ".intercalate words).toList := by
  have hends : words ≠ [] →
      (∃ c rest, (" ".intercalate words).toList = c :: rest ∧ isBlank c = false) ∧
      ∃ front c, (" ".intercalate words).toList = front ++ [c] ∧ isBlank c = false := by
    induction words with
    | nil => exact fun hne => absurd rfl hne
    | cons word rest ih =>
      intro _
      obtain ⟨hword, hrest⟩ := List.forall_mem_cons.mp h
      obtain ⟨c, cs, hfirst⟩ := List.exists_cons_of_ne_nil hword.ne_nil
      have hc := hword.solid c (hfirst ▸ List.mem_cons_self ..)
      cases rest with
      | nil =>
        obtain ⟨front, d, hlast⟩ := (List.eq_nil_or_concat word.toList).resolve_left hword.ne_nil
        have hd := hword.solid d (by simp [hlast])
        exact ⟨⟨c, cs, by simpa using hfirst, hc⟩, front, d, by simpa using hlast, hd⟩
      | cons second rest =>
        obtain ⟨-, front, d, hlast, hd⟩ := ih hrest (List.cons_ne_nil _ _)
        rw [toList_intercalate_cons, hlast]
        exact ⟨⟨c, _, by rw [hfirst]; rfl, hc⟩, word.toList ++ ' ' :: front, d, by simp, hd⟩
  by_cases hne : words = []
  · rw [hne]
    rfl
  · obtain ⟨⟨c, rest, hfirst, hc⟩, front, d, hlast, hd⟩ := hends hne
    rw [trim, hfirst, List.dropWhile_cons_of_neg (by simp [hc]), ← hfirst, hlast, List.reverse_append,
      List.reverse_singleton, List.singleton_append, List.dropWhile_cons_of_neg (by simp [hd])]
    simp

lemma plainName_recased (h : tokens.map lowerToken = others.map lowerToken)
    (htokens : ∀ t ∈ tokens, IsToken t) (htokens' : ∀ t ∈ others, IsToken t) :
    Color.plainName (" ".intercalate tokens) = Color.plainName (" ".intercalate others) := by
  rw [Color.plainName, Color.plainName, trim_intercalate htokens, trim_intercalate htokens',
    lower_intercalate, lower_intercalate, h]

namespace ColorChoice

/-- the same levels, or names of one color that differ in letter case alone -/
inductive IsRecased : ColorChoice → ColorChoice → Prop
  | levels (rgb : Levels) : IsRecased (.levels rgb) (.levels rgb)
  | name {text other : String} (lower : lowerString text = lowerString other)
    (color : Color.ofName? text = Color.ofName? other) : IsRecased (.name text) (.name other)

end ColorChoice

lemma name_recased (h : tokens.map lowerToken = others.map lowerToken)
    (htokens : ∀ t ∈ tokens, IsToken t) (htokens' : ∀ t ∈ others, IsToken t) :
    (ColorChoice.name (" ".intercalate tokens)).IsRecased (.name (" ".intercalate others)) := by
  refine .name ?_ ?_
  · rw [lowerString, lowerString, lower_intercalate, lower_intercalate, h]
  · rw [Color.ofName?, Color.ofName?, plainName_recased h htokens htokens']

lemma readColorWords_recased (h : tokens.map lowerToken = others.map lowerToken)
    (htokens : ∀ t ∈ tokens, IsToken t) (htokens' : ∀ t ∈ others, IsToken t) :
    Agrees ColorChoice.IsRecased (readColorWords tokens) (readColorWords others) := by
  have hname := name_recased h htokens htokens'
  rcases tokens with _ | ⟨a, _ | ⟨b, _ | ⟨c, tokens⟩⟩⟩
  · obtain rfl := List.map_eq_nil_iff.mp h.symm
    exact .error rfl
  · obtain ⟨a', others, rfl, -, hothers⟩ := List.map_eq_cons_iff.mp h.symm
    obtain rfl := List.map_eq_nil_iff.mp hothers
    exact .ok hname
  · obtain ⟨a', others, rfl, -, hothers⟩ := List.map_eq_cons_iff.mp h.symm
    obtain ⟨b', others, rfl, -, hothers⟩ := List.map_eq_cons_iff.mp hothers
    obtain rfl := List.map_eq_nil_iff.mp hothers
    exact .ok hname
  · obtain ⟨a', others, rfl, ha, hothers⟩ := List.map_eq_cons_iff.mp h.symm
    obtain ⟨b', others, rfl, hb, hothers⟩ := List.map_eq_cons_iff.mp hothers
    obtain ⟨c', others, rfl, hc, hothers⟩ := List.map_eq_cons_iff.mp hothers
    simp only [List.forall_mem_cons] at htokens htokens'
    obtain ⟨hta, htb, htc, -⟩ := htokens
    obtain ⟨hta', htb', htc', -⟩ := htokens'
    rw [readColorWords, readColorWords, startsWithDigit_recased ha]
    split
    · refine (readLevel_recased ha.symm hta.solid hta'.solid).bind fun first _ hfirst => ?_
      refine (readLevel_recased hb.symm htb.solid htb'.solid).bind fun second _ hsecond => ?_
      refine (readLevel_recased hc.symm htc.solid htc'.solid).bind fun third _ hthird => ?_
      subst hfirst hsecond hthird
      exact .ok (.levels _)
    · exact .ok hname

lemma readColor_recased (h : tokens.map lowerToken = others.map lowerToken)
    (htokens : ∀ t ∈ tokens, IsToken t) (htokens' : ∀ t ∈ others, IsToken t) :
    Agrees ColorChoice.IsRecased (readColor tokens) (readColor others) := by
  unfold readColor
  rw [indexOf?_recased h]
  cases indexOf? others "in" with
  | none => exact .error rfl
  | some i =>
    dsimp only
    have hdrop : (tokens.drop (i + 1)).map lowerToken = (others.drop (i + 1)).map lowerToken := by
      rw [List.map_drop, List.map_drop, h]
    have hkept : ∀ t ∈ tokens.drop (i + 1), IsToken t := fun t ht => htokens t (List.mem_of_mem_drop ht)
    have hkept' : ∀ t ∈ others.drop (i + 1), IsToken t :=
      fun t ht => htokens' t (List.mem_of_mem_drop ht)
    generalize tokens.drop (i + 1) = clause at hdrop hkept
    generalize others.drop (i + 1) = clause' at hdrop hkept'
    cases clause with
    | nil =>
      obtain rfl := List.map_eq_nil_iff.mp hdrop.symm
      exact .error rfl
    | cons word rest =>
      obtain ⟨word', rest', rfl, -⟩ := List.map_eq_cons_iff.mp hdrop.symm
      refine readColorWords_recased ?_ (fun t ht => hkept t (List.mem_filter.mp ht).1)
        fun t ht => hkept' t (List.mem_filter.mp ht).1
      exact filter_recased hdrop fun t => !(t == "quickly" || t == "slowly")

/-! ### Effects -/

lemma readPaint_recased (h : tokens.map lowerToken = others.map lowerToken)
    (htokens : ∀ t ∈ tokens, IsToken t) (htokens' : ∀ t ∈ others, IsToken t) (settings : Settings)
    (isRgb : Bool) {make : Paint → Effect} (hmake : make = .color ∨ make = .hsb) :
    Agrees (fun effect effect' => effect.lowered = effect'.lowered)
      ((readPaint tokens settings isRgb).map make) ((readPaint others settings isRgb).map make) := by
  have hlowered : ∀ paint paint' : Paint, paint.choice.lowered = paint'.choice.lowered →
      { paint with choice := .levels default } = { paint' with choice := .levels default } →
      (make paint).lowered = (make paint').lowered := by
    rintro ⟨choice, tint, speed, rgb⟩ ⟨choice', tint', speed', rgb'⟩ hchoice hrest
    simp only [Paint.mk.injEq, true_and] at hrest
    obtain ⟨rfl, rfl, rfl⟩ := hrest
    rcases hmake with rfl | rfl <;> simp only [Effect.lowered, hchoice]
  have hpaint : Agrees (fun paint paint' => (make paint).lowered = (make paint').lowered)
      (readPaint tokens settings isRgb) (readPaint others settings isRgb) := by
    rw [readPaint_eq, readPaint_eq, readSpeed?_recased h]
    refine (readColor_recased h htokens htokens').bind ?_
    rintro choice choice' (⟨rgb⟩ | ⟨hlower, hcolor⟩)
    · exact .ok rfl
    · rw [paintOf, paintOf, resolveName, resolveName, hcolor]
      split
      · exact .ok (hlowered _ _ (congrArg ColorChoice.name hlower) rfl)
      · exact .error rfl
  exact hpaint.map fun _ _ => id

theorem read_recased (h : tokens.map lowerToken = others.map lowerToken)
    (htokens : ∀ t ∈ tokens, IsToken t) (htokens' : ∀ t ∈ others, IsToken t) (settings : Settings)
    (verb : Verb) : Agrees (fun effect effect' => effect.lowered = effect'.lowered)
      (Effect.read verb tokens settings) (Effect.read verb others settings) := by
  have hdimming : readDimming tokens settings = readDimming others settings := by
    rw [readDimming, readDimming, readAdverb?_recased h, readSpeed?_recased h]
  cases verb with
  | on => exact .ok rfl
  | off => exact .ok rfl
  | save => exact .ok (congrArg Effect.save (valueAfter?_recased h "to"))
  | restore =>
    refine .ok ?_
    rw [Effect.lowered, Effect.lowered, valueAfter?_recased h, readSpeed?_recased h]
  | color => exact readPaint_recased h htokens htokens' settings true (.inl rfl)
  | hsb => exact readPaint_recased h htokens htokens' settings false (.inr rfl)
  | darker => exact .ok (congrArg Effect.lowered (congrArg Effect.darker hdimming))
  | lighter => exact .ok (congrArg Effect.lowered (congrArg Effect.lighter hdimming))
  | status => exact .ok rfl

end

/-! ### Actions -/

/-- Two actions with the same verb and parameters, but that the name of a state or of a color may
differ in letter case, for the same targets, which are kept under the same key. -/
structure Action.IsRecased (action other : Action) : Prop where
  verb : action.verb = other.verb
  effect : action.effect.lowered = other.effect.lowered
  targets : action.targets.isSame other.targets = true
  wanted : action.wanted.isSame other.wanted = true
  key : action.key = other.key

lemma compileVerb_recased {tokens others : List String} (h : tokens.map lowerToken = others.map lowerToken)
    (htokens : ∀ t ∈ tokens, IsToken t) (htokens' : ∀ t ∈ others, IsToken t) (settings : Settings)
    (cursor : Nat) (verb : Verb) : Agrees Action.IsRecased (compileVerb tokens settings cursor verb)
      (compileVerb others settings cursor verb) := by
  refine (read_recased h htokens htokens' settings verb).bind fun effect effect' heffect => .ok ?_
  rw [show ((cursor : Int) + 1) = ((cursor + 1 : Nat) : Int) by simp, readTargets_eq, readTargets_eq]
  have hspan : ∀ {tokens : List String}, (∀ t ∈ tokens, IsToken t) →
      ∀ t ∈ nameSpan tokens (cursor + 1) verb.stopper, IsSolid t.toList := by
    intro tokens htokens t ht
    refine (htokens t ?_).solid
    unfold nameSpan at ht
    split at ht
    · exact List.mem_of_mem_take (List.mem_of_mem_drop ht)
    · exact List.mem_of_mem_drop ht
  have hsame := isSame_targetsOf (nameSpan_recased h (cursor + 1) verb.stopper) (hspan htokens)
    (hspan htokens')
  refine ⟨?_, heffect, hsame, ?_, ?_⟩
  · show effect.verb = effect'.verb
    rw [← Effect.verb_lowered, heffect, Effect.verb_lowered]
  · show (targetsOf _).copy.isSame (targetsOf _).copy = true
    rwa [copy_targetsOf, copy_targetsOf]
  · show (targetsOf _).copy.key = (targetsOf _).copy.key
    rw [copy_targetsOf, copy_targetsOf, Targets.key_eq_of_isSame hsame]

lemma compileTokens_of_none {word : String} {rest : List String} {settings : Settings}
    (h : readAdverb? (word :: rest) = none) : compileTokens (word :: rest) settings
      = match Verb.ofWord? (lowerToken word) with
        | none => .error (.unknownVerb word (word :: rest))
        | some verb => compileVerb (word :: rest) settings 0 verb := by
  unfold compileTokens
  rw [h]
  cases rest <;> rfl

lemma compileTokens_recased {tokens others : List String}
    (h : tokens.map lowerToken = others.map lowerToken)
    (htokens : ∀ t ∈ tokens, IsToken t) (htokens' : ∀ t ∈ others, IsToken t) (settings : Settings) :
    Agrees Action.IsRecased (compileTokens tokens settings) (compileTokens others settings) := by
  have hverb := compileVerb_recased h htokens htokens' settings
  have hadverb := readAdverb?_recased h
  rcases tokens with _ | ⟨first, tokens⟩
  · obtain rfl := List.map_eq_nil_iff.mp h.symm
    exact .error rfl
  obtain ⟨first', others, rfl, hfirst, hrest⟩ := List.map_eq_cons_iff.mp h.symm
  cases hread : readAdverb? (first' :: others) with
  | none =>
    rw [compileTokens_of_none (hadverb.trans hread), compileTokens_of_none hread, hfirst]
    split
    · exact .error rfl
    · exact hverb 0 _
  | some adverb =>
    rcases tokens with _ | ⟨word, tokens⟩
    · obtain rfl := List.map_eq_nil_iff.mp hrest
      unfold compileTokens
      rw [hadverb, hread]
      exact .error rfl
    obtain ⟨word', others, rfl, hword, -⟩ := List.map_eq_cons_iff.mp hrest
    unfold compileTokens
    rw [hadverb, hread]
    dsimp only
    rw [hword]
    split
    · exact .error rfl
    · split
      · exact hverb 1 _
      · exact .error rfl

/-- Sentences whose tokens agree in lower case, one by one, are both rejected with the same code, or
both compile to the same action, up to the letter case of the name of a state or of a color. -/
theorem compile_recased (tokens others : List String) (settings : Settings)
    (hsolid : ∀ t ∈ tokens, IsSolid t.toList) (hsolid' : ∀ t ∈ others, IsSolid t.toList)
    (hsame : tokens.map lowerToken = others.map lowerToken) :
    Agrees Action.IsRecased (compile tokens settings) (compile others settings) := by
  have htokens : ∀ {tokens : List String}, (∀ t ∈ tokens, IsSolid t.toList) →
      ∀ t ∈ spoken tokens, IsToken t := by
    intro tokens hsolid t ht
    obtain ⟨hmem, hne⟩ := List.mem_filter.mp ht
    exact ⟨by simpa using hne, hsolid t hmem⟩
  exact compileTokens_recased (spoken_recased hsame) (htokens hsolid) (htokens hsolid') settings

def shouted : List String := ["HSB", "ΟΔΟΣ", "IN", "Light", "BLUE"]

def murmured : List String := ["hsb", "Οδος", "In", "light", "Blue"]

/-- a sigma at the end of a name has two small forms, and a color may be shouted -/
theorem compile_recased_odos :
    (∀ t ∈ shouted, IsSolid t.toList) ∧ (∀ t ∈ murmured, IsSolid t.toList) ∧
    shouted.map lowerToken = murmured.map lowerToken ∧ (compile shouted {}).isOk = true ∧
    Agrees Action.IsRecased (compile shouted {}) (compile murmured {}) := by
  have hsolid : ∀ t ∈ shouted, IsSolid t.toList := by decide +kernel
  have hsolid' : ∀ t ∈ murmured, IsSolid t.toList := by decide +kernel
  have hlower : shouted.map (fun t => lower t.toList) = murmured.map fun t => lower t.toList := by
    decide +kernel
  have hsame : shouted.map lowerToken = murmured.map lowerToken := by
    have hmapped := congrArg (List.map String.ofList) hlower
    rwa [List.map_map, List.map_map] at hmapped
  have hok : (compile shouted {}).isOk = true := by decide +kernel
  exact ⟨hsolid, hsolid', hsame, hok,
    compile_recased shouted murmured {} hsolid hsolid' hsame⟩

end Lamplighter
