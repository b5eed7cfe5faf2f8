import Lamplighter.Proofs.Command.Scan

/-!
# Speed: what a speed word at the end of a sentence does

Every part of a sentence is read by a scan of its own, and only the scan for the color leaves speed
words out.  So a speed word at the end may also be taken for a name, when no clause ends the names,
or for a state name, when the clause has none.

* `Effect.atSpeed`        an effect with another transition time;
* `Action.IsRounded`      the clause of the sentence has a value, or the last word is named already;
* `compile_append_speed`  a speed word behind a sentence sets the speed, and nothing else just when
                          the sentence is rounded.
-/

namespace Lamplighter

/-! ### Speed words -/

/-- the word asks for the transition time -/
def AsksFor (word : String) (speed : Int) : Prop :=
  (lowerToken word = "quickly" ∧ speed = 0) ∨ (lowerToken word = "slowly" ∧ speed = 10000)

namespace AsksFor

variable {word : String} {speed : Int}

lemma isSpeedWord (h : AsksFor word speed) : isSpeedWord word = true := by
  rcases h with ⟨h, -⟩ | ⟨h, -⟩ <;> simp [Lamplighter.isSpeedWord, h]

lemma ne_of_ne (h : AsksFor word speed) {keyword : String} (hquick : keyword ≠ "quickly")
    (hslow : keyword ≠ "slowly") : lowerToken word ≠ keyword := by
  rcases h with ⟨h, -⟩ | ⟨h, -⟩
  · rw [h]
    exact hquick.symm
  · rw [h]
    exact hslow.symm

lemma indexOf?_append (h : AsksFor word speed) {keyword : String} (hquick : keyword ≠ "quickly")
    (hslow : keyword ≠ "slowly") (tokens : List String) :
    indexOf? (tokens ++ [word]) keyword = indexOf? tokens keyword := by
  have hnone : indexOf? [word] keyword = none := by
    rw [indexOf?_eq_none_iff]
    simpa using h.ne_of_ne hquick hslow
  rw [Lamplighter.indexOf?_append, hnone, Option.map_none, Option.or_none]

lemma readSpeed?_append (h : AsksFor word speed) {tokens : List String}
    (hplain : readSpeed? tokens = none) : readSpeed? (tokens ++ [word]) = some speed := by
  have hquick : hasKeyword tokens "quickly" = false := by
    by_contra hnot
    rw [Bool.not_eq_false] at hnot
    simp [readSpeed?, hnot] at hplain
  have hslow : hasKeyword tokens "slowly" = false := by
    by_contra hnot
    rw [Bool.not_eq_false] at hnot
    simp [readSpeed?, hquick, hnot] at hplain
  have hword : ∀ keyword, hasKeyword [word] keyword = (lowerToken word == keyword) := by
    intro keyword
    by_cases hkey : lowerToken word == keyword <;> simp [hasKeyword, indexOf?, hkey]
  unfold readSpeed?
  rw [hasKeyword_append, hasKeyword_append, hquick, hslow, hword, hword]
  rcases h with ⟨h, rfl⟩ | ⟨h, rfl⟩
  · simp [h, quickly]
  · simp [h, slowly]

lemma isEmpty (h : AsksFor word speed) : word.isEmpty = false := by
  by_contra hempty
  have hword : word = "" := String.isEmpty_iff.mp (by simpa using hempty)
  subst hword
  rcases h with ⟨h, -⟩ | ⟨h, -⟩ <;> revert h <;> decide +kernel

lemma spoken_append (h : AsksFor word speed) (tokens : List String) :
    spoken (tokens ++ [word]) = spoken tokens ++ [word] := by
  simp [spoken, h.isEmpty]

end AsksFor

/-! ### Effects at a speed -/

def Verb.takesSpeed : Verb → Bool
  | .restore | .color | .hsb | .darker | .lighter => true
  | _ => false

/-- the effect with another transition time -/
def Effect.atSpeed (speed : Int) : Effect → Effect
  | .restore name _ => .restore name (some speed)
  | .color paint => .color { paint with speed }
  | .hsb paint => .hsb { paint with speed }
  | .darker dimming => .darker { dimming with speed }
  | .lighter dimming => .lighter { dimming with speed }
  | effect => effect

section

variable {tokens : List String} {settings : Settings} {word : String} {speed : Int}

lemma readColor_append (h : AsksFor word speed) {choice : ColorChoice}
    (hread : readColor tokens = .ok choice) : readColor (tokens ++ [word]) = .ok choice := by
  unfold readColor at hread ⊢
  rw [h.indexOf?_append (by decide) (by decide)]
  split at hread
  · cases hread
  · rename_i i hindex
    have hlt := lt_length_of_indexOf? hindex
    rw [List.drop_append_of_le_length hlt]
    split at hread
    · cases hread
    · rename_i hsome
      obtain ⟨first, rest, hclause⟩ := List.exists_cons_of_ne_nil hsome
      rw [hclause] at hread ⊢
      rw [← hread]
      show readColorWords ((first :: rest ++ [word]).filter _) = _
      rw [List.filter_append]
      simp [h.isSpeedWord]

lemma readPaint_append (h : AsksFor word speed) (hplain : readSpeed? tokens = none) {isRgb : Bool}
    {paint : Paint} (hread : readPaint tokens settings isRgb = .ok paint) :
    readPaint (tokens ++ [word]) settings isRgb = .ok { paint with speed } := by
  rw [readPaint_eq] at hread ⊢
  rw [h.readSpeed?_append hplain]
  cases hcolor : readColor tokens with
  | error fault =>
    rw [hcolor] at hread
    cases hread
  | ok choice =>
    rw [hcolor] at hread
    rw [readColor_append h hcolor]
    exact paintOf_speed hread

/-- behind a keyword that has a value, or is missing, nothing more is read -/
lemma valueAfter?_append_iff (h : AsksFor word speed) {keyword : String}
    (hquick : keyword ≠ "quickly") (hslow : keyword ≠ "slowly") :
    valueAfter? (tokens ++ [word]) keyword = valueAfter? tokens keyword ↔
      ∀ i, indexOf? tokens keyword = some i → i + 1 < tokens.length := by
  unfold valueAfter?
  rw [h.indexOf?_append hquick hslow]
  cases hindex : indexOf? tokens keyword with
  | none => simp
  | some i =>
    have hlt := lt_length_of_indexOf? hindex
    simp only [Option.bind_some, Option.some.injEq, forall_eq']
    rcases Nat.lt_or_ge (i + 1) tokens.length with hvalue | hend
    · simp [List.getElem?_append_left hvalue, hvalue]
    · have hend : i + 1 = tokens.length := by omega
      simp [hend]

theorem read_append_iff (h : AsksFor word speed) (hplain : readSpeed? tokens = none) {verb : Verb}
    (htakes : verb.takesSpeed = true) {cursor : Nat} (hheads : Heads tokens cursor verb)
    {effect : Effect} (hread : Effect.read verb tokens settings = .ok effect) :
    ∃ hurried, Effect.read verb (tokens ++ [word]) settings = .ok hurried ∧
      (hurried = effect.atSpeed speed ↔
        ∀ i, verb.stopper.bind (indexOf? tokens) = some i → i + 1 < tokens.length) := by
  have hspeed := h.readSpeed?_append hplain
  -- the scan for a color has found something behind its keyword
  have hcolor : ∀ {isRgb paint}, readPaint tokens settings isRgb = .ok paint →
      ∀ i, indexOf? tokens "in" = some i → i + 1 < tokens.length := by
    intro isRgb paint hpaint i hindex
    by_contra hend
    have hdrop : tokens.drop (i + 1) = [] := List.drop_of_length_le (by omega)
    have hmissing : readColor tokens = .error .missingClause := by
      simp [readColor, hindex, hdrop]
    simp [readPaint, hmissing, bind, Except.bind] at hpaint
  have hpaint : ∀ (make : Paint → Effect) (isRgb : Bool),
      (∀ paint, (make paint).atSpeed speed = make { paint with speed }) →
      (readPaint tokens settings isRgb).map make = .ok effect →
      ∃ hurried, (readPaint (tokens ++ [word]) settings isRgb).map make = .ok hurried ∧
        (hurried = effect.atSpeed speed ↔
          ∀ i, indexOf? tokens "in" = some i → i + 1 < tokens.length) := by
    intro make isRgb hmake hread
    cases hresult : readPaint tokens settings isRgb with
    | error fault =>
      rw [hresult] at hread
      cases hread
    | ok paint =>
      rw [hresult] at hread
      obtain rfl := Except.ok.inj hread
      refine ⟨make { paint with speed }, ?_, ?_⟩
      · rw [readPaint_append h hplain hresult]
        rfl
      · simp only [hmake, true_iff]
        exact hcolor hresult
  have hdimming : readDimming (tokens ++ [word]) settings
      = { readDimming tokens settings with speed } := by
    simp only [readDimming, hheads.readAdverb?_append, hspeed, Option.getD_some]
  cases verb with
  | restore =>
    obtain rfl := Except.ok.inj hread
    refine ⟨_, rfl, ?_⟩
    rw [hspeed]
    simp only [Effect.atSpeed, Effect.restore.injEq, and_true]
    exact valueAfter?_append_iff h (by decide) (by decide)
  | color => exact hpaint .color true (fun _ => rfl) hread
  | hsb => exact hpaint .hsb false (fun _ => rfl) hread
  | darker =>
    obtain rfl := Except.ok.inj hread
    refine ⟨_, rfl, ?_⟩
    simp [hdimming, Effect.atSpeed, Verb.stopper]
  | lighter =>
    obtain rfl := Except.ok.inj hread
    refine ⟨_, rfl, ?_⟩
    simp [hdimming, Effect.atSpeed, Verb.stopper]
  | _ => simp [Verb.takesSpeed] at htakes

/-! ### Names -/

lemma Targets.ofNames_append_iff (names : List String) (name : String) :
    ofNames (names ++ [name]) = ofNames names ↔ (ofNames names).isMatch name = true := by
  unfold ofNames
  rw [List.foldl_append]
  generalize names.foldl addName [] = entries
  show Targets.named (if hasNormal entries (normalName name) then entries
    else entries ++ [(normalName name, name)]) = .named entries ↔ _
  split
  · rename_i hhas
    exact ⟨fun _ => hhas, fun _ => rfl⟩
  · rename_i hhas
    refine ⟨fun heq => ?_, fun hmatch => absurd hmatch hhas⟩
    have hlength := congrArg List.length (Targets.named.inj heq)
    simp at hlength

/-- a word behind a span is one more name, unless there are names and it is among them -/
lemma targetsOf_append_iff (h : AsksFor word speed) (span : List String) :
    targetsOf (span ++ [word]) = targetsOf span ↔
      span ≠ [] ∧ (targetsOf span).isMatch word = true := by
  have hall : (lowerToken word == "all") = false := by
    simpa using h.ne_of_ne (by decide) (by decide)
  have hand : (lowerToken word != "and") = true := by
    have hne : lowerToken word ≠ "and" := h.ne_of_ne (by decide) (by decide)
    simpa using hne
  cases span with
  | nil => simp [targetsOf, hall, Targets.ofNames]
  | cons first rest =>
    rw [List.cons_append]
    by_cases hfirst : (lowerToken first == "all") = true
    · simp [targetsOf, hfirst]
    · have hnamed : ∀ more, targetsOf (first :: more)
          = .ofNames ((first :: more).filter fun t => lowerToken t != "and") :=
        fun more => if_neg hfirst
      rw [hnamed, hnamed, ← List.cons_append, List.filter_append, List.filter_singleton, hand]
      rw [Bool.cond_true, Targets.ofNames_append_iff]
      simp

end

/-! ### Sentences -/

/-- the tokens behind the verb -/
def behindVerb (tokens : List String) : List String :=
  (spoken tokens).drop (if (readAdverb? (spoken tokens)).isSome then 2 else 1)

/-- the clause has a value; or there is no clause, but names that the word is among -/
def Action.IsRounded (action : Action) (tokens : List String) (word : String) : Prop :=
  match action.verb.stopper.bind (indexOf? (spoken tokens)) with
  | some i => i + 1 < (spoken tokens).length
  | none => behindVerb tokens ≠ [] ∧ action.targets.isMatch word = true

/-- without a clause the word belongs to the span of the names -/
lemma AsksFor.nameSpan_append {tokens : List String} {word : String} {speed : Int}
    (h : AsksFor word speed) {start : Nat} (hstart : start ≤ tokens.length) (verb : Verb) :
    nameSpan (tokens ++ [word]) start verb.stopper
      = match verb.stopper.bind (indexOf? tokens) with
        | some _ => nameSpan tokens start verb.stopper
        | none => nameSpan tokens start verb.stopper ++ [word] := by
  have hindex : verb.stopper.bind (indexOf? (tokens ++ [word]))
      = verb.stopper.bind (indexOf? tokens) := by
    cases verb with
    | save | restore | color | hsb => exact h.indexOf?_append (by decide) (by decide) tokens
    | _ => rfl
  unfold nameSpan
  rw [hindex]
  cases hstop : verb.stopper.bind (indexOf? tokens) with
  | some stop =>
    have hlt : stop < tokens.length := by
      obtain ⟨keyword, -, hkeyword⟩ := Option.bind_eq_some_iff.mp hstop
      exact lt_length_of_indexOf? hkeyword
    dsimp only
    rw [List.take_append_of_le_length (Nat.le_of_lt hlt)]
  | none =>
    dsimp only
    rw [List.drop_append_of_le_length hstart]

lemma readSpeed?_spoken {tokens : List String} (h : readSpeed? tokens = none) :
    readSpeed? (spoken tokens) = none := by
  have hspoken : ∀ keyword, hasKeyword (spoken tokens) keyword = true →
      hasKeyword tokens keyword = true := by
    intro keyword hhas
    simp only [hasKeyword, indexOf?, List.findIdx?_isSome, List.any_eq_true] at hhas ⊢
    obtain ⟨t, ht, heq⟩ := hhas
    exact ⟨t, (List.mem_filter.mp ht).1, heq⟩
  unfold readSpeed? at h ⊢
  split at h
  · cases h
  · rename_i hquick
    split at h
    · cases h
    · rename_i hslow
      rw [if_neg fun hhas => hquick (hspoken _ hhas), if_neg fun hhas => hslow (hspoken _ hhas)]

lemma Heads.drop_eq {tokens : List String} {cursor : Nat} {verb : Verb}
    (h : Heads (spoken tokens) cursor verb) :
    (spoken tokens).drop (cursor + 1) = behindVerb tokens := by
  unfold behindVerb
  generalize spoken tokens = said at h
  cases h with
  | plain hword hverb => simp [readAdverb?_of_not hword]
  | modified hadverb hverb htakes => simp [readAdverb?_of_isAdverb hadverb]

/-- A sentence that sets no speed and compiles does so with a speed word behind it, and this sets the
speed; the targets, their key and all other parameters stay as they are just when the sentence is
rounded. -/
theorem compile_append_speed (tokens : List String) (settings : Settings) (action : Action)
    (word : String) (speed : Int) (h : compile tokens settings = .ok action)
    (htakes : action.verb.takesSpeed = true) (hplain : readSpeed? tokens = none)
    (hword : AsksFor word speed) :
    ∃ hurried, compile (tokens ++ [word]) settings = .ok hurried ∧ hurried.verb = action.verb ∧
      (hurried.effect = action.effect.atSpeed speed ∧ hurried.targets = action.targets ∧
        hurried.key = action.key ↔ action.IsRounded tokens word) := by
  obtain ⟨cursor, verb, effect, hheads, hread, rfl⟩ := compile_eq_ok_iff.mp h
  have hverb := verb_of_read hread
  have htakes : verb.takesSpeed = true := by
    rw [← hverb]
    exact htakes
  obtain ⟨hurried, hreadHurried, heffect⟩ :=
    read_append_iff hword (readSpeed?_spoken hplain) htakes hheads hread
  refine ⟨_, compile_eq_ok_iff.mpr ⟨cursor, verb, hurried, ?_, ?_, rfl⟩, ?_, ?_⟩
  · rw [hword.spoken_append]
    exact hheads.append [word]
  · rw [hword.spoken_append]
    exact hreadHurried
  · exact (verb_of_read hreadHurried).trans hverb.symm
  · -- the key follows the targets
    have hkey : ∀ {s t : Action}, s.targets = t.targets → s.key = t.key := by
      intro s t htargets
      unfold Action.key Action.wanted
      rw [htargets]
    have hspan := hword.nameSpan_append hheads.cursor_lt verb
    refine (and_congr_right fun _ => and_iff_left_of_imp hkey).trans ?_
    unfold Action.IsRounded
    rw [show Action.verb { command := " ".intercalate (spoken tokens), effect
                           targets := targetsOf (nameSpan (spoken tokens) (cursor + 1)
                             verb.stopper) } = verb from hverb]
    dsimp only
    rw [heffect, hword.spoken_append, hspan]
    cases hstop : verb.stopper.bind (indexOf? (spoken tokens)) with
    | some i => simp
    | none =>
      have hnames : nameSpan (spoken tokens) (cursor + 1) verb.stopper = behindVerb tokens := by
        unfold nameSpan
        rw [hstop]
        exact hheads.drop_eq
      rw [hnames]
      dsimp only
      rw [targetsOf_append_iff hword]
      simp

/-- Behind a color the word is no part of it, in whatever letter case. -/
theorem compile_append_speed_lightBlue :
    ∃ action, compile ["rgb", "Kitchen", "in", "light", "blue"] {} = .ok action ∧
      action.verb.takesSpeed = true ∧
      readSpeed? ["rgb", "Kitchen", "in", "light", "blue"] = none ∧ AsksFor "SLOWLY" 10000 ∧
      action.IsRounded ["rgb", "Kitchen", "in", "light", "blue"] "SLOWLY" ∧
      ∃ hurried, compile ["rgb", "Kitchen", "in", "light", "blue", "SLOWLY"] {} = .ok hurried ∧
        hurried.effect = action.effect.atSpeed 10000 ∧ hurried.targets = action.targets ∧
        hurried.key = action.key := by
  have hverb : (compile ["rgb", "Kitchen", "in", "light", "blue"] {}).toOption.map Action.verb
      = some .color := by decide +kernel
  obtain ⟨action, haction, hverb⟩ := Option.map_eq_some_iff.mp hverb
  have hcompiles : compile ["rgb", "Kitchen", "in", "light", "blue"] {} = .ok action := by
    revert haction
    cases compile ["rgb", "Kitchen", "in", "light", "blue"] {} with
    | error fault => intro h; cases h
    | ok other => intro h; rw [Option.some.inj h]
  have htakes : action.verb.takesSpeed = true := by
    rw [hverb]
    rfl
  have hplain : readSpeed? ["rgb", "Kitchen", "in", "light", "blue"] = none := by decide +kernel
  have hword : AsksFor "SLOWLY" 10000 := Or.inr ⟨by decide +kernel, rfl⟩
  have hrounded : action.IsRounded ["rgb", "Kitchen", "in", "light", "blue"] "SLOWLY" := by
    have hindex : Verb.color.stopper.bind
        (indexOf? (spoken ["rgb", "Kitchen", "in", "light", "blue"])) = some 2 := by decide +kernel
    have hvalue : 2 + 1 < (spoken ["rgb", "Kitchen", "in", "light", "blue"]).length := by
      decide +kernel
    unfold Action.IsRounded
    rw [hverb, hindex]
    exact hvalue
  obtain ⟨hurried, hhurried, -, hiff⟩ :=
    compile_append_speed _ {} action "SLOWLY" 10000 hcompiles htakes hplain hword
  exact ⟨action, hcompiles, htakes, hplain, hword, hrounded, hurried, hhurried, hiff.mpr hrounded⟩

/-- Without a clause the word is taken for one more name, and the key is that of other targets. -/
theorem compile_darker_kitchen_quickly :
    ((compile ["darker", "Kitchen"] {}).toOption.map fun action => (action.targets.names, action.key))
        = some (["Kitchen"], "kitchen_") ∧
      ((compile ["darker", "Kitchen", "quickly"] {}).toOption.map fun action =>
        (action.targets.names, action.key)) = some (["Kitchen", "quickly"], "kitchen_quickly_") := by
  decide +kernel

end Lamplighter
