import Lamplighter.CommandLine.Act
import Lamplighter.Network.Bench
import Lamplighter.Proofs.Command.Sentence
import Lamplighter.Proofs.Json.Written
import Lamplighter.Proofs.Text.Solid
import Lamplighter.Server.Front

/-!
# Posted: the words of the tool as a server reads them

The tool compiles its words as they were given, and a server cuts their joined text at blanks again.

* `tokenize_intercalate`   words that are joined and cut again come back in pieces, each cut at its
                           own blanks;
* `tokenize_words_iff`     they come back as they were just when no word holds a blank;
* `Carries`                no word holds a blank, or those that do are of the name of a color;
* `compile_tokenized`      such words compile to the same action, cut or not, or to the same error;
* `command_posted`         so a server starts a run of the action that the tool would run itself.
-/

namespace Lamplighter

open Text

namespace Text

/-! ### Joining and cutting -/

lemma attach_of_blank {c d : Char} (hd : isBlank d = true) (next : List Char)
    (ws : List (List Char)) : attach c (d :: next) ws = [c] :: ws := by
  cases ws <;> simp [attach, hd]

lemma attach_of_not_blank {c d : Char} (hd : isBlank d = false) (next w : List Char)
    (ws : List (List Char)) : attach c (d :: next) (w :: ws) = (c :: w) :: ws := by
  simp [attach, hd]

lemma attach_nil (c : Char) (ws : List (List Char)) : attach c [] ws = [c] :: ws := by
  simp [attach]

lemma exists_words_cons {c : Char} (hc : isBlank c = false) (cs : List Char) :
    ∃ w ws, words (c :: cs) = w :: ws := by
  rw [words_cons_of_not_blank hc]
  unfold attach
  split
  · split <;> exact ⟨_, _, rfl⟩
  · exact ⟨_, _, rfl⟩

/-- a blank ends a word, and the text behind it is cut on its own -/
theorem words_append_blank {b : Char} (hb : isBlank b = true) (cs ds : List Char) :
    words (cs ++ b :: ds) = words cs ++ words ds := by
  induction cs with
  | nil => exact words_cons_blank hb ds
  | cons c cs ih =>
    cases hc : isBlank c with
    | true => rw [List.cons_append, words_cons_blank hc, words_cons_blank hc, ih]
    | false =>
      rw [List.cons_append, words_cons_of_not_blank hc, words_cons_of_not_blank hc, ih]
      -- whether the next character goes on with the word that begins here
      cases cs with
      | nil => rw [List.nil_append, attach_of_blank hb, attach_nil, words_nil, List.nil_append,
          List.cons_append, List.nil_append]
      | cons d cs =>
        cases hd : isBlank d with
        | true => rw [List.cons_append, attach_of_blank hd, attach_of_blank hd, List.cons_append]
        | false =>
          obtain ⟨w, ws, hwords⟩ := exists_words_cons hd cs
          rw [hwords, List.cons_append, List.cons_append, attach_of_not_blank hd,
            attach_of_not_blank hd, List.cons_append]

lemma isSolid_attach {c : Char} (hc : isBlank c = false) (next : List Char)
    {ws : List (List Char)} (h : ∀ w ∈ ws, IsSolid w) : ∀ w ∈ attach c next ws, IsSolid w := by
  have hsingle : IsSolid [c] := by
    intro d hd
    rwa [List.mem_singleton.mp hd]
  intro w hw
  unfold attach at hw
  split at hw
  · rename_i d next v vs
    split at hw
    · rcases List.mem_cons.mp hw with rfl | hw
      · exact hsingle
      · exact h w hw
    · rcases List.mem_cons.mp hw with rfl | hw
      · intro e he
        rcases List.mem_cons.mp he with rfl | he
        · exact hc
        · exact h v (List.mem_cons_self ..) e he
      · exact h w (List.mem_cons_of_mem _ hw)
  · rcases List.mem_cons.mp hw with rfl | hw
    · exact hsingle
    · exact h w hw

theorem isSolid_of_mem_words {cs w : List Char} (h : w ∈ words cs) : IsSolid w := by
  induction cs generalizing w with
  | nil => cases h
  | cons c cs ih =>
    cases hc : isBlank c with
    | true =>
      rw [words_cons_blank hc] at h
      exact ih h
    | false =>
      rw [words_cons_of_not_blank hc] at h
      exact isSolid_attach hc cs (fun v hv => ih hv) w h

/-- a text without blanks is one word -/
theorem words_of_isSolid {cs : List Char} (hne : cs ≠ []) (h : IsSolid cs) : words cs = [cs] := by
  induction cs with
  | nil => exact absurd rfl hne
  | cons c cs ih =>
    have hc : isBlank c = false := h c (List.mem_cons_self ..)
    rw [words_cons_of_not_blank hc]
    cases cs with
    | nil => rw [words_nil, attach_nil]
    | cons d cs =>
      have hrest : IsSolid (d :: cs) := fun e he => h e (List.mem_cons_of_mem _ he)
      rw [ih (List.cons_ne_nil _ _) hrest,
        attach_of_not_blank (hrest d (List.mem_cons_self ..))]

end Text

/-! ### Tokens -/

lemma isToken_of_mem_tokenize {sentence token : String} (h : token ∈ tokenize sentence) :
    token ≠ "" ∧ IsSolid token.toList := by
  obtain ⟨w, hw, rfl⟩ := List.mem_map.mp h
  rw [String.toList_ofList]
  refine ⟨fun hempty => ne_nil_of_mem_words hw ?_, isSolid_of_mem_words hw⟩
  rw [← String.toList_ofList (l := w), hempty]
  rfl

/-- words that are joined and cut again come back in pieces -/
theorem tokenize_intercalate (words : List String) :
    tokenize (" ".intercalate words) = words.flatMap tokenize := by
  unfold tokenize
  rw [String.toList_intercalate]
  induction words with
  | nil => rfl
  | cons word rest ih =>
    cases rest with
    | nil => simp [List.intercalate]
    | cons next rest =>
      rw [List.map_cons, List.map_cons, List.intercalate_cons_cons, List.flatMap_cons, ← ih]
      have hblank : isBlank ' ' = true := by decide
      show List.map String.ofList (Text.words ((word.toList ++ ' ' :: []) ++ _)) = _
      rw [List.append_assoc, List.singleton_append, words_append_blank hblank, List.map_append]
      rfl

lemma tokenize_of_isSolid {word : String} (h : IsSolid word.toList) :
    tokenize word = spoken [word] := by
  unfold tokenize spoken
  by_cases hempty : word = ""
  · subst hempty
    rfl
  · have hne : word.toList ≠ [] := by simpa using hempty
    rw [words_of_isSolid hne h]
    simp [hempty]

/-- words come back as they were just when none of them holds a blank -/
theorem tokenize_words_iff (words : List String) :
    words.flatMap tokenize = spoken words ↔ ∀ word ∈ words, IsSolid word.toList := by
  constructor
  · intro h word hword
    by_cases hempty : word = ""
    · subst hempty
      intro c hc
      cases hc
    · have hspoken : word ∈ spoken words := List.mem_filter.mpr ⟨hword, by simpa using hempty⟩
      rw [← h] at hspoken
      obtain ⟨whole, -, hpiece⟩ := List.mem_flatMap.mp hspoken
      exact (isToken_of_mem_tokenize hpiece).2
  · intro h
    induction words with
    | nil => rfl
    | cons word rest ih =>
      obtain ⟨hword, hrest⟩ := List.forall_mem_cons.mp h
      rw [List.flatMap_cons, ih hrest, tokenize_of_isSolid hword]
      exact (List.filter_append (p := fun t : String => !t.isEmpty) [word] rest).symm

lemma flatMap_tokenize_spoken (words : List String) :
    (spoken words).flatMap tokenize = words.flatMap tokenize := by
  induction words with
  | nil => rfl
  | cons word rest ih =>
    unfold spoken at ih ⊢
    by_cases hempty : word = ""
    · subst hempty
      exact ih
    · rw [List.filter_cons_of_pos (by simpa using hempty), List.flatMap_cons, List.flatMap_cons, ih]

lemma spoken_tokenized (words : List String) :
    spoken (words.flatMap tokenize) = words.flatMap tokenize := by
  refine List.filter_eq_self.mpr fun token htoken => ?_
  obtain ⟨whole, -, hpiece⟩ := List.mem_flatMap.mp htoken
  simpa using (isToken_of_mem_tokenize hpiece).1

/-! ### The name of a color -/

/-- the word has one space between its parts, and no blank at its ends -/
def IsSpaced (word : String) : Prop :=
  " ".intercalate (tokenize word) = word

/-- A word of the name of a color, which may be quoted: it has no blank in it, or neither it nor a part
of it is a speed word. -/
def IsColorWord (word : String) : Prop :=
  IsSolid word.toList ∨ IsSpaced word ∧ isSpeedWord word = false ∧
    ∀ part ∈ tokenize word, isSpeedWord part = false

/-- the words that are not speed words -/
def unhurried (words : List String) : List String :=
  words.filter fun word => !isSpeedWord word

section

variable {words : List String} {word : String}

lemma isSpaced_of_isSolid (h : IsSolid word.toList) : IsSpaced word := by
  unfold IsSpaced
  rw [tokenize_of_isSolid h]
  by_cases hempty : word = ""
  · subst hempty
    rfl
  · have hspoken : spoken [word] = [word] := List.filter_cons_of_pos (by simpa using hempty)
    rw [hspoken]
    rfl

lemma IsColorWord.isSpaced (h : IsColorWord word) : IsSpaced word :=
  h.elim isSpaced_of_isSolid fun h => h.1

lemma tokenize_ne_nil (h : IsSpaced word) (hne : word ≠ "") : tokenize word ≠ [] := by
  intro hnil
  rw [IsSpaced, hnil] at h
  exact hne h.symm

/-- a speed word is left out before it is cut or after -/
lemma unhurried_tokenized (h : ∀ word ∈ words, word ≠ "" ∧ IsColorWord word) :
    unhurried (words.flatMap tokenize) = (unhurried words).flatMap tokenize := by
  induction words with
  | nil => rfl
  | cons word rest ih =>
    obtain ⟨⟨hne, hword⟩, hrest⟩ := List.forall_mem_cons.mp h
    have hparts : unhurried (tokenize word) = (unhurried [word]).flatMap tokenize := by
      rcases hword with hsolid | ⟨-, hslow, hparts⟩
      · have hspoken : spoken [word] = [word] := List.filter_cons_of_pos (by simpa using hne)
        have htokens : tokenize word = [word] := (tokenize_of_isSolid hsolid).trans hspoken
        unfold unhurried
        rw [htokens]
        cases hspeed : isSpeedWord word <;> simp [hspeed, htokens]
      · unfold unhurried
        rw [List.filter_cons_of_pos (by simp [hslow]), List.filter_nil,
          List.filter_eq_self.mpr fun part hpart => by simp [hparts part hpart]]
        simp
    have happend : unhurried (word :: rest) = unhurried [word] ++ unhurried rest :=
      List.filter_append (p := fun word => !isSpeedWord word) [word] rest
    rw [List.flatMap_cons, happend, List.flatMap_append, ← hparts, ← ih hrest]
    exact List.filter_append ..

lemma flatMap_tokenize_ne_nil (h : ∀ word ∈ words, word ≠ "" ∧ IsSpaced word) (hne : words ≠ []) :
    words.flatMap tokenize ≠ [] := by
  obtain ⟨word, rest, rfl⟩ := List.exists_cons_of_ne_nil hne
  obtain ⟨⟨hword, hspaced⟩, -⟩ := List.forall_mem_cons.mp h
  rw [List.flatMap_cons]
  exact List.append_ne_nil_of_left_ne_nil (tokenize_ne_nil hspaced hword) _

/-- words with one space between their parts are joined to the same text once they are cut -/
lemma intercalate_tokenized (h : ∀ word ∈ words, word ≠ "" ∧ IsSpaced word) :
    " ".intercalate (words.flatMap tokenize) = " ".intercalate words := by
  induction words with
  | nil => rfl
  | cons word rest ih =>
    obtain ⟨⟨hne, hspaced⟩, hrest⟩ := List.forall_mem_cons.mp h
    rw [List.flatMap_cons]
    by_cases hlast : rest = []
    · subst hlast
      rw [List.flatMap_nil, List.append_nil, hspaced]
      rfl
    · rw [String.intercalate_append_of_ne_nil (tokenize_ne_nil hspaced hne)
        (flatMap_tokenize_ne_nil hrest hlast), ih hrest, hspaced]
      exact (String.intercalate_append_of_ne_nil (List.cons_ne_nil word []) hlast).symm

lemma startsWithDigit_tokenized (h : ∀ word ∈ words, word ≠ "" ∧ IsSpaced word) :
    (words.flatMap tokenize).head?.map startsWithDigit = words.head?.map startsWithDigit := by
  cases words with
  | nil => rfl
  | cons word rest =>
    obtain ⟨⟨hne, hspaced⟩, -⟩ := List.forall_mem_cons.mp h
    obtain ⟨part, parts, hparts⟩ := List.exists_cons_of_ne_nil (tokenize_ne_nil hspaced hne)
    have hpart : part ≠ "" := (isToken_of_mem_tokenize (hparts ▸ List.mem_cons_self ..)).1
    obtain ⟨c, cs, hchars⟩ := List.exists_cons_of_ne_nil (l := part.toList) (by simpa using hpart)
    have hfirst : word.toList.head? = part.toList.head? := by
      rw [← hspaced, hparts, String.toList_intercalate, List.map_cons, hchars]
      cases parts with
      | nil => simp [List.intercalate]
      | cons other parts =>
        rw [List.map_cons, List.intercalate_cons_cons]
        rfl
    rw [List.flatMap_cons, hparts]
    show some (startsWithDigit part) = some (startsWithDigit word)
    rw [startsWithDigit, startsWithDigit, hfirst]

lemma readColorWords_of_not_digit (hne : words ≠ [])
    (hdigit : words.head?.map startsWithDigit ≠ some true) :
    readColorWords words = .ok (.name (" ".intercalate words)) := by
  rcases words with _ | ⟨first, _ | ⟨second, _ | ⟨third, rest⟩⟩⟩
  · exact absurd rfl hne
  · rfl
  · rfl
  · have hfirst : startsWithDigit first = false := by simpa using hdigit
    simp [readColorWords, hfirst]

/-- the words of the name of a color are read as the same name once they are cut -/
lemma readColorWords_tokenized (h : ∀ word ∈ words, word ≠ "" ∧ IsSpaced word)
    (hdigit : words.head?.map startsWithDigit ≠ some true) :
    readColorWords (words.flatMap tokenize) = readColorWords words := by
  by_cases hne : words = []
  · rw [hne]
    rfl
  · rw [readColorWords_of_not_digit hne hdigit,
      readColorWords_of_not_digit (flatMap_tokenize_ne_nil h hne)
        (startsWithDigit_tokenized h ▸ hdigit), intercalate_tokenized h]

end

/-! ### Sentences -/

/-- The words of a sentence about a color whose name may be quoted: a verb that sets a color, the names of
the bulbs, the word before the color, and the words of the color, which does not begin with a digit. -/
structure IsColorSentence (front : List String) (keyword : String) (name : List String) : Prop where
  verb : ∃ cursor verb, Heads front cursor verb ∧ (verb = .color ∨ verb = .hsb)
  names : ∀ word ∈ front, lowerToken word ≠ "in"
  stop : lowerToken keyword = "in"
  solid : ∀ word ∈ front ++ [keyword], IsSolid word.toList
  color : ∀ word ∈ name, IsColorWord word
  digit : (unhurried name).head?.map startsWithDigit ≠ some true

/-- what a server makes of the words is what the tool makes of them: no word holds a blank, or those
that do are of the name of a color -/
inductive Carries (words : List String) : Prop
  | solid (solid : ∀ word ∈ words, IsSolid word.toList)
  | color {front name : List String} {keyword : String}
    (said : spoken words = front ++ keyword :: name)
    (sentence : IsColorSentence front keyword name)

section

variable {front name : List String} {keyword : String}

lemma hasKeyword_tokenized (h : ∀ word ∈ name, word ≠ "" ∧ IsColorWord word) {speed : String}
    (hspeed : speed = "quickly" ∨ speed = "slowly") :
    hasKeyword (name.flatMap tokenize) speed = hasKeyword name speed := by
  have hnone : ∀ {words : List String}, (∀ word ∈ words, isSpeedWord word = false) →
      hasKeyword words speed = false := by
    intro words hwords
    rw [hasKeyword, Option.isSome_eq_false_iff, Option.isNone_iff_eq_none, indexOf?_eq_none_iff]
    intro word hword heq
    have hslow := hwords word hword
    rcases hspeed with rfl | rfl <;> simp [isSpeedWord, heq] at hslow
  induction name with
  | nil => rfl
  | cons word rest ih =>
    obtain ⟨⟨hne, hword⟩, hrest⟩ := List.forall_mem_cons.mp h
    have hparts : hasKeyword (tokenize word) speed = hasKeyword [word] speed := by
      rcases hword with hsolid | ⟨-, hslow, hparts⟩
      · have hspoken : spoken [word] = [word] := List.filter_cons_of_pos (by simpa using hne)
        rw [tokenize_of_isSolid hsolid, hspoken]
      · rw [hnone hparts, hnone (by simpa using hslow)]
    rw [List.flatMap_cons, hasKeyword_append, hparts, ih hrest, ← hasKeyword_append]
    rfl

/-- the color is read as the same one once its words are cut -/
lemma readColor_tokenized (h : IsColorSentence front keyword name) (hname : ∀ word ∈ name, word ≠ "") :
    readColor (front ++ keyword :: name.flatMap tokenize) = readColor (front ++ keyword :: name) := by
  have hwords : ∀ word ∈ name, word ≠ "" ∧ IsColorWord word :=
    fun word hword => ⟨hname word hword, h.color word hword⟩
  have hread : ∀ words : List String, readColor (front ++ keyword :: words)
      = if words = [] then .error .missingClause else readColorWords (unhurried words) := by
    intro words
    have hdrop : (front ++ keyword :: words).drop (front.length + 1) = words := by
      rw [List.drop_append]
      simp
    unfold readColor
    rw [Sentence.indexOf?_of_first words h.names h.stop]
    dsimp only
    rw [hdrop]
    cases words with
    | nil => rfl
    | cons word rest => rfl
  rw [hread, hread]
  by_cases hnone : name = []
  · rw [hnone]
    rfl
  · have hspaced : ∀ word ∈ unhurried name, word ≠ "" ∧ IsSpaced word := fun word hword =>
      ⟨hname word (List.mem_filter.mp hword).1,
        (h.color word (List.mem_filter.mp hword).1).isSpaced⟩
    rw [if_neg hnone, if_neg (flatMap_tokenize_ne_nil
      (fun word hword => ⟨hname word hword, (h.color word hword).isSpaced⟩) hnone),
      unhurried_tokenized hwords, readColorWords_tokenized hspaced h.digit]

lemma compileTokens_tokenized (h : IsColorSentence front keyword name)
    (hname : ∀ word ∈ name, word ≠ "") (settings : Settings) :
    compileTokens (front ++ keyword :: name.flatMap tokenize) settings
      = compileTokens (front ++ keyword :: name) settings := by
  obtain ⟨cursor, verb, hheads, hverb⟩ := h.verb
  have hwords : ∀ word ∈ name, word ≠ "" ∧ IsColorWord word :=
    fun word hword => ⟨hname word hword, h.color word hword⟩
  have hcolor := readColor_tokenized h hname
  have hspeed : readSpeed? (front ++ keyword :: name.flatMap tokenize)
      = readSpeed? (front ++ keyword :: name) := by
    unfold readSpeed?
    rw [List.append_cons front keyword name, List.append_cons front keyword (name.flatMap tokenize)]
    simp only [hasKeyword_append, hasKeyword_tokenized hwords (Or.inl rfl),
      hasKeyword_tokenized hwords (Or.inr rfl)]
  have htargets : ∀ words : List String,
      readTargets (front ++ keyword :: words) (cursor + 1) (some "in")
        = targetsOf (front.drop (cursor + 1)) := by
    intro words
    have hstart : ((cursor : Int) + 1) = ((cursor + 1 : Nat) : Int) := by simp
    rw [hstart, readTargets_some _ _ (by decide),
      Sentence.indexOf?_of_first words h.names h.stop, Option.getD_some, List.take_left]
  have htext : " ".intercalate (front ++ keyword :: name.flatMap tokenize)
      = " ".intercalate (front ++ keyword :: name) := by
    have hspaced : ∀ word ∈ name, word ≠ "" ∧ IsSpaced word :=
      fun word hword => ⟨hname word hword, (h.color word hword).isSpaced⟩
    rw [List.append_cons front keyword name, List.append_cons front keyword (name.flatMap tokenize)]
    by_cases hnone : name = []
    · rw [hnone]
      rfl
    · rw [String.intercalate_append_of_ne_nil (by simp) hnone,
        String.intercalate_append_of_ne_nil (by simp) (flatMap_tokenize_ne_nil hspaced hnone),
        intercalate_tokenized hspaced]
  rw [compileTokens_of_heads (hheads.append _), compileTokens_of_heads (hheads.append _)]
  unfold compileVerb Effect.read
  rcases hverb with rfl | rfl
  · simp only [readPaint_eq, hcolor, hspeed, htext, Verb.stopper, htargets]
  · simp only [readPaint_eq, hcolor, hspeed, htext, Verb.stopper, htargets]

end

/-- a server compiles such words to what the tool compiles them to -/
theorem compile_tokenized {words : List String} (h : Carries words) (settings : Settings) :
    compile (words.flatMap tokenize) settings = compile words settings := by
  unfold compile
  show compileTokens (spoken _) settings = compileTokens (spoken _) settings
  rw [spoken_tokenized]
  cases h with
  | solid solid => rw [(tokenize_words_iff words).mpr solid]
  | @color front name keyword said sentence =>
    have hsaid : ∀ word ∈ front ++ keyword :: name, word ≠ "" := by
      intro word hword
      rw [← said] at hword
      simpa using (List.mem_filter.mp hword).2
    have hname : ∀ word ∈ name, word ≠ "" := fun word hword => hsaid word (by simp [hword])
    have hfront : (front ++ [keyword]).flatMap tokenize = front ++ [keyword] := by
      rw [(tokenize_words_iff _).mpr sentence.solid]
      refine List.filter_eq_self.mpr fun word hword => ?_
      have hne := hsaid word (by
        rw [List.append_cons]
        exact List.mem_append_left _ hword)
      simpa using hne
    rw [← flatMap_tokenize_spoken, said, List.append_cons, List.flatMap_append, hfront,
      List.append_assoc, List.singleton_append, compileTokens_tokenized sentence hname]
    rw [List.append_assoc, List.singleton_append]

/-! ### The server -/

/-- what the tool posts is read as the command, whichever characters are escaped -/
lemma readBody_request (charset : Json.Charset) {text : String} (hne : text ≠ "") :
    Server.readBody "application/json" ((CommandLine.Act.request text).toText charset)
      = .ok { requestId := none, command := text } := by
  have hplain : (CommandLine.Act.request text).IsPlain := by
    simp [CommandLine.Act.request, Json.IsPlain, Json.AreMembersPlain]
  have hread := Json.read?_toText charset hplain
  have hchars : ((CommandLine.Act.request text).toText charset).toList
      = '\x7b' :: (Json.renderString charset "command" ++ ':' :: (Json.render charset (.str text)
        ++ Json.renderMembers charset [])) := by
    simp only [Json.toText, String.toList_ofList, CommandLine.Act.request, Json.render]
  have hempty : ((CommandLine.Act.request text).toText charset).isEmpty = false := by
    rw [← Bool.not_eq_true, String.isEmpty_iff]
    intro hempty
    rw [hempty] at hchars
    cases hchars
  have hmark : Server.dropMark ((CommandLine.Act.request text).toText charset)
      = (CommandLine.Act.request text).toText charset := by
    unfold Server.dropMark
    rw [hchars]
    rfl
  have hjson : Server.isJsonType "application/json" = true := by decide +kernel
  have hcommand : text.isEmpty = false := by simpa using hne
  unfold Server.readBody
  simp only [hempty, hjson, hmark, hread, Bool.false_eq_true, ↓reduceIte]
  show (Server.readFields (.obj [("command", .str text)])).mapError _ = _
  have hid : Server.readRequestId (.obj [("command", .str text)]) = .ok none := rfl
  have htext : Server.readCommand (.obj [("command", .str text)]) = .ok text := by
    show (if text.isEmpty then _ else _) = _
    rw [hcommand]
    rfl
  unfold Server.readFields
  rw [hid, htext]
  rfl

namespace Server.Front

open CommandLine (Act.request)

variable {ν : Type}

/-- the answer to a request whose command comes to an action, or to an error -/
def answered (front : Front ν) (request : CommandRequest) :
    Except CommandError Action → Front ν × Response
  | .error error => (front, commandRejection request error)
  | .ok action => (front.accept action, acceptance request action)

/-- the headers of a post of the tool -/
def toolHeaders : List (String × String) := [("content-type", "application/json")]

/-- For all words of the tool that a server does not cut further: the server that the tool posts them to
starts a run of the very action that the tool compiles on the spot, or rejects them for the same
reason. -/
theorem command_posted [Network ν] (front : Front ν) (words : List String) (charset : Json.Charset)
    (hne : " ".intercalate words ≠ "") (hwords : Carries words) :
    front.command toolHeaders ((Act.request (" ".intercalate words)).toText charset)
      = front.answered { requestId := none, command := " ".intercalate words }
          (compile words front.settings) := by
  have hbody := readBody_request charset hne
  have hcompile : compile (tokenize (" ".intercalate words)) front.settings
      = compile words front.settings := by
    rw [tokenize_intercalate, compile_tokenized hwords]
  have htype : (headerOf? toolHeaders "content-type").getD "application/json"
      = "application/json" := by decide +kernel
  unfold command
  simp only [htype, hbody, hcompile]
  cases compile words front.settings with
  | error error => rfl
  | ok action => rfl

/-- a color of two words, which is quoted -/
def quotedBlue : List String := ["color", "Hall", "in", "light blue", "slowly"]

lemma carries_quotedBlue : Carries quotedBlue := by
  have hnames : ∀ word ∈ ["color", "Hall"], lowerToken word ≠ "in" := by decide +kernel
  have hsolid : ∀ word ∈ ["color", "Hall"] ++ ["in"], IsSolid word.toList := by decide +kernel
  have hblue : IsSpaced "light blue" := by
    unfold IsSpaced
    decide +kernel
  have hcolor : ∀ word ∈ ["light blue", "slowly"], IsColorWord word := by
    intro word hword
    simp only [List.mem_cons, List.not_mem_nil, or_false] at hword
    rcases hword with rfl | rfl
    · exact .inr ⟨hblue, by decide +kernel, by decide +kernel⟩
    · exact .inl (by decide +kernel)
  exact .color (by decide +kernel)
    { verb := ⟨0, .color, .plain (by decide +kernel) (by decide +kernel), .inl rfl⟩
      names := hnames, stop := by decide +kernel, solid := hsolid, color := hcolor
      digit := by decide +kernel }

/-- a server with nothing on its network -/
def emptyFront : Front Bench :=
  { session := { network := ({} : Bench) }, settings := {}, client := 0 }

/-- The quoted color is the same one for the server. -/
theorem command_posted_quotedBlue : " ".intercalate quotedBlue ≠ "" ∧ Carries quotedBlue ∧
    (compile quotedBlue {}).toOption.map Action.key = some "hall_" ∧
    emptyFront.command toolHeaders ((Act.request (" ".intercalate quotedBlue)).toText .ascii)
      = emptyFront.answered { requestId := none, command := " ".intercalate quotedBlue }
          (compile quotedBlue {}) := by
  have hne : " ".intercalate quotedBlue ≠ "" := by decide +kernel
  exact ⟨hne, carries_quotedBlue, by decide +kernel,
    command_posted emptyFront quotedBlue .ascii hne carries_quotedBlue⟩

/-- a bulb of two words, which is quoted -/
def quotedRoom : List String := ["on", "Living Room"]

/-- A quoted bulb comes to two bulbs for the server, each with another name and another key. -/
theorem compile_posted_quotedRoom :
    (compile quotedRoom {}).toOption.map (fun action => (action.wanted, action.key))
      = some (.named [("living room", "Living Room")], "living room_") ∧
    (compile (tokenize (" ".intercalate quotedRoom)) {}).toOption.map
        (fun action => (action.wanted, action.key))
      = some (.named [("living", "Living"), ("room", "Room")], "living_room_") := by
  decide +kernel

end Server.Front

end Lamplighter
