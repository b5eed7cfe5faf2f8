import Lamplighter.Proofs.Text.Solid
import Lamplighter.Command.Clause

/-!
# Colors: the words of a clause

* `isSpeedWord_of_readLevel`   no level is a speed word;
* `isSpeedWord_of_ofName?`     no known color has a speed word among its words;
* `startsWithDigit_of_ofName?` and none begins with a digit, so that its words are never levels;
* `readColorWords_levels`, `readColorWords_name`   a clause is read as what it was meant for.
-/

namespace Lamplighter

open Text

/-- a token of a sentence: characters none of which is blank -/
structure IsToken (token : String) : Prop where
  ne_nil : token.toList ≠ []
  solid : IsSolid token.toList

instance : DecidablePred IsToken := fun token =>
  decidable_of_iff (token.toList ≠ [] ∧ IsSolid token.toList)
    ⟨fun ⟨hne, hsolid⟩ => ⟨hne, hsolid⟩, fun h => ⟨h.ne_nil, h.solid⟩⟩

lemma toList_lowerToken (token : String) : (lowerToken token).toList = lower token.toList :=
  String.toList_ofList

/-! ### Speed words -/

/-- the letters of a speed word, which is written without marks -/
lemma lower_of_isSpeedWord {token : String} (h : isSpeedWord token = true) :
    lower token.toList = "quickly".toList ∨ lower token.toList = "slowly".toList := by
  unfold isSpeedWord at h
  rw [Bool.or_eq_true, beq_iff_eq, beq_iff_eq] at h
  rcases h with h | h
  · exact Or.inl (by rw [← toList_lowerToken, h])
  · exact Or.inr (by rw [← toList_lowerToken, h])

lemma not_mem_marks {letters : List Char}
    (h : letters = "quickly".toList ∨ letters = "slowly".toList) :
    (∀ mark ∈ marks, mark ∉ letters) ∧ IsSolid letters := by
  rcases h with rfl | rfl
  · refine ⟨fun mark hmark => ?_, by decide +kernel⟩
    exact of_decide_eq_true (List.all_eq_true.mp (by decide +kernel :
      (marks.all fun mark => decide (mark ∉ "quickly".toList)) = true) mark hmark)
  · refine ⟨fun mark hmark => ?_, by decide +kernel⟩
    exact of_decide_eq_true (List.all_eq_true.mp (by decide +kernel :
      (marks.all fun mark => decide (mark ∉ "slowly".toList)) = true) mark hmark)

lemma readLevel_of_letters {token : String} {letters : List Char}
    (hletters : lower (trim token.toList) = letters) (hmark : letters.head? ≠ some '0')
    (hread : (Numeral.readInt 10 letters).toOption = none) :
    readLevel token = .error (.invalidNumber token) := by
  unfold readLevel
  rw [hletters]
  split
  · simp at hmark
  · cases hresult : Numeral.readInt 10 letters with
    | ok n =>
      rw [hresult] at hread
      cases hread
    | error fault => rfl

theorem isSpeedWord_of_readLevel {token : String} (htoken : IsToken token) {n : Int}
    (h : readLevel token = .ok n) : isSpeedWord token = false := by
  by_contra hspeed
  rw [Bool.not_eq_false] at hspeed
  have htrim := trim_of_isSolid htoken.solid
  have herror : readLevel token = .error (.invalidNumber token) := by
    rcases lower_of_isSpeedWord hspeed with hword | hword
    · exact readLevel_of_letters (by rw [htrim, hword]) (by decide +kernel) (by decide +kernel)
    · exact readLevel_of_letters (by rw [htrim, hword]) (by decide +kernel) (by decide +kernel)
  rw [h] at herror
  cases herror

/-! ### Known colors -/

/-- the name does not begin with a digit and has the letters of no speed word -/
def isPaintable (name : List Char) : Bool :=
  !(name.head?.map isDigit).getD false
    && "quickly".toList.any (fun c => !name.contains c)
    && "slowly".toList.any (fun c => !name.contains c)

lemma isPaintable_named : ∀ color ∈ Color.named, isPaintable color.1.toList = true := by
  decide +kernel

lemma mem_of_map_get? {α β γ : Type} [DecidableEq α] {list : List (α × β)} {key : α} {f : β → γ}
    {value : γ} (h : (Assoc.get? list key).map f = some value) : ∃ v, (key, v) ∈ list := by
  induction list with
  | nil => cases h
  | cons pair rest ih =>
    obtain ⟨k, v⟩ := pair
    rw [Assoc.get?] at h
    split at h
    · rename_i hk
      exact ⟨v, by simp [hk]⟩
    · obtain ⟨w, hw⟩ := ih h
      exact ⟨w, List.mem_cons_of_mem _ hw⟩

lemma toList_plainName (name : String) : (Color.plainName name).toList
    = (lower (trim name.toList)).filter fun c => !isBlank c := by
  rw [Color.plainName, String.toList_ofList, flatten_words]

lemma isPaintable_of_ofName? {name : String} {rgb : Levels} (h : Color.ofName? name = some rgb) :
    isPaintable ((lower (trim name.toList)).filter fun c => !isBlank c) = true := by
  have hlisted : ∃ packed, (Color.plainName name, packed) ∈ Color.named := mem_of_map_get? h
  obtain ⟨packed, hmem⟩ := hlisted
  have hpaintable := isPaintable_named (Color.plainName name, packed) hmem
  rw [← toList_plainName]
  exact hpaintable

lemma mem_intercalate {c : Char} {words : List String} {word : String} (hword : word ∈ words)
    (hc : c ∈ word.toList) : c ∈ (" ".intercalate words).toList := by
  rw [String.toList_intercalate]
  induction words with
  | nil => cases hword
  | cons first rest ih =>
    cases rest with
    | nil =>
      obtain rfl := List.mem_singleton.mp hword
      simpa [List.intercalate] using hc
    | cons second rest =>
      rw [List.map_cons, List.map_cons, List.intercalate_cons_cons]
      rcases List.mem_cons.mp hword with rfl | hword
      · simp [hc]
      · exact List.mem_append_right _ (ih hword)

theorem isSpeedWord_of_ofName? {words : List String} (htokens : ∀ word ∈ words, IsToken word)
    {rgb : Levels} (h : Color.ofName? (" ".intercalate words) = some rgb) {word : String}
    (hword : word ∈ words) : isSpeedWord word = false := by
  by_contra hspeed
  rw [Bool.not_eq_false] at hspeed
  have hletters := lower_of_isSpeedWord hspeed
  obtain ⟨hmarks, hsolid⟩ := not_mem_marks hletters
  obtain ⟨hsimple, hmap⟩ := lower_eq_map hmarks
  -- each letter of the speed word is one of the color's name
  have hmem : ∀ letter ∈ lower word.toList,
      letter ∈ (lower (trim (" ".intercalate words).toList)).filter fun c => !isBlank c := by
    intro letter hletter
    have hblank := hsolid letter hletter
    rw [hmap] at hletter
    obtain ⟨c, hc, rfl⟩ := List.mem_map.mp hletter
    have htrim := mem_trim (mem_intercalate hword hc) ((htokens word hword).solid c hc)
    exact List.mem_filter.mpr ⟨mem_lower htrim (hsimple c hc), by simp [hblank]⟩
  have hpaintable := isPaintable_of_ofName? h
  unfold isPaintable at hpaintable
  simp only [Bool.and_eq_true, List.any_eq_true] at hpaintable
  obtain ⟨⟨-, hquick⟩, hslow⟩ := hpaintable
  rcases hletters with hletters | hletters
  · obtain ⟨c, hc, hnot⟩ := hquick
    rw [← hletters] at hc
    simp only [Bool.not_eq_true', List.contains_eq_mem, decide_eq_false_iff_not] at hnot
    exact hnot (hmem c hc)
  · obtain ⟨c, hc, hnot⟩ := hslow
    rw [← hletters] at hc
    simp only [Bool.not_eq_true', List.contains_eq_mem, decide_eq_false_iff_not] at hnot
    exact hnot (hmem c hc)

theorem startsWithDigit_of_ofName? {word : String} {rest : List String} {rgb : Levels}
    (h : Color.ofName? (" ".intercalate (word :: rest)) = some rgb) :
    startsWithDigit word = false := by
  by_contra hdigit
  rw [Bool.not_eq_false] at hdigit
  unfold startsWithDigit at hdigit
  cases hchars : word.toList with
  | nil => simp [hchars] at hdigit
  | cons c cs =>
    have hc : isDigit c = true := by simpa [hchars] using hdigit
    have hjoined : ∃ more, (" ".intercalate (word :: rest)).toList = c :: more := by
      rw [String.toList_intercalate, List.map_cons, hchars]
      cases rest with
      | nil => exact ⟨cs, by simp [List.intercalate]⟩
      | cons other rest => exact ⟨_, by simp [List.intercalate]; rfl⟩
    obtain ⟨more, hjoined⟩ := hjoined
    obtain ⟨trimmed, htrim⟩ := trim_cons (isBlank_of_isDigit hc) more
    obtain ⟨lowered, hlower⟩ := lower_cons (isSimple_of_isDigit hc) trimmed
    have hpaintable := isPaintable_of_ofName? h
    rw [hjoined, htrim, hlower, lowerChar_of_isDigit hc,
      List.filter_cons_of_pos (by simp [isBlank_of_isDigit hc])] at hpaintable
    simp [isPaintable, hc] at hpaintable

/-! ### Clauses -/

lemma readColorWords_levels {a b c : String} (hdigit : startsWithDigit a = true)
    {first second third : Int} (ha : readLevel a = .ok first) (hb : readLevel b = .ok second)
    (hc : readLevel c = .ok third) :
    readColorWords [a, b, c] = .ok (.levels { first, second, third }) := by
  simp [readColorWords, hdigit, ha, hb, hc, bind, Except.bind, pure, Except.pure]

lemma readColorWords_name {words : List String} (hne : words ≠ []) {rgb : Levels}
    (h : Color.ofName? (" ".intercalate words) = some rgb) :
    readColorWords words = .ok (.name (" ".intercalate words)) := by
  obtain ⟨word, rest, rfl⟩ := List.exists_cons_of_ne_nil hne
  have hdigit := startsWithDigit_of_ofName? h
  clear h
  rcases rest with _ | ⟨second, _ | ⟨third, more⟩⟩
  · rfl
  · rfl
  · simp [readColorWords, hdigit]

end Lamplighter
