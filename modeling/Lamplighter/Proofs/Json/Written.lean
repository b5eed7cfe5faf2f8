import Lamplighter.Proofs.Assoc
import Lamplighter.Proofs.Text.Digits

/-!
# Written: the reader reads what the writer wrote

* `Json.IsPlain`        a value without floating-point numbers, whose whole numbers have at most as
                        many digits as the reader takes, and whose objects name no member twice;
* `readString_escaped`  a string is read back, whatever characters are in it;
* `readValue_render`    a plain value is read up to the comma or the bracket behind it;
* `read?_toText`        the text of a plain value is read as that value.
-/

namespace Lamplighter.Json

open Text Numeral

variable {charset : Charset} {c : Char} {rest : List Char}

/-- a whole number with no more digits than the reader takes -/
def IsShort (n : Int) : Prop :=
  n.natAbs < 10 ^ maxDigits

instance : DecidablePred IsShort :=
  fun _ => inferInstanceAs (Decidable (_ < _))

mutual

def IsPlain : Json → Prop
  | .float _ => False
  | .int n => IsShort n
  | .arr items => ArePlain items
  | .obj members => (members.map Prod.fst).Nodup ∧ AreMembersPlain members
  | _ => True

def ArePlain : List Json → Prop
  | [] => True
  | item :: items => item.IsPlain ∧ ArePlain items

def AreMembersPlain : List (String × Json) → Prop
  | [] => True
  | (_, value) :: members => value.IsPlain ∧ AreMembersPlain members

end

/-! ### Strings -/

lemma valid_toNat (c : Char) : c.toNat < 0xD800 ∨ 0xDFFF < c.toNat ∧ c.toNat < 0x110000 :=
  c.valid

lemma readCode_unit (h : c.toNat < 0x10000) :
    readCode (hexPadded 4 c.toNat ++ rest) = some (c, rest) := by
  have hvalid := valid_toNat c
  have hchar : unitChar c.toNat = c := by
    rw [unitChar, if_neg (by omega)]
    exact Char.ofNat_toNat c
  rw [readCode, readUnit_hexPadded h]
  simp only [Option.bind_eq_bind, Option.bind_some]
  rw [if_neg (by omega), hchar]

/-- two escapes with the halves of a pair are read as one character -/
lemma readCode_units {high low : Nat} (hhigh : 0xD800 ≤ high ∧ high < 0xDC00)
    (hlow : 0xDC00 ≤ low ∧ low ≤ 0xDFFF) : readCode (hexPadded 4 high ++ '\\' :: 'u' ::
      (hexPadded 4 low ++ rest)) = some (pairChar high low, rest) := by
  rw [readCode, readUnit_hexPadded (by omega)]
  simp only [Option.bind_eq_bind, Option.bind_some, readUnit_hexPadded (show low < 0x10000 by omega)]
  rw [if_pos hhigh, if_pos hlow]

lemma pair_units {n : Nat} (h : 0x10000 ≤ n) (hn : n < 0x110000) :
    (0xD800 ≤ 0xD800 + (n - 0x10000) / 1024 ∧ 0xD800 + (n - 0x10000) / 1024 < 0xDC00) ∧
      (0xDC00 ≤ 0xDC00 + (n - 0x10000) % 1024 ∧ 0xDC00 + (n - 0x10000) % 1024 ≤ 0xDFFF) ∧
      0x10000 + (0xD800 + (n - 0x10000) / 1024 - 0xD800) * 1024
        + (0xDC00 + (n - 0x10000) % 1024 - 0xDC00) = n := by
  omega

lemma readCode_pair (h : 0x10000 ≤ c.toNat) :
    readCode (hexPadded 4 (0xD800 + (c.toNat - 0x10000) / 1024) ++ '\\' :: 'u' ::
      (hexPadded 4 (0xDC00 + (c.toNat - 0x10000) % 1024) ++ rest)) = some (c, rest) := by
  obtain ⟨hhigh, hlow, hsum⟩ := pair_units h (by have := valid_toNat c; omega)
  rw [readCode_units hhigh hlow, pairChar, hsum, Char.ofNat_toNat]

/-- an escape with digits is read as the character that it was written for -/
lemma readCode_codeEscape (c : Char) (rest : List Char) :
    ∃ more, codeEscape c ++ rest = '\\' :: 'u' :: more ∧ readCode more = some (c, rest) := by
  unfold codeEscape unitEscape
  dsimp only
  split
  · rename_i hunit
    exact ⟨_, rfl, readCode_unit hunit⟩
  · rename_i hpair
    refine ⟨_, ?_, readCode_pair (Nat.not_lt.mp hpair)⟩
    simp only [List.cons_append, List.append_assoc]

lemma readString_codeEscape (c : Char) (rest : List Char) :
    readString (codeEscape c ++ rest) = (readString rest).map fun (s, r) => (c :: s, r) := by
  obtain ⟨more, hcode, hread⟩ := readCode_codeEscape c rest
  rw [hcode, readString]
  split
  · rename_i hnone
    rw [hread] at hnone
    cases hnone
  · rename_i heq
    rw [hread] at heq
    obtain ⟨rfl, rfl⟩ := Prod.mk.inj (Option.some.inj heq)
    rfl

lemma readString_simple {e : Char} (he : e ≠ 'u') (hc : simpleEscape? e = some c)
    (rest : List Char) :
    readString ('\\' :: e :: rest) = (readString rest).map fun (s, r) => (c :: s, r) := by
  rw [readString]
  · rw [hc]
  · exact he

lemma readString_plain (hquote : c ≠ '"') (hslash : c ≠ '\\') (hcode : 0x20 ≤ c.toNat)
    (rest : List Char) :
    readString (c :: rest) = (readString rest).map fun (s, r) => (c :: s, r) := by
  rw [readString.eq_def]
  split
  · simp_all
  · simp_all
  · simp_all
  · simp_all
  · simp_all
  · rename_i heq
    obtain ⟨rfl, rfl⟩ := List.cons.inj heq
    rw [if_neg (by omega)]

/-- a character is read back from what stands for it -/
lemma readString_escape (charset : Charset) (c : Char) (rest : List Char) :
    readString (escape charset c ++ rest) = (readString rest).map fun (s, r) => (c :: s, r) := by
  unfold escape
  split_ifs with hquote hslash hline hreturn htab hback hfeed hcontrol houtside
  · subst hquote
    exact readString_simple (by decide) rfl rest
  · subst hslash
    exact readString_simple (by decide) rfl rest
  · subst hline
    exact readString_simple (by decide) rfl rest
  · subst hreturn
    exact readString_simple (by decide) rfl rest
  · subst htab
    exact readString_simple (by decide) rfl rest
  · subst hback
    exact readString_simple (by decide) rfl rest
  · subst hfeed
    exact readString_simple (by decide) rfl rest
  · exact readString_codeEscape c rest
  · exact readString_codeEscape c rest
  · exact readString_plain hquote hslash (by omega) rest

/-- a string is read back up to its closing quote: by induction on its characters -/
theorem readString_escaped (charset : Charset) (cs rest : List Char) :
    readString (cs.flatMap (escape charset) ++ '"' :: rest) = some (cs, rest) := by
  induction cs with
  | nil => rw [List.flatMap_nil, List.nil_append, readString]
  | cons c cs ih =>
    rw [List.flatMap_cons, List.append_assoc, readString_escape, ih]
    rfl

/-! ### Numbers -/

/-- the text goes on with a comma or a closing bracket, or is over -/
def Ends (rest : List Char) : Prop :=
  ∀ c ∈ rest.head?, c = ',' ∨ c = ']' ∨ c = '\x7d'

lemma ends_nil : Ends [] := by
  intro c hc
  cases hc

lemma ends_cons (hc : c = ',' ∨ c = ']' ∨ c = '\x7d') : Ends (c :: rest) := by
  rintro _ ⟨⟩
  exact hc

lemma Ends.not_isAsciiDigit (h : Ends rest) : ∀ c ∈ rest.head?, isAsciiDigit c = false := by
  intro c hc
  rcases h c hc with rfl | rfl | rfl <;> decide

lemma span_digits {digits : List Char} (hdigits : ∀ c ∈ digits, isAsciiDigit c = true)
    (h : Ends rest) : (digits ++ rest).takeWhile isAsciiDigit = digits ∧
      (digits ++ rest).dropWhile isAsciiDigit = rest := by
  have hrest : rest.takeWhile isAsciiDigit = [] ∧ rest.dropWhile isAsciiDigit = rest := by
    cases rest with
    | nil => exact ⟨rfl, rfl⟩
    | cons c rest => simp [h.not_isAsciiDigit c rfl]
  rw [List.takeWhile_append_of_pos hdigits, List.dropWhile_append_of_pos hdigits, hrest.1, hrest.2,
    List.append_nil]
  exact ⟨rfl, rfl⟩

/-- all digits of a number are its whole part -/
lemma readWhole_decimal (n : Nat) (h : Ends rest) :
    readWhole (decimal n ++ rest) = some (decimal n, rest) := by
  cases n with
  | zero =>
    rw [decimal, toDigits_of_lt (by decide)]
    rfl
  | succ n =>
    obtain ⟨first, digits, heq, hfirst⟩ := head_toDigits (show 2 ≤ 10 by decide) (Nat.succ_pos n)
    have hdecimal : decimal (n + 1) = digitChar first :: digits.map digitChar := by
      rw [decimal, heq]
      rfl
    have hdigit := isAsciiDigit_decimal (n + 1)
    rw [hdecimal] at hdigit ⊢
    have hhead := hdigit _ (List.mem_cons_self ..)
    obtain ⟨htake, hdrop⟩ := span_digits (fun c hc => hdigit c (List.mem_cons_of_mem _ hc)) h
    have hlt : first < 10 := mem_toDigits_lt (n := n + 1) (by decide) (by simp [heq])
    have hzero : digitChar first ≠ '0' := digitChar_ne_zero first hlt hfirst
    rw [List.cons_append, readWhole]
    · rw [if_pos hhead, htake, hdrop]
    · exact hzero

lemma readNumber_decimal (negative : Bool) {n : Nat} (hn : n < 10 ^ maxDigits) (h : Ends rest) :
    readNumber negative (decimal n ++ rest)
      = some (.int (if negative then -Int.ofNat n else Int.ofNat n), rest) := by
  have hfraction : readFraction rest = (none, rest) := by
    unfold readFraction
    split
    · rcases h _ rfl with h | h | h <;> cases h
    · rfl
  have hpower : readPower rest = (none, rest) := by
    unfold readPower
    split
    · rename_i mark rest
      rcases h _ rfl with rfl | rfl | rfl <;> rfl
    · rfl
  have hlength : ¬ maxDigits < (decimal n).length := by
    rw [decimal, List.length_map]
    exact Nat.not_lt.mpr (length_toDigits_le (by decide) (by decide) hn)
  rw [readNumber, readWhole_decimal n h]
  simp only [Option.bind_eq_bind, Option.bind_some, hfraction, hpower]
  rw [if_neg hlength, asciiDigits_decimal, ofDigits_toDigits (by decide)]

/-- the first character of a number is a digit -/
lemma decimal_eq_cons (n : Nat) :
    ∃ c digits, decimal n = c :: digits ∧ isAsciiDigit c = true := by
  cases hdecimal : decimal n with
  | nil => exact absurd (List.map_eq_nil_iff.mp hdecimal) (toDigits_ne_nil 10 n)
  | cons c digits => exact ⟨c, digits, rfl, isAsciiDigit_decimal n c (by simp [hdecimal])⟩

lemma ne_of_isAsciiDigit {letter : Char} (hc : isAsciiDigit c = true)
    (hletter : isAsciiDigit letter = false) : c ≠ letter := by
  rintro rfl
  rw [hc] at hletter
  cases hletter

lemma readWord_digit (hc : isAsciiDigit c = true) (rest : List Char) :
    readWord (c :: rest) = readNumber false (c :: rest) := by
  rw [readWord]
  all_goals
    rintro _ heq
    exact absurd (List.cons.inj heq).1 (ne_of_isAsciiDigit hc (by decide))

/-- a whole number begins with a sign or a digit -/
lemma renderInt_eq_cons (n : Int) :
    ∃ c cs, renderInt n = c :: cs ∧ (c = '-' ∨ isAsciiDigit c = true) := by
  obtain ⟨c, digits, hdecimal, hc⟩ := decimal_eq_cons n.natAbs
  rw [renderInt, signed, hdecimal]
  split
  · exact ⟨_, _, rfl, .inl rfl⟩
  · exact ⟨_, _, rfl, .inr hc⟩

/-- a whole number is read back up to what ends it -/
lemma readWord_renderInt {n : Int} (hn : IsShort n) (h : Ends rest) :
    readWord (renderInt n ++ rest) = some (.int n, rest) := by
  obtain ⟨c, digits, hdecimal, hc⟩ := decimal_eq_cons n.natAbs
  unfold renderInt signed
  split
  · rename_i hneg
    have hinfinity : after? "Infinity".toList (decimal n.natAbs ++ rest) = none := by
      have hne : c ≠ 'I' := ne_of_isAsciiDigit hc (by decide)
      rw [hdecimal, after?, if_neg]
      simp [hne.symm]
    rw [List.cons_append, readWord, hinfinity]
    simp only [readNumber_decimal true hn h, if_true]
    rw [show -Int.ofNat n.natAbs = n by simp only [Int.ofNat_eq_natCast]; omega]
  · rename_i hpos
    have hread := readNumber_decimal false hn h
    rw [hdecimal] at hread ⊢
    rw [List.cons_append, readWord_digit hc, ← List.cons_append, hread]
    simp only [Bool.false_eq_true, if_false]
    rw [show Int.ofNat n.natAbs = n by simp only [Int.ofNat_eq_natCast]; omega]

/-! ### Values -/

/-- a character that a value may begin with -/
def Begins (c : Char) : Prop :=
  isSpace c = false ∧ c ≠ ']' ∧ c ≠ '\x7d'

lemma render_eq_cons (charset : Charset) {json : Json} (h : json.IsPlain) :
    ∃ c cs, render charset json = c :: cs ∧ Begins c := by
  have hopen : ∀ c, c = '"' ∨ c = '[' ∨ c = '\x7b' ∨ c = 'n' ∨ c = 't' ∨ c = 'f' ∨ c = '-' →
      Begins c := by
    unfold Begins
    rintro c (rfl | rfl | rfl | rfl | rfl | rfl | rfl) <;> decide
  cases json with
  | null => exact ⟨'n', _, by rw [render]; rfl, hopen _ (by decide)⟩
  | bool b =>
    cases b with
    | false => exact ⟨'f', _, by rw [render]; rfl, hopen _ (by decide)⟩
    | true => exact ⟨'t', _, by rw [render]; rfl, hopen _ (by decide)⟩
  | int n =>
    obtain ⟨c, cs, hint, rfl | hc⟩ := renderInt_eq_cons n
    · exact ⟨_, _, by rw [render, hint], hopen _ (by decide)⟩
    · have hne : ∀ letter, isAsciiDigit letter = false → c ≠ letter :=
        fun letter => ne_of_isAsciiDigit hc
      refine ⟨c, cs, by rw [render, hint], ?_, hne _ (by decide), hne _ (by decide)⟩
      simp only [isSpace, Bool.or_eq_false_iff, beq_eq_false_iff_ne]
      exact ⟨⟨⟨hne _ (by decide), hne _ (by decide)⟩, hne _ (by decide)⟩, hne _ (by decide)⟩
  | float x => exact h.elim
  | str s => exact ⟨'"', _, by rw [render]; rfl, hopen _ (by decide)⟩
  | arr items =>
    cases items with
    | nil => exact ⟨'[', _, by rw [render], hopen _ (by decide)⟩
    | cons item items => exact ⟨'[', _, by rw [render], hopen _ (by decide)⟩
  | obj members =>
    cases members with
    | nil => exact ⟨'\x7b', _, by rw [render], hopen _ (by decide)⟩
    | cons member members => exact ⟨'\x7b', _, by rw [render], hopen _ (by decide)⟩

lemma skipSpace_of_begins (hc : isSpace c = false) (cs : List Char) :
    skipSpace (c :: cs) = c :: cs := by
  rw [skipSpace, List.dropWhile_cons_of_neg (by simp [hc])]

/-- members of different names, put into an empty object one after the other, are its members -/
lemma ofList_of_nodup {members : List (String × Json)} (h : (members.map Prod.fst).Nodup) :
    Assoc.ofList members = members := by
  unfold Assoc.ofList
  induction members using List.reverseRecOn with
  | nil => rfl
  | append_singleton members member ih =>
    rw [List.map_append, List.map_singleton, List.nodup_append] at h
    rw [List.foldl_append, ih h.1, List.foldl_cons, List.foldl_nil, Assoc.put_of_not_mem]
    exact fun hmem => h.2.2 _ hmem _ (List.mem_singleton_self _) rfl

lemma readValue_word (hquote : c ≠ '"') (hlist : c ≠ '[') (hobject : c ≠ '\x7b') (fuel : Nat)
    (cs : List Char) : readValue (fuel + 1) (c :: cs) = readWord (c :: cs) := by
  rw [readValue]
  · rintro _ heq
    exact hquote (List.cons.inj heq).1
  · rintro _ heq
    exact hlist (List.cons.inj heq).1
  · rintro _ heq
    exact hobject (List.cons.inj heq).1

lemma readValue_string (charset : Charset) (s : String) (rest : List Char) (fuel : Nat) :
    readValue (fuel + 1) (renderString charset s ++ rest) = some (.str s, rest) := by
  have hcons : renderString charset s ++ rest
      = '"' :: (s.toList.flatMap (escape charset) ++ '"' :: rest) := by
    simp [renderString]
  rw [hcons, readValue, readString_escaped]
  simp

/-- a list that is not empty is read by its items -/
lemma readValue_list {first : Char} {more after : List Char} {items : List Json} {fuel : Nat}
    (hfirst : Begins first) (hread : readItems fuel (first :: more) = some (items, after)) :
    readValue (fuel + 1) ('[' :: first :: more) = some (.arr items, after) := by
  rw [readValue, skipSpace_of_begins hfirst.1]
  split
  · rename_i heq
    exact absurd (List.cons.inj heq).1 hfirst.2.1
  · rw [hread]
    rfl

/-- an object that is not empty is read by its members -/
lemma readValue_object {more after : List Char} {members : List (String × Json)} {fuel : Nat}
    (hread : readMembers fuel ('"' :: more) = some (members, after)) :
    readValue (fuel + 1) ('\x7b' :: '"' :: more) = some (.obj (Assoc.ofList members), after) := by
  rw [readValue, skipSpace_of_begins (by decide)]
  split
  · rename_i heq
    cases (List.cons.inj heq).1
  · rw [hread]
    rfl

mutual

/-- a plain value is read up to what ends it -/
theorem readValue_render (charset : Charset) (json : Json) (h : json.IsPlain) {rest : List Char}
    (hrest : Ends rest) (fuel : Nat) (hfuel : (render charset json).length ≤ fuel) :
    readValue fuel (render charset json ++ rest) = some (json, rest) := by
  obtain ⟨c, cs, hcons, _⟩ := render_eq_cons charset h
  cases fuel with
  | zero => simp [hcons] at hfuel
  | succ fuel =>
    cases json with
    | null =>
      rw [render]
      exact readValue_word (by decide) (by decide) (by decide) fuel _
    | bool b =>
      cases b with
      | false =>
        rw [render]
        exact readValue_word (by decide) (by decide) (by decide) fuel _
      | true =>
        rw [render]
        exact readValue_word (by decide) (by decide) (by decide) fuel _
    | int n =>
      obtain ⟨first, more, hint, hfirst⟩ := renderInt_eq_cons n
      have hne : ∀ letter, letter ≠ '-' → isAsciiDigit letter = false → first ≠ letter := by
        rintro letter hminus hletter rfl
        exact hfirst.elim hminus fun hdigit => ne_of_isAsciiDigit hdigit hletter rfl
      rw [render, hint, List.cons_append,
        readValue_word (hne _ (by decide) (by decide)) (hne _ (by decide) (by decide))
          (hne _ (by decide) (by decide)), ← List.cons_append, ← hint]
      exact readWord_renderInt h hrest
    | float x => exact h.elim
    | str s =>
      rw [render]
      exact readValue_string charset s rest fuel
    | arr items =>
      cases items with
      | nil =>
        rw [render]
        rfl
      | cons item items =>
        rw [render] at hfuel ⊢
        obtain ⟨first, more, hitem, hfirst⟩ := render_eq_cons charset h.1
        have hread := readItems_render charset item items h.1 h.2 rest fuel
          (Nat.le_of_succ_le_succ hfuel)
        rw [List.cons_append]
        rw [hitem] at hread ⊢
        exact readValue_list hfirst hread
    | obj members =>
      cases members with
      | nil =>
        rw [render]
        rfl
      | cons member members =>
        obtain ⟨name, value⟩ := member
        rw [render] at hfuel ⊢
        have hread := readMembers_render charset name value members h.2.1 h.2.2 rest fuel
          (Nat.le_of_succ_le_succ hfuel)
        have hobject := readValue_object hread
        rw [ofList_of_nodup h.1] at hobject
        exact hobject
termination_by fuel

/-- the items of a list are read with its closing bracket -/
theorem readItems_render (charset : Charset) (item : Json) (items : List Json)
    (h : item.IsPlain) (hitems : ArePlain items) (rest : List Char) (fuel : Nat)
    (hfuel : (render charset item ++ renderItems charset items).length ≤ fuel) :
    readItems fuel (render charset item ++ renderItems charset items ++ rest)
      = some (item :: items, rest) := by
  obtain ⟨c, cs, hcons, _⟩ := render_eq_cons charset h
  cases fuel with
  | zero => simp [hcons] at hfuel
  | succ fuel =>
    rw [readItems, List.append_assoc]
    cases items with
    | nil =>
      rw [renderItems] at hfuel ⊢
      rw [List.singleton_append, readValue_render charset item h (ends_cons (by decide)) fuel
        (by simpa using hfuel)]
      simp only [Option.bind_eq_bind, Option.bind_some]
      rw [skipSpace_of_begins (by decide)]
      rfl
    | cons next items =>
      obtain ⟨first, more, hnext, hfirst, _⟩ := render_eq_cons charset hitems.1
      rw [renderItems] at hfuel ⊢
      rw [List.cons_append, readValue_render charset item h (ends_cons (by decide)) fuel
        (by simp only [List.length_append, List.length_cons] at hfuel; omega)]
      simp only [Option.bind_eq_bind, Option.bind_some]
      rw [skipSpace_of_begins (by decide)]
      have hread := readItems_render charset next items hitems.1 hitems.2 rest fuel
        (by simp only [List.length_append, List.length_cons] at hfuel ⊢; omega)
      rw [hnext] at hread ⊢
      simp only [List.cons_append] at hread ⊢
      rw [skipSpace_of_begins hfirst, hread, Option.bind_some]
termination_by fuel

/-- the members of an object are read with its closing brace -/
theorem readMembers_render (charset : Charset) (name : String) (value : Json)
    (members : List (String × Json)) (h : value.IsPlain) (hmembers : AreMembersPlain members)
    (rest : List Char) (fuel : Nat) (hfuel : (renderString charset name ++ ':' ::
      (render charset value ++ renderMembers charset members)).length ≤ fuel) :
    readMembers fuel (renderString charset name ++ ':' :: (render charset value
      ++ renderMembers charset members) ++ rest) = some ((name, value) :: members, rest) := by
  obtain ⟨c, cs, hcons, hbegins, _⟩ := render_eq_cons charset h
  cases fuel with
  | zero => simp at hfuel
  | succ fuel =>
    have hname : renderString charset name ++ ':' :: (render charset value
        ++ renderMembers charset members) ++ rest
          = '"' :: (name.toList.flatMap (escape charset) ++ '"' :: (':' :: (render charset value
            ++ (renderMembers charset members ++ rest)))) := by
      simp [renderString]
    have hshort : (render charset value).length + (renderMembers charset members).length ≤ fuel := by
      simp only [List.length_append, List.length_cons] at hfuel
      omega
    rw [hname, readMembers, readString_escaped]
    simp only [Option.bind_eq_bind, Option.bind_some]
    rw [skipSpace_of_begins (by decide)]
    have hskip : ∀ tail, skipSpace (render charset value ++ tail) = render charset value ++ tail := by
      intro tail
      rw [hcons, List.cons_append, skipSpace_of_begins hbegins]
    simp only [hskip]
    cases members with
    | nil =>
      rw [renderMembers] at hshort ⊢
      rw [List.singleton_append, readValue_render charset value h (ends_cons (by decide)) fuel
        (by omega)]
      simp only [Option.bind_some]
      rw [skipSpace_of_begins (by decide)]
      simp
    | cons member members =>
      obtain ⟨next, second⟩ := member
      rw [renderMembers] at hshort ⊢
      rw [List.cons_append, readValue_render charset value h (ends_cons (by decide)) fuel (by omega)]
      simp only [Option.bind_some]
      rw [skipSpace_of_begins (by decide)]
      have hread := readMembers_render charset next second members hmembers.1 hmembers.2 rest fuel
        (by simp only [List.length_append, List.length_cons] at hshort ⊢; omega)
      have hquote : ∀ tail, skipSpace (renderString charset next ++ tail)
          = renderString charset next ++ tail := fun tail => skipSpace_of_begins (by decide) _
      simp only [List.append_assoc, hquote] at hread ⊢
      rw [hread]
      simp
termination_by fuel

end

/-- the text of a plain value is read as that value -/
theorem read?_toText (charset : Charset) {json : Json} (h : json.IsPlain) :
    read? (toText charset json) = some json := by
  obtain ⟨c, cs, hcons, hbegins, _⟩ := render_eq_cons charset h
  have hread := readValue_render charset json h ends_nil ((render charset json).length + 1)
    (Nat.le_succ _)
  rw [List.append_nil] at hread
  rw [read?, toText, String.toList_ofList, readChars?]
  have hskip : skipSpace (render charset json) = render charset json := by
    rw [hcons, skipSpace_of_begins hbegins]
  rw [hskip, hread]
  rfl

end Lamplighter.Json
