import Mathlib.Data.List.TakeWhile
import Lamplighter.Command.Clause
import Lamplighter.Proofs.Text.Digits
import Lamplighter.Proofs.Text.Solid

/-!
# Levels: numbers of a sentence are read back

A level is written in decimal digits, maybe behind a minus sign, or in hexadecimal digits behind a
zero and an x, in any letter case.  What is read is the number, brought onto the 16-bit scale.

* `lower_trim_of_ascii`   a written number is the same once trimmed and in lower case;
* `readInt_written`       digits behind a sign are read as their number, unless they are too many;
* `readLevel_decimal`, `readLevel_hexadecimal`   so a level is read from either kind of numeral;
* `readLevel_cases`       and all else is rejected as no number;
* `readLevel_numeral`     numerals are read back.
-/

namespace Lamplighter

open Text

/-! ### Characters of a numeral -/

namespace Text

lemma isBlank_digitChar : ∀ d < 16, isBlank (digitChar d) = false := by decide

lemma toNat_digitChar_lt : ∀ d < 16, (digitChar d).toNat < 128 := by decide

lemma toLower_digitChar : ∀ d < 16, (digitChar d).toLower = digitChar d := by decide

/-- no digit is an underscore, a sign or the x of a mark -/
lemma digitChar_ne : ∀ d < 16, digitChar d ∉ ['_', '-', '+', 'x', 'X'] := by decide

lemma decimalValue?_digitChar : ∀ d < 16,
    decimalValue? (digitChar d) = if d < 10 then some d else none := by
  decide

lemma letterValue?_digitChar : ∀ d < 16, 10 ≤ d → letterValue? (digitChar d) = some d := by decide

lemma toNat_lt_of_toLower {c : Char} (h : c.toLower.toNat < 128) : c.toNat < 128 := by
  unfold Char.toLower at h
  split at h
  · rename_i hupper
    have : c.toNat ≤ 'Z'.toNat := hupper.2
    have : 'Z'.toNat = 90 := rfl
    omega
  · exact h

lemma isBlank_toLower {c : Char} (h : c.toNat < 128) : isBlank c.toLower = isBlank c := by
  have htable : ∀ n < 128, isBlank (Char.ofNat n).toLower = isBlank (Char.ofNat n) := by
    decide +kernel
  rw [← Char.ofNat_toNat c]
  exact htable c.toNat h

lemma digitValue?_digitChar {base d : Nat} (hbase : base ≤ 16) (hd : d < base) :
    digitValue? base (digitChar d) = some d := by
  have hvalue : (decimalValue? (digitChar d)).or (letterValue? (digitChar d)) = some d := by
    rw [decimalValue?_digitChar d (by omega)]
    split
    · rfl
    · exact letterValue?_digitChar d (by omega) (by omega)
  rw [digitValue?, hvalue, Option.filter_some, if_pos (decide_eq_true hd)]

/-- a text in the ASCII range without blanks, trimmed and put into lower case -/
lemma lower_trim_of_ascii {cs letters : List Char} (hletters : cs.map Char.toLower = letters)
    (hplain : ∀ c ∈ letters, c.toNat < 128 ∧ isBlank c = false) : lower (trim cs) = letters := by
  have hchar : ∀ c ∈ cs, c.toNat < 128 ∧ isBlank c = false := by
    intro c hc
    obtain ⟨hcode, hblank⟩ := hplain c.toLower (hletters ▸ List.mem_map_of_mem hc)
    have hascii := toNat_lt_of_toLower hcode
    exact ⟨hascii, (isBlank_toLower hascii).symm.trans hblank⟩
  rw [trim_of_isSolid fun c hc => (hchar c hc).2, lower_of_ascii fun c hc => (hchar c hc).1, hletters]

end Text

/-! ### Numerals that are written -/

namespace Numeral

variable {base : Nat} {cs : List Char} {digits : List Nat}

lemma unpad_of_isSolid (h : IsSolid cs) : unpad cs = cs := by
  have hdrop : ∀ {cs : List Char}, IsSolid cs → cs.dropWhile isPadding = cs := by
    intro cs hcs
    cases cs with
    | nil => rfl
    | cons c cs =>
      have hc : isPadding c = false := by simp [isPadding, hcs c (List.mem_cons_self ..)]
      rw [List.dropWhile_cons_of_neg (by simp [hc])]
  have hreverse : IsSolid cs.reverse := fun c hc => h c (List.mem_reverse.mp hc)
  rw [unpad, hdrop h, hdrop hreverse, List.reverse_reverse]

lemma isGrouped_of_not_mem (hne : cs ≠ []) (h : '_' ∉ cs) : isGrouped cs = true := by
  fun_induction isGrouped cs with
  | case1 => exact absurd rfl hne
  | case2 => simp at h
  | case3 => rfl
  | case4 => simp at h
  | case5 => simp at h
  | case6 _ c cs _ _ ih => exact ih (by simp) (fun hmem => h (List.mem_cons_of_mem _ hmem))

lemma dropHexMark_of_not_mem (h : 'x' ∉ cs) (h' : 'X' ∉ cs) : dropHexMark cs = cs := by
  unfold dropHexMark
  split <;> simp_all

/-- a character that no digit is written with -/
lemma not_mem_digits {c : Char} (hc : c ∈ ['_', '-', '+', 'x', 'X'])
    (hdigits : ∀ d ∈ digits, d < 16) : c ∉ digits.map digitChar := by
  intro hmem
  obtain ⟨d, hd, rfl⟩ := List.mem_map.mp hmem
  exact digitChar_ne d (hdigits d hd) hc

lemma mapM_digitValue?_map (hbase : base ≤ 16) (hdigits : ∀ d ∈ digits, d < base) :
    (digits.map digitChar).mapM (digitValue? base) = some digits := by
  induction digits with
  | nil => rfl
  | cons d digits ih =>
    rw [List.forall_mem_cons] at hdigits
    rw [List.map_cons, List.mapM_cons, digitValue?_digitChar hbase hdigits.1, ih hdigits.2]
    rfl

/-- a number in digits, behind a minus sign or not -/
def written (negative : Bool) (digits : List Nat) : List Char :=
  (if negative then ['-'] else []) ++ digits.map digitChar

lemma mem_written {negative : Bool} {c : Char} (h : c ∈ written negative digits) :
    c = '-' ∨ ∃ d ∈ digits, digitChar d = c := by
  rcases List.mem_append.mp h with hsign | hdigit
  · cases negative with
    | true => exact .inl (List.mem_singleton.mp hsign)
    | false => cases hsign
  · exact .inr (List.mem_map.mp hdigit)

lemma takeSign_written (negative : Bool) (hdigits : ∀ d ∈ digits, d < 16) :
    takeSign (written negative digits) = (negative, digits.map digitChar) := by
  cases negative with
  | true => rfl
  | false =>
    show takeSign (digits.map digitChar) = _
    have hminus := not_mem_digits (c := '-') (by decide) hdigits
    have hplus := not_mem_digits (c := '+') (by decide) hdigits
    unfold takeSign
    split
    · rename_i heq
      exact absurd (heq ▸ List.mem_cons_self ..) hminus
    · rename_i heq
      exact absurd (heq ▸ List.mem_cons_self ..) hplus
    · rfl

lemma plainDigits_written (negative : Bool) (hdigits : ∀ d ∈ digits, d < 16) :
    plainDigits (written negative digits) = written negative digits := by
  refine (List.map_congr_left fun c hc => ?_).trans (List.map_id _)
  rcases mem_written hc with rfl | ⟨d, hd, rfl⟩
  · decide
  · rw [decimalValue?_digitChar d (hdigits d hd)]
    split <;> rfl

/-- Digits behind a sign are read as their number, unless they are too many for base ten. -/
theorem readInt_written (negative : Bool) (hbase : base ≤ 16) (hdigits : ∀ d ∈ digits, d < base)
    (hne : digits ≠ []) : readInt base (written negative digits)
      = if base = 10 ∧ maxDigits < digits.length then .error (.tooLong digits.length)
        else .ok (if negative then -ofDigits base digits else ofDigits base digits) := by
  have hsixteen : ∀ d ∈ digits, d < 16 := fun d hd => Nat.lt_of_lt_of_le (hdigits d hd) hbase
  have hsolid : IsSolid (written negative digits) := by
    intro c hc
    rcases mem_written hc with rfl | ⟨d, hd, rfl⟩
    · decide
    · exact isBlank_digitChar d (hsixteen d hd)
  have hmark : '_' ∉ digits.map digitChar := not_mem_digits (by decide) hsixteen
  have hbody : (if base = 16 then dropHexMark (digits.map digitChar) else digits.map digitChar)
      = digits.map digitChar := by
    rw [dropHexMark_of_not_mem (not_mem_digits (by decide) hsixteen)
      (not_mem_digits (by decide) hsixteen), ite_self]
  have hrun : (digits.map digitChar).takeWhile (fun c => c == '_' || (digitValue? base c).isSome)
      = digits.map digitChar := by
    refine List.takeWhile_eq_self_iff.mpr fun c hc => ?_
    obtain ⟨d, hd, rfl⟩ := List.mem_map.mp hc
    simp [digitValue?_digitChar hbase (hdigits d hd)]
  have hplain : (digits.map digitChar).filter (· != '_') = digits.map digitChar := by
    refine List.filter_eq_self.mpr fun c hc => ?_
    simpa using fun h : c = '_' => hmark (h ▸ hc)
  have hgrouped : isGrouped (digits.map digitChar) = true :=
    isGrouped_of_not_mem (by simpa using hne) hmark
  have hread : readDigits base (digits.map digitChar) = some digits := by
    rw [readDigits, if_pos hgrouped, hplain, mapM_digitValue?_map hbase hdigits]
  unfold readInt
  simp only [unpad_of_isSolid hsolid, plainDigits_written negative hsixteen,
    takeSign_written negative hsixteen, hbody, hrun, hplain, hgrouped, hread, List.length_map,
    true_and]
  rfl

end Numeral

/-! ### Levels -/

open Numeral (maxDigits readInt_written written)

section

variable {token : String} {digits : List Nat}

/-- decimal digits behind a sign are a level, unless they are too many -/
theorem readLevel_decimal (negative : Bool) (hdigits : ∀ d ∈ digits, d < 10) (hne : digits ≠ [])
    (htoken : token.toList = written negative digits) : readLevel token
      = if maxDigits < digits.length then .error (.invalidNumber token)
        else .ok (clampLevel (if negative then -ofDigits 10 digits else ofDigits 10 digits)) := by
  have hsixteen : ∀ d ∈ digits, d < 16 := fun d hd => Nat.lt_trans (hdigits d hd) (by decide)
  have hplain : ∀ c ∈ written negative digits,
      c.toLower = c ∧ c.toNat < 128 ∧ isBlank c = false := by
    intro c hc
    rcases Numeral.mem_written hc with rfl | ⟨d, hd, rfl⟩
    · decide
    · have hd := hsixteen d hd
      exact ⟨toLower_digitChar d hd, toNat_digitChar_lt d hd, isBlank_digitChar d hd⟩
  have hlower : lower (trim token.toList) = written negative digits := by
    refine lower_trim_of_ascii ?_ fun c hc => (hplain c hc).2
    rw [htoken]
    exact (List.map_congr_left fun c hc => (hplain c hc).1).trans (List.map_id _)
  have hread := readInt_written negative (by decide) hdigits hne
  unfold readLevel
  rw [hlower]
  split
  · -- no digit is an x, so the token has no mark of base sixteen
    rename_i rest heq
    have hx : 'x' ∈ written negative digits := by simp [heq]
    rcases Numeral.mem_written hx with hsign | ⟨d, hd, hdigit⟩
    · cases hsign
    · exact absurd (hdigit ▸ by simp) (digitChar_ne d (hsixteen d hd))
  · rw [hread]
    by_cases hlong : maxDigits < digits.length
    · simp [hlong]
    · simp [hlong]

/-- hexadecimal digits behind their mark are a level, in any letter case and however many they are -/
theorem readLevel_hexadecimal (hdigits : ∀ d ∈ digits, d < 16) (hne : digits ≠ [])
    (htoken : token.toList.map Char.toLower = '0' :: 'x' :: digits.map digitChar) :
    readLevel token = .ok (clampLevel (ofDigits 16 digits)) := by
  have hplain : ∀ c ∈ '0' :: 'x' :: digits.map digitChar, c.toNat < 128 ∧ isBlank c = false := by
    rw [List.forall_mem_cons, List.forall_mem_cons]
    refine ⟨by decide, by decide, fun c hc => ?_⟩
    obtain ⟨d, hd, rfl⟩ := List.mem_map.mp hc
    exact ⟨toNat_digitChar_lt d (hdigits d hd), isBlank_digitChar d (hdigits d hd)⟩
  have hread : Numeral.readInt 16 (digits.map digitChar) = .ok (ofDigits 16 digits) :=
    (readInt_written false (by decide) hdigits hne).trans (if_neg (by simp))
  unfold readLevel
  rw [lower_trim_of_ascii htoken hplain]
  simp only [hread]

/-- what is no level on the scale is rejected as no number -/
theorem readLevel_cases (token : String) :
    (∃ level, readLevel token = .ok level ∧ 0 ≤ level ∧ level ≤ 0xFFFF) ∨
      readLevel token = .error (.invalidNumber token) := by
  unfold readLevel
  dsimp only
  split
  · rename_i n _
    refine .inl ⟨clampLevel n, rfl, ?_⟩
    unfold clampLevel
    omega
  · exact .inr rfl

lemma clampLevel_natCast (n : Nat) : clampLevel n = min (n : Int) 0xFFFF := by
  unfold clampLevel
  omega

lemma clampLevel_neg_natCast (n : Nat) : clampLevel (-n) = 0 := by
  unfold clampLevel
  omega

end

/-! ### Numerals -/

/-- a power of ten has one digit more than its exponent -/
lemma lt_length_repr (k : Nat) (hk : 0 < k) : k < (Nat.repr (10 ^ k)).length := by
  rw [← String.length_toList, Nat.toList_repr, ← Nat.not_le,
    Nat.length_toDigits_le_iff (by decide) hk]
  exact Nat.lt_irrefl _

/-- the numeral of a number, behind a minus sign or not, is a level unless it has too many digits -/
lemma readLevel_repr (negative : Bool) (n : Nat) {token : String}
    (htoken : token.toList = (if negative then ['-'] else []) ++ Nat.toDigits 10 n) :
    readLevel token = if maxDigits < n.repr.length then .error (.invalidNumber token)
      else .ok (if negative then 0 else min (n : Int) 0xFFFF) := by
  have hdigits : (toDigits 10 n).map digitChar = Nat.toDigits 10 n :=
    map_digitChar_toDigits (by decide) (by decide) n
  have hlength : n.repr.length = (toDigits 10 n).length := by
    rw [← String.length_toList, Nat.toList_repr, ← hdigits, List.length_map]
  rw [← hdigits] at htoken
  rw [hlength, readLevel_decimal negative (fun d => mem_toDigits_lt (by decide))
    (toDigits_ne_nil 10 n) htoken, ofDigits_toDigits (by decide)]
  cases negative with
  | true => rw [if_pos rfl, if_pos rfl, clampLevel_neg_natCast]
  | false => simp [clampLevel_natCast]

/-- Numerals are read back onto the 16-bit scale.  The decimal numeral of a number comes to the number,
and behind a minus sign to zero, as long as it has at most 4300 digits; with more it is rejected.  Its
hexadecimal numeral behind its mark comes to the number in any letter case and at any length.  Every
token comes to a level of the scale or is rejected as no number. -/
theorem readLevel_numeral :
    (∀ n : Nat, n.repr.length ≤ 4300 →
      readLevel n.repr = .ok (min (n : Int) 0xFFFF) ∧ readLevel ("-" ++ n.repr) = .ok 0) ∧
    (∀ n : Nat, 4300 < n.repr.length →
      readLevel n.repr = .error (.invalidNumber n.repr) ∧
      readLevel ("-" ++ n.repr) = .error (.invalidNumber ("-" ++ n.repr))) ∧
    (∀ (n : Nat) (token : String),
      token.toList.map Char.toLower = '0' :: 'x' :: Nat.toDigits 16 n →
      readLevel token = .ok (min (n : Int) 0xFFFF)) ∧
    ∀ token : String, (∃ level, readLevel token = .ok level ∧ 0 ≤ level ∧ level ≤ 0xFFFF) ∨
      ∃ fault, readLevel token = .error fault ∧ fault = .invalidNumber token ∧
        fault.code = "invalid_number" := by
  have hplain : ∀ n : Nat, n.repr.toList = (if false then ['-'] else []) ++ Nat.toDigits 10 n :=
    fun n => Nat.toList_repr
  have hminus : ∀ n : Nat, ("-" ++ n.repr).toList = (if true then ['-'] else []) ++ Nat.toDigits 10 n := by
    intro n
    rw [String.toList_append, Nat.toList_repr]
    rfl
  refine ⟨fun n hn => ?_, fun n hn => ?_, fun n token htoken => ?_, fun token => ?_⟩
  · have hshort : ¬ maxDigits < n.repr.length := Nat.not_lt.mpr hn
    rw [readLevel_repr false n (hplain n), readLevel_repr true n (hminus n), if_neg hshort,
      if_neg hshort]
    exact ⟨rfl, rfl⟩
  · have hlong : maxDigits < n.repr.length := hn
    rw [readLevel_repr false n (hplain n), readLevel_repr true n (hminus n), if_pos hlong,
      if_pos hlong]
    exact ⟨rfl, rfl⟩
  · rw [← map_digitChar_toDigits (by decide) (by decide) n] at htoken
    rw [readLevel_hexadecimal (fun d => mem_toDigits_lt (by decide)) (toDigits_ne_nil 16 n) htoken,
      ofDigits_toDigits (by decide), clampLevel_natCast]
  · exact (readLevel_cases token).imp id fun h => ⟨_, h, rfl, rfl⟩

theorem readLevel_numeral_mixed :
    Nat.repr 70000 = "70000" ∧ "70000".length ≤ 4300 ∧ readLevel "70000" = .ok 0xFFFF ∧
    readLevel "-70000" = .ok 0 ∧ 4300 < (Nat.repr (10 ^ 4300)).length ∧
    readLevel (Nat.repr (10 ^ 4300)) = .error (.invalidNumber (Nat.repr (10 ^ 4300))) ∧
    "0XbEEf".toList.map Char.toLower = '0' :: 'x' :: Nat.toDigits 16 48879 ∧
    readLevel "0XbEEf" = .ok 48879 := by
  obtain ⟨hshort, hlong, hhexadecimal, -⟩ := readLevel_numeral
  have hrepr : Nat.repr 70000 = "70000" := by decide +kernel
  have hlength : "70000".length ≤ 4300 := by decide
  have hdecimal := hshort 70000 (hrepr ▸ hlength)
  have hover := lt_length_repr 4300 (by decide)
  have hletters : "0XbEEf".toList.map Char.toLower = '0' :: 'x' :: Nat.toDigits 16 48879 := by
    decide +kernel
  rw [hrepr] at hdecimal
  exact ⟨hrepr, hlength, hdecimal.1, hdecimal.2, hover, (hlong _ hover).1, hletters,
    hhexadecimal 48879 "0XbEEf" hletters⟩

end Lamplighter
