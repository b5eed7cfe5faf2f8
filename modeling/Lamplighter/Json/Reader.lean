import Lamplighter.Json.Basic
import Lamplighter.Number.Numeral

/-!
# Json, read

`Json.read?` takes a whole text.  Besides the standard it knows the three words `NaN`, `Infinity`
and `-Infinity`.  A number without point and exponent is a whole number and has at most 4300
digits.  A pair of surrogate escapes is one character, and a lone one is the replacement character.

Every reader returns the value and the rest of the text.  The readers of nested values count down
a fuel that `read?` sets beyond the length of the text, and each level of nesting or item of a list
uses up a character, so it never runs out.
-/

namespace Lamplighter.Json

open Text Numeral

def isSpace (c : Char) : Bool :=
  c == ' ' || c == '\t' || c == '\n' || c == '\r'

def skipSpace (cs : List Char) : List Char :=
  cs.dropWhile isSpace

/-! ### Strings -/

def hexValue? (c : Char) : Option Nat :=
  if '0' ≤ c ∧ c ≤ '9' then some (c.toNat - '0'.toNat)
  else (letterValue? c).filter (· < 16)

/-- four hexadecimal digits -/
def readUnit : List Char → Option (Nat × List Char)
  | a :: b :: c :: d :: cs => do
    let a ← hexValue? a
    let b ← hexValue? b
    let c ← hexValue? c
    let d ← hexValue? d
    some (a * 4096 + b * 256 + c * 16 + d, cs)
  | _ => none

/-- the character of one 16-bit unit; a surrogate has none of its own -/
def unitChar (n : Nat) : Char :=
  if 0xD800 ≤ n ∧ n ≤ 0xDFFF then '\uFFFD' else Char.ofNat n

def pairChar (high low : Nat) : Char :=
  Char.ofNat (0x10000 + (high - 0xD800) * 1024 + (low - 0xDC00))

/-- the character of an escape with four digits, which may go on with a second one -/
def readCode (cs : List Char) : Option (Char × List Char) := do
  let (n, rest) ← readUnit cs
  if 0xD800 ≤ n ∧ n < 0xDC00 then
    match rest with
    | '\\' :: 'u' :: more =>
      match readUnit more with
      | some (m, after) =>
        if 0xDC00 ≤ m ∧ m ≤ 0xDFFF then some (pairChar n m, after) else some (unitChar n, rest)
      | none => none
    | _ => some (unitChar n, rest)
  else some (unitChar n, rest)

def simpleEscape? : Char → Option Char
  | '"' => some '"'
  | '\\' => some '\\'
  | '/' => some '/'
  | 'b' => some '\x08'
  | 'f' => some '\x0c'
  | 'n' => some '\n'
  | 'r' => some '\r'
  | 't' => some '\t'
  | _ => none

theorem length_readUnit {cs rest : List Char} {n : Nat} (h : readUnit cs = some (n, rest)) :
    rest.length + 4 = cs.length := by
  unfold readUnit at h
  split at h
  · simp only [Option.bind_eq_bind, Option.bind_eq_some_iff, Option.some.injEq, Prod.mk.injEq] at h
    obtain ⟨_, _, _, _, _, _, _, _, _, rfl⟩ := h
    rfl
  · simp at h

theorem length_readCode {cs rest : List Char} {c : Char} (h : readCode cs = some (c, rest)) :
    rest.length < cs.length := by
  unfold readCode at h
  simp only [Option.bind_eq_bind, Option.bind_eq_some_iff] at h
  obtain ⟨⟨n, r⟩, hu, h⟩ := h
  have hl := length_readUnit hu
  simp only at h
  split at h
  · split at h
    · split at h
      · rename_i more m after hm
        have hl' := length_readUnit hm
        simp only [List.length_cons] at hl
        split at h <;> (simp only [Option.some.injEq, Prod.mk.injEq] at h; obtain ⟨_, rfl⟩ := h)
        · omega
        · simp only [List.length_cons]; omega
      · simp at h
    · simp only [Option.some.injEq, Prod.mk.injEq] at h
      obtain ⟨_, rfl⟩ := h
      omega
  · simp only [Option.some.injEq, Prod.mk.injEq] at h
    obtain ⟨_, rfl⟩ := h
    omega

/-- the text up to the closing quote; control characters may not stand in it -/
def readString (cs : List Char) : Option (List Char × List Char) :=
  match cs with
  | [] => none
  | '"' :: rest => some ([], rest)
  | '\\' :: 'u' :: rest =>
    match _h : readCode rest with
    | none => none
    | some (c, after) => (readString after).map fun (s, r) => (c :: s, r)
  | '\\' :: e :: rest =>
    match simpleEscape? e with
    | none => none
    | some c => (readString rest).map fun (s, r) => (c :: s, r)
  | '\\' :: [] => none
  | c :: rest => if c.toNat < 0x20 then none else (readString rest).map fun (s, r) => (c :: s, r)
termination_by cs.length
decreasing_by
  · have := length_readCode _h
    simp only [List.length_cons]
    omega
  · simp only [List.length_cons]
    omega
  · exact Nat.lt_succ_self _

/-! ### Numbers -/

def isAsciiDigit (c : Char) : Bool :=
  '0' ≤ c && c ≤ '9'

def asciiDigits (cs : List Char) : List Nat :=
  cs.map fun c => c.toNat - '0'.toNat

/-- the digits after a point, when there is a point with a digit after it -/
def readFraction : List Char → Option (List Char) × List Char
  | '.' :: c :: cs =>
    if isAsciiDigit c then
      (some (c :: cs.takeWhile isAsciiDigit), cs.dropWhile isAsciiDigit)
    else (none, '.' :: c :: cs)
  | cs => (none, cs)

/-- the exponent, when there is a mark with a digit after it and its sign -/
def readPower (cs : List Char) : Option Int × List Char :=
  match cs with
  | mark :: rest =>
    if mark == 'e' || mark == 'E' then
      let (negative, digits) := takeSign rest
      if (digits.takeWhile isAsciiDigit).isEmpty then (none, cs)
      else
        let n := Int.ofNat (ofDigits 10 (asciiDigits (digits.takeWhile isAsciiDigit)))
        (some (if negative then -n else n), digits.dropWhile isAsciiDigit)
    else (none, cs)
  | [] => (none, cs)

/-- the whole part: a zero, or digits that begin with another one -/
def readWhole : List Char → Option (List Char × List Char)
  | '0' :: cs => some (['0'], cs)
  | c :: cs =>
    if isAsciiDigit c then some (c :: cs.takeWhile isAsciiDigit, cs.dropWhile isAsciiDigit)
    else none
  | [] => none

def readNumber (negative : Bool) (cs : List Char) : Option (Json × List Char) := do
  let (whole, cs) ← readWhole cs
  match readFraction cs with
  | (fraction, cs) =>
    match fraction, readPower cs with
    | none, (none, cs) =>
      if maxDigits < whole.length then none
      else
        let n := Int.ofNat (ofDigits 10 (asciiDigits whole))
        some (.int (if negative then -n else n), cs)
    | fraction, (power, cs) =>
      let fraction := fraction.getD []
      let digits := ofDigits 10 (asciiDigits (whole ++ fraction))
      some (.float (ofDecimal negative digits (power.getD 0 - Int.ofNat fraction.length)), cs)

/-! ### Values -/

/-- the rest of the text after a word that it begins with -/
def after? (word : List Char) (cs : List Char) : Option (List Char) :=
  if word.isPrefixOf cs then some (cs.drop word.length) else none

/-- a value that is a single word -/
def readWord (cs : List Char) : Option (Json × List Char) :=
  match cs with
  | 'n' :: _ => (after? "null".toList cs).map (Json.null, ·)
  | 't' :: _ => (after? "true".toList cs).map (Json.bool true, ·)
  | 'f' :: _ => (after? "false".toList cs).map (Json.bool false, ·)
  | 'N' :: _ => (after? "NaN".toList cs).map (Json.float Binary64.nan, ·)
  | 'I' :: _ => (after? "Infinity".toList cs).map (Json.float Binary64.infinity, ·)
  | '-' :: rest =>
    match after? "Infinity".toList rest with
    | some after => some (.float (-Binary64.infinity), after)
    | none => readNumber true rest
  | cs => readNumber false cs

mutual

/-- a value, with no blank before it -/
def readValue : Nat → List Char → Option (Json × List Char)
  | 0, _ => none
  | fuel + 1, cs =>
    match cs with
    | '"' :: rest => (readString rest).map fun (s, r) => (.str (String.ofList s), r)
    | '[' :: rest =>
      match skipSpace rest with
      | ']' :: after => some (.arr [], after)
      | rest => (readItems fuel rest).map fun (items, r) => (.arr items, r)
    | '\x7b' :: rest =>
      match skipSpace rest with
      | '\x7d' :: after => some (.obj [], after)
      | rest => (readMembers fuel rest).map fun (members, r) => (.obj (Assoc.ofList members), r)
    | cs => readWord cs

/-- the items of a list from the next one on, with no blank before it, to the closing bracket -/
def readItems : Nat → List Char → Option (List Json × List Char)
  | 0, _ => none
  | fuel + 1, cs => do
    let (item, cs) ← readValue fuel cs
    match skipSpace cs with
    | ',' :: rest =>
      let (items, rest) ← readItems fuel (skipSpace rest)
      some (item :: items, rest)
    | ']' :: rest => some ([item], rest)
    | _ => none

/-- the members of an object from the next one on to the closing brace -/
def readMembers : Nat → List Char → Option (List (String × Json) × List Char)
  | 0, _ => none
  | fuel + 1, cs =>
    match cs with
    | '"' :: rest => do
      let (name, cs) ← readString rest
      match skipSpace cs with
      | ':' :: rest =>
        let (value, cs) ← readValue fuel (skipSpace rest)
        match skipSpace cs with
        | ',' :: rest =>
          let (members, rest) ← readMembers fuel (skipSpace rest)
          some ((String.ofList name, value) :: members, rest)
        | '\x7d' :: rest => some ([(String.ofList name, value)], rest)
        | _ => none
      | _ => none
    | _ => none

end

def readChars? (cs : List Char) : Option Json := do
  let (value, rest) ← readValue (cs.length + 1) (skipSpace cs)
  if (skipSpace rest).isEmpty then some value else none

def read? (text : String) : Option Json :=
  readChars? text.toList

end Lamplighter.Json
