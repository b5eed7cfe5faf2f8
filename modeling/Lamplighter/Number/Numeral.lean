import Lamplighter.Number.Binary64
import Lamplighter.Text.Quoted

/-!
# Numerals: whole and decimal numbers read from text

A numeral may stand between blanks and may have a sign.  Its digits are decimal digits of any
script, with single underscores between them; in base sixteen they may follow `0x`.  A numeral in
base ten has at most 4300 digits.  Around a numeral the four ASCII separators do not count as
blanks.
-/

namespace Lamplighter.Numeral

open Text

/-- why a text is no whole number -/
inductive Fault where
  | malformed (base : Nat) (text : String)
  | tooLong (digits : Nat)
  deriving DecidableEq, Repr

/-- how many digits a numeral in base ten may have -/
def maxDigits : Nat := 4300

def Fault.message : Fault → String
  | .malformed base text =>
    let shown := String.ofList ((quoted text.toList).take 200)
    "invalid literal for int() with base " ++ String.ofList (decimal base) ++ ": " ++ shown
  | .tooLong digits =>
    "Exceeds the limit (" ++ String.ofList (decimal maxDigits)
      ++ " digits) for integer string conversion: value has " ++ String.ofList (decimal digits)
      ++ " digits; use sys.set_int_max_str_digits() to increase the limit"

/-- a blank that may stand around a numeral -/
def isPadding (c : Char) : Bool :=
  isBlank c && !(0x1C ≤ c.toNat && c.toNat ≤ 0x1F)

def unpad (cs : List Char) : List Char :=
  ((cs.dropWhile isPadding).reverse.dropWhile isPadding).reverse

/-- the digits of every script as ASCII digits -/
def plainDigits (cs : List Char) : List Char :=
  cs.map fun c => ((decimalValue? c).map digitChar).getD c

/-- the sign, as "is negative", and the rest -/
def takeSign : List Char → Bool × List Char
  | '-' :: cs => (true, cs)
  | '+' :: cs => (false, cs)
  | cs => (false, cs)

/-- no underscore stands at an end or beside another one -/
def isGrouped : List Char → Bool
  | [] => false
  | ['_'] => false
  | [_] => true
  | '_' :: _ :: _ => false
  | _ :: '_' :: cs => isGrouped cs
  | _ :: c :: cs => isGrouped (c :: cs)

/-- the digits after `0x`, which one underscore may follow -/
def dropHexMark : List Char → List Char
  | '0' :: 'x' :: '_' :: cs => cs
  | '0' :: 'X' :: '_' :: cs => cs
  | '0' :: 'x' :: cs => cs
  | '0' :: 'X' :: cs => cs
  | cs => cs

/-- the value of a run of digits and underscores that is all of the text -/
def readDigits (base : Nat) (cs : List Char) : Option (List Nat) :=
  if isGrouped cs then (cs.filter (· != '_')).mapM (digitValue? base) else none

def readInt (base : Nat) (text : List Char) : Except Fault Int :=
  let (negative, body) := takeSign (plainDigits (unpad text))
  let body := if base = 16 then dropHexMark body else body
  let run := body.takeWhile fun c => c == '_' || (digitValue? base c).isSome
  let count := (run.filter (· != '_')).length
  if base = 10 ∧ isGrouped run ∧ maxDigits < count then .error (.tooLong count)
  else match readDigits base body with
    | none => .error (.malformed base (String.ofList text))
    | some digits =>
      let n := Int.ofNat (ofDigits base digits)
      .ok (if negative then -n else n)

/-! ### Decimal numbers -/

/-- `± digits · 10 ^ exponent`, as the nearest binary number -/
def ofDecimal (negative : Bool) (digits : Nat) (exponent : Int) : Float :=
  -- far outside the range the size alone decides
  let size := Int.ofNat (toDigits 10 digits).length + exponent
  if digits = 0 ∨ size < -400 then Binary64.ofRatio negative 0 1
  else if 400 < size then (if negative then -Binary64.infinity else Binary64.infinity)
  else if 0 ≤ exponent then Binary64.ofRatio negative (digits * pow10 exponent.toNat) 1
  else Binary64.ofRatio negative digits (pow10 (-exponent).toNat)

/-- the leading decimal digits, each with its value, and the rest -/
def spanDigits (cs : List Char) : List Nat × List Char :=
  match cs with
  | [] => ([], [])
  | c :: rest =>
    match decimalValue? c with
    | none => ([], c :: rest)
    | some d => let (ds, rest) := spanDigits rest; (d :: ds, rest)

/-- an exponent that is all of the text -/
def readExponent : List Char → Option Int
  | [] => some 0
  | c :: cs =>
    if c = 'e' ∨ c = 'E' then
      let (negative, cs) := takeSign cs
      match spanDigits cs with
      | (d :: ds, []) =>
        let n := Int.ofNat (ofDigits 10 (d :: ds))
        some (if negative then -n else n)
      | _ => none
    else none

/-- digits, a point and digits, with at least one digit, and an exponent -/
def readUnsigned (negative : Bool) (cs : List Char) : Option Float :=
  let (whole, cs) := spanDigits cs
  let (fraction, cs) := match cs with
    | '.' :: cs => spanDigits cs
    | cs => ([], cs)
  if whole.isEmpty && fraction.isEmpty then none
  else (readExponent cs).map fun exponent =>
    ofDecimal negative (ofDigits 10 (whole ++ fraction)) (exponent - Int.ofNat fraction.length)

/-- every underscore stands between two decimal digits; the text without them -/
def dropUnderscores (afterDigit : Bool) : List Char → Option (List Char)
  | [] => some []
  | '_' :: c :: cs =>
    if afterDigit && (decimalValue? c).isSome then (dropUnderscores true cs).map (c :: ·) else none
  | '_' :: [] => none
  | c :: cs => (dropUnderscores (decimalValue? c).isSome cs).map (c :: ·)

def readFloat? (text : List Char) : Option Float := do
  let cs ← dropUnderscores false (unpad text)
  let (negative, cs) := takeSign cs
  match cs.map Char.toLower with
  | ['i', 'n', 'f'] | ['i', 'n', 'f', 'i', 'n', 'i', 't', 'y'] =>
    some (if negative then -Binary64.infinity else Binary64.infinity)
  | ['n', 'a', 'n'] => some Binary64.nan
  | _ => readUnsigned negative cs

end Lamplighter.Numeral
