import Lamplighter.Text.DigitTable
import Lamplighter.Text.Words

/-!
# Digits: decimal digits of every script, and hexadecimal letters

`decimalValue? c` is the value of a decimal digit of any script.  `digitValue? base c` also takes
the Latin letters from the tenth digit on, in either case.  `isDigit` is wider than both: it holds
of superscripts and circled digits, which no numeral may be written with.
-/

namespace Lamplighter.Text

def decimalValueIn : List Nat → Nat → Option Nat
  | [], _ => none
  | z :: zs, n => if z ≤ n ∧ n ≤ z + 9 then some (n - z) else decimalValueIn zs n

def decimalValue? (c : Char) : Option Nat :=
  decimalValueIn decimalZeros c.toNat

def isDigit (c : Char) : Bool :=
  inRanges digitRanges c

def letterValue? (c : Char) : Option Nat :=
  if 'a' ≤ c ∧ c ≤ 'z' then some (c.toNat - 'a'.toNat + 10)
  else if 'A' ≤ c ∧ c ≤ 'Z' then some (c.toNat - 'A'.toNat + 10)
  else none

def digitValue? (base : Nat) (c : Char) : Option Nat :=
  ((decimalValue? c).or (letterValue? c)).filter (· < base)

/-- the value of a digit string, the most significant digit first -/
def ofDigits (base : Nat) (digits : List Nat) : Nat :=
  digits.foldl (fun n d => n * base + d) 0

/-- the digits of `n`, the most significant first; zero has one digit -/
def toDigits (base n : Nat) : List Nat :=
  if _h : base < 2 ∨ n < base then [n]
  else toDigits base (n / base) ++ [n % base]
termination_by n
decreasing_by exact Nat.div_lt_self (by omega) (by omega)

/-- the ASCII character of a digit below sixteen -/
def digitChar (d : Nat) : Char :=
  if d < 10 then Char.ofNat ('0'.toNat + d) else Char.ofNat ('a'.toNat + (d - 10))

def decimal (n : Nat) : List Char :=
  (toDigits 10 n).map digitChar

def hexadecimal (n : Nat) : List Char :=
  (toDigits 16 n).map digitChar

def signed (digits : Nat → List Char) (n : Int) : List Char :=
  if n < 0 then '-' :: digits n.natAbs else digits n.natAbs

theorem toDigits_of_lt {base n : Nat} (h : n < base) : toDigits base n = [n] := by
  rw [toDigits, dif_pos (Or.inr h)]

theorem toDigits_of_le {base n : Nat} (hb : 2 ≤ base) (h : base ≤ n) :
    toDigits base n = toDigits base (n / base) ++ [n % base] := by
  rw [toDigits, dif_neg (by omega)]

theorem ofDigits_append_singleton (base : Nat) (ds : List Nat) (d : Nat) :
    ofDigits base (ds ++ [d]) = ofDigits base ds * base + d := by
  simp [ofDigits]

theorem ofDigits_toDigits {base : Nat} (hb : 2 ≤ base) (n : Nat) :
    ofDigits base (toDigits base n) = n := by
  rcases Nat.lt_or_ge n base with h | h
  · simp [toDigits_of_lt h, ofDigits]
  · rw [toDigits_of_le hb h, ofDigits_append_singleton,
      ofDigits_toDigits hb (n / base), Nat.mul_comm]
    exact Nat.div_add_mod n base
termination_by n
decreasing_by exact Nat.div_lt_self (by omega) (by omega)

end Lamplighter.Text
