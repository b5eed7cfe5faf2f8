import Lamplighter.Text.CaseTable
import Lamplighter.Text.Words

/-!
# Lower case: the full mapping, one text at a time

Every character has a lower-case form of its own, except two.  The dotted capital I becomes an i
and a combining dot.  The capital sigma becomes the final sigma at the end of a word and the small
sigma elsewhere: it ends a word when, marks passed over, a letter with case stands before it and
none stands after it.
-/

namespace Lamplighter.Text

/-- the form of a single code point, taken from the first run that holds it -/
def lowerCodeIn : List (Nat × Nat × Nat × Nat) → Nat → Nat
  | [], n => n
  | (first, last, stride, image) :: runs, n =>
    if first ≤ n ∧ n ≤ last ∧ (n - first) % stride = 0 then image + (n - first)
    else lowerCodeIn runs n

def lowerChar (c : Char) : Char :=
  Char.ofNat (lowerCodeIn lowercaseRuns c.toNat)

/-- does a letter with case come first once the marks are passed over? -/
def meetsCased (cs : List Char) : Bool :=
  match cs.dropWhile (inRanges transparentRanges) with
  | [] => false
  | c :: _ => inRanges casedRanges c

/-- the lower-case form of `c` between the text `before` it, nearest first, and the text `after` -/
def lowerBetween (before : List Char) (c : Char) (after : List Char) : List Char :=
  if c = 'Σ' then (if meetsCased before && !meetsCased after then ['ς'] else ['σ'])
  else if c = 'İ' then ['i', '\u0307']
  else [lowerChar c]

def lowerFrom (before : List Char) : List Char → List Char
  | [] => []
  | c :: cs => lowerBetween before c cs ++ lowerFrom (c :: before) cs

def lower (cs : List Char) : List Char :=
  lowerFrom [] cs

def lowerString (s : String) : String :=
  String.ofList (lower s.toList)

example : lowerString "ΟΔΟΣ Σ ΑΣΑ" = "οδος σ ασα" := by decide +kernel

end Lamplighter.Text
