import Lamplighter.Color.Named
import Lamplighter.Command.Error
import Lamplighter.Command.Targets
import Lamplighter.Number.Numeral

/-!
# Clauses: what the words of a sentence say

A sentence is a list of tokens.  Keywords are recognised in any letter case, each by a scan of its
own: the names up to the keyword that ends them, the value behind a keyword, the speed word
anywhere, the adverb in front, and the color behind `in`.
-/

namespace Lamplighter

open Text

def lowerToken (token : String) : String :=
  lowerString token

/-- the sentence cut into tokens -/
def tokenize (sentence : String) : List String :=
  (words sentence.toList).map String.ofList

/-- the place of the first token that is the keyword in lower case -/
def indexOf? (tokens : List String) (keyword : String) : Option Nat :=
  tokens.findIdx? fun t => lowerToken t == keyword

/-! ### Names -/

/-- a position in a list of the given length, counted from the end when negative -/
def clampIndex (length : Nat) (i : Int) : Nat :=
  if i < 0 then (Int.ofNat length + i).toNat else min i.toNat length

/-- the targets named from `start` up to the stopper, or to the end -/
def readTargets (tokens : List String) (start : Int) (stopper : Option String) : Targets :=
  let stop := match stopper with
    | none => tokens.length
    | some keyword =>
      if keyword.isEmpty then tokens.length else (indexOf? tokens keyword).getD tokens.length
  match (tokens.take stop).drop (clampIndex tokens.length start) with
  | [] => .all
  | first :: rest =>
    if lowerToken first == "all" then .all
    else .ofNames ((first :: rest).filter fun t => lowerToken t != "and")

/-! ### Values, speed and adverb -/

/-- the token behind the first keyword -/
def valueAfter? (tokens : List String) (keyword : String) : Option String :=
  (indexOf? tokens keyword).bind fun i => tokens[i + 1]?

/-- the transition times of the two speed words -/
def quickly : Int := 0

def slowly : Int := 10000

def hasKeyword (tokens : List String) (keyword : String) : Bool :=
  (indexOf? tokens keyword).isSome

/-- the transition time that a speed word asks for -/
def readSpeed? (tokens : List String) : Option Int :=
  if hasKeyword tokens "quickly" then some quickly
  else if hasKeyword tokens "slowly" then some slowly
  else none

def isAdverb (word : String) : Bool :=
  word == "much" || word == "little"

/-- the adverb at the front, in lower case -/
def readAdverb? (tokens : List String) : Option String :=
  tokens.head?.bind fun t => if isAdverb (lowerToken t) then some (lowerToken t) else none

/-! ### Numbers and colors -/

/-- bring a number onto the 16-bit scale -/
def clampLevel (n : Int) : Int :=
  max 0 (min 0xFFFF n)

/-- a level, decimal or hexadecimal behind `0x` -/
def readLevel (token : String) : Except CommandError Int :=
  let read := match lower (trim token.toList) with
    | '0' :: 'x' :: digits => Numeral.readInt 16 digits
    | digits => Numeral.readInt 10 digits
  match read with
  | .ok n => .ok (clampLevel n)
  | .error _ => .error (.invalidNumber token)

/-- the color of a clause: three levels, or the words of a name -/
inductive ColorChoice where
  | levels (levels : Levels)
  | name (name : String)
  deriving DecidableEq, Repr, Inhabited

def isSpeedWord (token : String) : Bool :=
  lowerToken token == "quickly" || lowerToken token == "slowly"

def startsWithDigit (token : String) : Bool :=
  (token.toList.head?.map isDigit).getD false

/-- three or more words, the first of which begins with a digit, are levels -/
def readColorWords : List String → Except CommandError ColorChoice
  | [] => .error .missingColor
  | a :: b :: c :: rest =>
    if startsWithDigit a then do
      let first ← readLevel a
      let second ← readLevel b
      let third ← readLevel c
      return .levels { first, second, third }
    else .ok (.name (" ".intercalate (a :: b :: c :: rest)))
  | few => .ok (.name (" ".intercalate few))

/-- the color behind the first `in`, speed words left out -/
def readColor (tokens : List String) : Except CommandError ColorChoice :=
  match indexOf? tokens "in" with
  | none => .error .missingClause
  | some i =>
    match tokens.drop (i + 1) with
    | [] => .error .missingClause
    | clause => readColorWords (clause.filter fun t => !isSpeedWord t)

end Lamplighter
