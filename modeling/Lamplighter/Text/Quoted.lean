import Lamplighter.Text.Digits
import Lamplighter.Text.PrintableTable

/-!
# Quoted text: a text as a literal on one line

The quote is the apostrophe, or the double quote where the text holds apostrophes and no double
quotes.  The quote and the backslash are escaped by a backslash, line feed, carriage return and tab
have a letter, and every other unprintable character is written as its code in the shortest of the
three forms with two, four and eight hexadecimal digits.
-/

namespace Lamplighter.Text

def isPrintable (c : Char) : Bool :=
  !inRanges unprintableRanges c

/-- the low `width` hexadecimal digits of `n` -/
def hexPadded : Nat → Nat → List Char
  | 0, _ => []
  | width + 1, n => hexPadded width (n / 16) ++ [digitChar (n % 16)]

def quoteFor (cs : List Char) : Char :=
  if cs.contains '\'' && !cs.contains '"' then '"' else '\''

def escapeIn (quote c : Char) : List Char :=
  if c = quote ∨ c = '\\' then ['\\', c]
  else if c = '\n' then ['\\', 'n']
  else if c = '\r' then ['\\', 'r']
  else if c = '\t' then ['\\', 't']
  else if isPrintable c then [c]
  else if c.toNat < 0x100 then '\\' :: 'x' :: hexPadded 2 c.toNat
  else if c.toNat < 0x10000 then '\\' :: 'u' :: hexPadded 4 c.toNat
  else '\\' :: 'U' :: hexPadded 8 c.toNat

def quoted (cs : List Char) : List Char :=
  quoteFor cs :: (cs.flatMap (escapeIn (quoteFor cs)) ++ [quoteFor cs])

def quotedString (s : String) : String :=
  String.ofList (quoted s.toList)

example : quotedString "it's" = "\"it's\"" := by decide +kernel
example : quotedString "a\n\u00a0'\"" = "'a\\n\\xa0\\'\"'" := by decide +kernel

end Lamplighter.Text
