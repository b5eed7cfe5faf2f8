import Lamplighter.Json.Basic
import Lamplighter.Number.Shortest
import Lamplighter.Text.Quoted

/-!
# Json, written

`render` writes a value on one line without blanks, and `pretty` with two blanks of indentation for
each level.  Inside a string the quote, the backslash and the control characters are escaped;
`Charset.ascii` also escapes the delete character and everything outside ASCII, in 16-bit units, and
`Charset.unicode` leaves them as they are.  No text that is written holds a line break of a string.
-/

namespace Lamplighter.Json

open Text

/-- which characters may stand unescaped in a string -/
inductive Charset where
  | ascii
  | unicode
  deriving DecidableEq, Repr

/-- an escape with four hexadecimal digits -/
def unitEscape (n : Nat) : List Char :=
  '\\' :: 'u' :: hexPadded 4 n

def codeEscape (c : Char) : List Char :=
  let n := c.toNat
  if n < 0x10000 then unitEscape n
  else
    unitEscape (0xD800 + (n - 0x10000) / 1024) ++ unitEscape (0xDC00 + (n - 0x10000) % 1024)

def escape (charset : Charset) (c : Char) : List Char :=
  if c = '"' then ['\\', '"']
  else if c = '\\' then ['\\', '\\']
  else if c = '\n' then ['\\', 'n']
  else if c = '\r' then ['\\', 'r']
  else if c = '\t' then ['\\', 't']
  else if c = '\x08' then ['\\', 'b']
  else if c = '\x0c' then ['\\', 'f']
  else if c.toNat < 0x20 then codeEscape c
  else if charset = .ascii ∧ 0x7F ≤ c.toNat then codeEscape c
  else [c]

def renderString (charset : Charset) (s : String) : List Char :=
  '"' :: (s.toList.flatMap (escape charset) ++ ['"'])

def renderFloat (x : Float) : List Char :=
  Shortest.renderNamed "Infinity".toList "NaN".toList x

mutual

/-- no number in a value is infinite or undefined -/
def isFinite : Json → Bool
  | .float x => x.isFinite
  | .arr items => areFinite items
  | .obj members => areFiniteMembers members
  | _ => true

def areFinite : List Json → Bool
  | [] => true
  | item :: items => item.isFinite && areFinite items

def areFiniteMembers : List (String × Json) → Bool
  | [] => true
  | (_, value) :: members => value.isFinite && areFiniteMembers members

end

def renderInt (n : Int) : List Char :=
  signed decimal n

mutual

def render (charset : Charset) : Json → List Char
  | .null => "null".toList
  | .bool true => "true".toList
  | .bool false => "false".toList
  | .int n => renderInt n
  | .float x => renderFloat x
  | .str s => renderString charset s
  | .arr [] => ['[', ']']
  | .arr (item :: items) => '[' :: (render charset item ++ renderItems charset items)
  | .obj [] => ['\x7b', '\x7d']
  | .obj ((name, value) :: members) =>
    '\x7b' :: (renderString charset name ++ ':' :: (render charset value
      ++ renderMembers charset members))

/-- the items after the first, and the closing bracket -/
def renderItems (charset : Charset) : List Json → List Char
  | [] => [']']
  | item :: items => ',' :: (render charset item ++ renderItems charset items)

/-- the members after the first, and the closing brace -/
def renderMembers (charset : Charset) : List (String × Json) → List Char
  | [] => ['\x7d']
  | (name, value) :: members =>
    ',' :: (renderString charset name ++ ':' :: (render charset value
      ++ renderMembers charset members))

end

def toText (charset : Charset) (json : Json) : String :=
  String.ofList (render charset json)

/-! ### Indented -/

/-- a new line at the given level -/
def newLine (level : Nat) : List Char :=
  '\n' :: List.replicate (2 * level) ' '

mutual

def pretty (charset : Charset) (level : Nat) : Json → List Char
  | .arr (item :: items) =>
    '[' :: (newLine (level + 1) ++ pretty charset (level + 1) item
      ++ prettyItems charset level items)
  | .obj ((name, value) :: members) =>
    '\x7b' :: (newLine (level + 1) ++ renderString charset name ++ ':' :: ' '
      :: (pretty charset (level + 1) value ++ prettyMembers charset level members))
  | json => render charset json

def prettyItems (charset : Charset) (level : Nat) : List Json → List Char
  | [] => newLine level ++ [']']
  | item :: items =>
    ',' :: (newLine (level + 1) ++ pretty charset (level + 1) item
      ++ prettyItems charset level items)

def prettyMembers (charset : Charset) (level : Nat) : List (String × Json) → List Char
  | [] => newLine level ++ ['\x7d']
  | (name, value) :: members =>
    ',' :: (newLine (level + 1) ++ renderString charset name ++ ':' :: ' '
      :: (pretty charset (level + 1) value ++ prettyMembers charset level members))

end

def toPrettyText (charset : Charset) (json : Json) : String :=
  String.ofList (pretty charset 0 json)

end Lamplighter.Json
