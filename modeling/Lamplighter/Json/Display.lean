import Lamplighter.Json.Basic
import Lamplighter.Number.Shortest
import Lamplighter.Text.Quoted

/-!
# Json, shown to a reader

`literal` writes a value as a literal, texts quoted, and `display` is the same but for a text, which
stands for itself.  Truth values and the null are capitalised words.
-/

namespace Lamplighter.Json

open Text

mutual

def literal : Json → List Char
  | .null => "None".toList
  | .bool true => "True".toList
  | .bool false => "False".toList
  | .int n => signed decimal n
  | .float x => Shortest.render x
  | .str s => quoted s.toList
  | .arr [] => ['[', ']']
  | .arr (item :: items) => '[' :: (literal item ++ literalItems items)
  | .obj [] => ['\x7b', '\x7d']
  | .obj ((name, value) :: members) =>
    '\x7b' :: (quoted name.toList ++ ':' :: ' ' :: (literal value ++ literalMembers members))

def literalItems : List Json → List Char
  | [] => [']']
  | item :: items => ',' :: ' ' :: (literal item ++ literalItems items)

def literalMembers : List (String × Json) → List Char
  | [] => ['\x7d']
  | (name, value) :: members =>
    ',' :: ' ' :: (quoted name.toList ++ ':' :: ' ' :: (literal value ++ literalMembers members))

end

def display : Json → String
  | .str s => s
  | json => String.ofList (literal json)

end Lamplighter.Json
