import Lamplighter.Assoc

/-!
# Json: values as they are written

Whole numbers and floating-point numbers are kept apart, and an object keeps its members in the
order in which their names first came; a later member of the same name replaces the value only.
-/

namespace Lamplighter

inductive Json where
  | null
  | bool (b : Bool)
  | int (n : Int)
  | float (x : Float)
  | str (s : String)
  | arr (items : List Json)
  | obj (members : List (String × Json))
  deriving Inhabited

namespace Json

/-- the value under a name, if this is an object that has it -/
def get? (json : Json) (name : String) : Option Json :=
  match json with
  | .obj members => Assoc.get? members name
  | _ => none

/-- the word for the kind of a value -/
def kind : Json → String
  | .null => "NoneType"
  | .bool _ => "bool"
  | .int _ => "int"
  | .float _ => "float"
  | .str _ => "str"
  | .arr _ => "list"
  | .obj _ => "dict"

def ofOption {α : Type} (f : α → Json) : Option α → Json
  | none => .null
  | some a => f a

end Json

end Lamplighter
