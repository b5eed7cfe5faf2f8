import Lamplighter.Json.Basic
import Lamplighter.Text.Lowercase

/-!
# Targets: the bulbs that a command names

A command names every bulb, or some bulbs in an order.  Names are compared in their normal form:
lower case, words with one space between them.  A set of names keeps for each normal form the
spelling in which it first came.  `key` writes a set as one text, each name with its underscores
doubled and one underscore behind it.
-/

namespace Lamplighter

open Text

def normalChars (cs : List Char) : List Char :=
  joinWith [' '] (words (lower (trim cs)))

/-- the form in which names are compared -/
def normalName (name : String) : String :=
  String.ofList (normalChars name.toList)

/-- every bulb, or named ones: normal forms with their first spellings, in order -/
inductive Targets where
  | all
  | named (entries : List (String × String))
  deriving DecidableEq, Repr, Inhabited

namespace Targets

/-- is there an entry of this normal form? -/
def hasNormal (entries : List (String × String)) (normal : String) : Bool :=
  entries.any fun e => e.1 == normal

/-- add an entry unless there is one of its normal form -/
def addEntry (entries : List (String × String)) (entry : String × String) :
    List (String × String) :=
  if hasNormal entries entry.1 then entries else entries ++ [entry]

/-- add a name under its normal form -/
def addName (entries : List (String × String)) (name : String) : List (String × String) :=
  addEntry entries (normalName name, name)

def ofNames (names : List String) : Targets :=
  .named (names.foldl addName [])

def isAll : Targets → Bool
  | .all => true
  | .named _ => false

/-- the spellings, in order -/
def names : Targets → List String
  | .all => []
  | .named entries => entries.map (·.2)

/-- the normal forms, in order -/
def normalNames : Targets → List String
  | .all => []
  | .named entries => entries.map (·.1)

/-- no name is left -/
def isExhausted : Targets → Bool
  | .all => false
  | .named entries => entries.isEmpty

def size (targets : Targets) : Nat :=
  targets.names.length

def isMatch (targets : Targets) (name : String) : Bool :=
  match targets with
  | .all => true
  | .named entries => hasNormal entries (normalName name)

/-- the entries of other normal forms -/
def without (entries : List (String × String)) (normal : String) : List (String × String) :=
  entries.filter fun e => e.1 != normal

def discard (targets : Targets) (name : String) : Targets :=
  match targets with
  | .all => .all
  | .named entries => .named (without entries (normalName name))

/-- the set built anew from its spellings -/
def copy : Targets → Targets
  | .all => .all
  | .named entries => ofNames (entries.map (·.2))

/-- both are all, or the normal forms are the same in the same order -/
def isSame (s t : Targets) : Bool :=
  s.isAll == t.isAll && s.normalNames == t.normalNames

/-- a name with its underscores doubled and one behind it -/
def escapeName (name : List Char) : List Char :=
  name.flatMap (fun c => if c = '_' then ['_', '_'] else [c]) ++ ['_']

/-- the text under which snapshots of this very set are kept -/
def key : Targets → String
  | .all => "all"
  | .named entries => String.ofList (entries.flatMap fun e => escapeName e.1.toList)

def toJson : Targets → Json
  | .all => .str "all"
  | targets => .arr (targets.names.map .str)

@[simp] theorem isMatch_all (name : String) : isMatch .all name = true := rfl

@[simp] theorem discard_all (name : String) : discard .all name = .all := rfl

@[simp] theorem copy_all : copy .all = .all := rfl

theorem isMatch_discard_self {entries : List (String × String)} (name : String) :
    isMatch (discard (.named entries) name) name = false := by
  simp [discard, isMatch, without, hasNormal]

end Targets

end Lamplighter
