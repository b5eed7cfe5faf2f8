import Lamplighter.Json.Basic

/-!
# Command errors: why a sentence is no command

Each error has a code, a message, and the details that a program may want.
-/

namespace Lamplighter

inductive CommandError where
  | empty
  /-- nothing but an adverb -/
  | missingVerb (tokens : List String)
  | unknownVerb (word : String) (tokens : List String)
  | adverbNotAllowed (adverb verb : String)
  /-- a color verb without the word that begins its clause, or with nothing behind it -/
  | missingClause
  /-- a clause of speed words only -/
  | missingColor
  | invalidNumber (token : String)
  | unknownColor (name : String)
  deriving DecidableEq, Repr

namespace CommandError

def code : CommandError → String
  | .empty => "empty_command"
  | .missingVerb _ => "missing_verb"
  | .unknownVerb _ _ => "unknown_verb"
  | .adverbNotAllowed _ _ => "adverb_not_allowed"
  | .missingClause => "missing_clause"
  | .missingColor => "missing_clause"
  | .invalidNumber _ => "invalid_number"
  | .unknownColor _ => "unknown_color"

def message : CommandError → String
  | .empty => "No action defined"
  | .missingVerb _ => "No verb defined"
  | .unknownVerb word _ => "No verb recognized: " ++ word
  | .adverbNotAllowed adverb verb => "'" ++ adverb ++ "' cannot be used with '" ++ verb ++ "'"
  | .missingClause => "Color verbs need an 'in' clause, e.g. 'in red' or 'in 0xffff 0 0'"
  | .missingColor => "Missing color after 'in'"
  | .invalidNumber token => "Not a number: " ++ token
  | .unknownColor name => "Unknown color name: " ++ name

def details : CommandError → Json
  | .missingVerb tokens | .unknownVerb _ tokens => .obj [("tokens", .arr (tokens.map .str))]
  | .adverbNotAllowed adverb verb => .obj [("adverb", .str adverb), ("verb", .str verb)]
  | .invalidNumber token => .obj [("token", .str token)]
  | .unknownColor name => .obj [("color", .str name)]
  | .empty | .missingClause | .missingColor => .obj []

end CommandError

end Lamplighter
