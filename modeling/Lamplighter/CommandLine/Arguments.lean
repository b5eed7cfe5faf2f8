import Lamplighter.Assoc
import Lamplighter.Number.Numeral

/-!
# Arguments: options and words of a command line

An argument is an option, a word, or the mark `--` behind which everything is a word.  An option is
given by its name or by the beginning of a long name that no other one shares, and takes its value
from behind an equals sign or from the next argument; one-letter flags can be written together.
A negative number, a text with a space and an unknown option are told apart by their looks.

The words are the first unbroken row of words; words anywhere else and unknown options are not
recognized.
-/

namespace Lamplighter.CommandLine

open Text

inductive OptionKind where
  | help | flag | text | decimal
  deriving DecidableEq, Repr, Inhabited

/-- an option with its names, the first of which it is known by -/
structure OptionSpec where
  names : List String
  kind : OptionKind
  deriving DecidableEq, Repr, Inhabited

namespace OptionSpec

def key (spec : OptionSpec) : String :=
  spec.names.headD ""

/-- the option takes a value -/
def takesValue (spec : OptionSpec) : Bool :=
  spec.kind == .text || spec.kind == .decimal

end OptionSpec

structure Grammar where
  program : String
  options : List OptionSpec
  takesWords : Bool
  deriving Repr, Inhabited

inductive OptionValue where
  | given
  | text (text : String)
  | decimal (x : Float)
  deriving Repr, Inhabited

structure Arguments where
  words : List String := []
  values : List (String × OptionValue) := []
  deriving Repr, Inhabited

namespace Arguments

def isGiven (arguments : Arguments) (key : String) : Bool :=
  (Assoc.get? arguments.values key).isSome

def text? (arguments : Arguments) (key : String) : Option String :=
  match Assoc.get? arguments.values key with
  | some (.text text) => some text
  | _ => none

def decimal? (arguments : Arguments) (key : String) : Option Float :=
  match Assoc.get? arguments.values key with
  | some (.decimal x) => some x
  | _ => none

end Arguments

inductive UsageError where
  | ambiguous (argument : String) (candidates : List String)
  | lacksValue (spec : OptionSpec)
  /-- a flag was given a value -/
  | needsNoValue (spec : OptionSpec) (value : String)
  | notDecimal (spec : OptionSpec) (value : String)
  | unrecognized (arguments : List String)
  deriving Repr, Inhabited

namespace UsageError

def ofOption (spec : OptionSpec) (text : String) : String :=
  "argument " ++ "/".intercalate spec.names ++ ": " ++ text

def message : UsageError → String
  | .ambiguous argument candidates =>
    "ambiguous option: " ++ argument ++ " could match " ++ ", ".intercalate candidates
  | .lacksValue spec => ofOption spec "expected one argument"
  | .needsNoValue spec value => ofOption spec ("ignored explicit argument " ++ quotedString value)
  | .notDecimal spec value => ofOption spec ("invalid float value: " ++ quotedString value)
  | .unrecognized arguments => "unrecognized arguments: " ++ " ".intercalate arguments

/-- the line that a program ends with -/
def line (program : String) (error : UsageError) : String :=
  program ++ ": error: " ++ error.message ++ "\n"

end UsageError

/-- why the arguments are not gone on with -/
inductive Halt where
  | help
  | usage (error : UsageError)
  deriving Repr, Inhabited

/-! ### Telling arguments apart -/

inductive Piece where
  | word (text : String)
  /-- the mark behind which there are only words -/
  | mark
  /-- an option under one of its names, with a value, which an equals sign may stand before -/
  | option (spec : OptionSpec) (name : String) (value : Option (Bool × List Char))
  | unknown (text : String)
  deriving Repr, Inhabited

namespace Piece

/-- the argument of a word or a mark -/
def wordText? : Piece → Option String
  | .word text => some text
  | .mark => some "--"
  | _ => none

end Piece

namespace Grammar

/-- the names of all options, with the options -/
def names (grammar : Grammar) : List (String × OptionSpec) :=
  grammar.options.flatMap fun spec => spec.names.map fun name => (name, spec)

def find? (grammar : Grammar) (name : List Char) : Option OptionSpec :=
  Assoc.get? grammar.names (String.ofList name)

end Grammar

/-- a text before its first equals sign, and the text behind it if there is one -/
def splitValue (cs : List Char) : List Char × Option (List Char) :=
  (cs.takeWhile (· != '='),
    match cs.dropWhile (· != '=') with
    | [] => none
    | _ :: value => some value)

/-- the readings of an argument that is no name of an option -/
def readings (grammar : Grammar) (argument : List Char) : List Piece :=
  match argument with
  | '-' :: '-' :: _ =>
    let (start, value) := splitValue argument
    (grammar.names.filter fun n => start.isPrefixOf n.1.toList).map fun (name, spec) =>
      .option spec name (value.map fun v => (true, v))
  | _ =>
    grammar.names.filterMap fun (name, spec) =>
      if name.toList == argument.take 2 then
        some (.option spec name (some (false, argument.drop 2)))
      else if argument.isPrefixOf name.toList then some (.option spec name none)
      else none

/-- digits behind a minus sign, which may have a point among or before them -/
def looksNegative (argument : List Char) : Bool :=
  match argument with
  | '-' :: rest =>
    let isNumber := fun cs : List Char =>
      let (whole, behind) := (cs.takeWhile isDecimal, cs.dropWhile isDecimal)
      match behind with
      | [] => !whole.isEmpty
      | '.' :: parts => !parts.isEmpty && parts.all isDecimal
      | _ => false
    isNumber rest || (rest.getLast? == some '\n' && isNumber rest.dropLast)
  | _ => false
where
  isDecimal (c : Char) : Bool := (decimalValue? c).isSome

/-- what an argument is that begins with a dash and is no name of an option -/
def classifyDashed (grammar : Grammar) (argument : List Char) : Except UsageError Piece :=
  let text := String.ofList argument
  let (start, value) := splitValue argument
  match value, grammar.find? start with
  | some value, some spec => .ok (.option spec (String.ofList start) (some (true, value)))
  | _, _ =>
    match readings grammar argument with
    | [piece] => .ok piece
    | [] =>
      if looksNegative argument || argument.contains ' ' then .ok (.word text)
      else .ok (.unknown text)
    | pieces =>
      .error (.ambiguous text (pieces.filterMap fun piece =>
        match piece with
        | .option _ name _ => some name
        | _ => none))

def classify (grammar : Grammar) (argument : String) : Except UsageError Piece :=
  match argument.toList with
  | '-' :: c :: rest =>
    match grammar.find? ('-' :: c :: rest) with
    | some spec => .ok (.option spec argument none)
    | none => classifyDashed grammar ('-' :: c :: rest)
  | _ => .ok (.word argument)

def classifyAll (grammar : Grammar) : List String → Except UsageError (List Piece)
  | [] => .ok []
  | argument :: rest =>
    if argument == "--" then .ok (.mark :: rest.map .word)
    else do
      let piece ← classify grammar argument
      return piece :: (← classifyAll grammar rest)

/-! ### Taking options -/

/-- what has been taken so far; words once the first row of them was met -/
structure Progress where
  words : Option (List String) := none
  values : List (String × OptionValue) := []
  strange : List String := []
  deriving Inhabited

namespace Progress

/-- take an option with its value -/
def take (progress : Progress) (spec : OptionSpec) (value : String) : Except Halt Progress :=
  let put := fun v => { progress with values := Assoc.put progress.values spec.key v }
  match spec.kind with
  | .help => .error .help
  | .flag => .ok (put .given)
  | .text => .ok (put (.text value))
  | .decimal =>
    match Numeral.readFloat? value.toList with
    | some x => .ok (put (.decimal x))
    | none => .error (.usage (.notDecimal spec value))

def addStrange (progress : Progress) (arguments : List String) : Progress :=
  { progress with strange := progress.strange ++ arguments }

/-- a row of words: the words of the command line, or words that are not recognized -/
def takeWords (progress : Progress) (grammar : Grammar) (row : List String) : Progress :=
  if grammar.takesWords && progress.words.isNone then
    { progress with words := some (row.erase "--") }
  else progress.addStrange row

end Progress

/-- the options of an argument that has a value: flags written together, the last of which may be
one that takes the rest as its value, or the next argument; and what is left over -/
def readTogether (grammar : Grammar) (spec : OptionSpec) (name : String) (hasSign : Bool)
    (value : List Char) : Except UsageError (List (OptionSpec × Option String) × List String) :=
  if spec.takesValue then .ok ([(spec, some (String.ofList value))], [])
  else
    match value with
    | [] => .error (.needsNoValue spec "")
    | c :: rest =>
      if name.toList[1]? == some '-' || hasSign || c == '-' then
        .error (.needsNoValue spec (String.ofList (c :: rest)))
      else
        match grammar.find? ['-', c] with
        | none => .ok ([(spec, some "")], [String.ofList ('-' :: c :: rest)])
        | some next =>
          match rest with
          | [] => .ok ([(spec, some ""), (next, none)], [])
          | d :: behind => do
            let (options, left) ←
              if d = '=' then readTogether grammar next (String.ofList ['-', c]) true behind
              else readTogether grammar next (String.ofList ['-', c]) false (d :: behind)
            return ((spec, some "") :: options, left)
termination_by value.length

/-- take options, each with the value it has or with the next word -/
def takeOptions (progress : Progress) (rest : List Piece) :
    List (OptionSpec × Option String) → Except Halt (Progress × List Piece)
  | [] => .ok (progress, rest)
  | (spec, some value) :: more => do
    takeOptions (← progress.take spec value) rest more
  | (spec, none) :: more =>
    if spec.takesValue then
      match rest with
      | .word value :: behind => do
        takeOptions (← progress.take spec value) behind more
      | _ => .error (.usage (.lacksValue spec))
    else do takeOptions (← progress.take spec "") rest more

/-- take one option, and the next argument if that is its value -/
def takeOption (grammar : Grammar) (progress : Progress) (spec : OptionSpec) (name : String)
    (value : Option (Bool × List Char)) (rest : List Piece) :
    Except Halt (Progress × List Piece) :=
  match value with
  | none => takeOptions progress rest [(spec, none)]
  | some (hasSign, value) =>
    match readTogether grammar spec name hasSign value with
    | .error error => .error (.usage error)
    | .ok (options, left) => takeOptions (progress.addStrange left) rest options

/-- go through the arguments; each one is taken at most once, so as many rounds as there are
arguments are enough -/
def takeAll (grammar : Grammar) : Nat → Progress → List Piece → Except Halt Progress
  | 0, progress, _ => .ok progress
  | _ + 1, progress, [] => .ok progress
  | fuel + 1, progress, .option spec name value :: rest => do
    let (progress, rest) ← takeOption grammar progress spec name value rest
    takeAll grammar fuel progress rest
  | fuel + 1, progress, .unknown text :: rest =>
    takeAll grammar fuel (progress.addStrange [text]) rest
  | fuel + 1, progress, piece :: rest =>
    let row := (piece :: rest).takeWhile fun p => p.wordText?.isSome
    takeAll grammar fuel (progress.takeWords grammar (row.filterMap Piece.wordText?))
      ((piece :: rest).drop row.length)

/-- the arguments of a command line -/
def parse (grammar : Grammar) (arguments : List String) : Except Halt Arguments := do
  let pieces ← (classifyAll grammar arguments).mapError .usage
  let progress ← takeAll grammar pieces.length {} pieces
  if progress.strange.isEmpty then
    return { words := progress.words.getD [], values := progress.values }
  else .error (.usage (.unrecognized progress.strange))

end Lamplighter.CommandLine
