import Lamplighter.CommandLine.Outcome
import Lamplighter.Json.Reader
import Lamplighter.Run.Local
import Lamplighter.Snapshot.Files

/-!
# The tool that acts: a command from the command line

The words are a command.  With the address of a server it is posted there, and the reply is shown;
otherwise it is run on the local network, what it reports is shown, and so are the names that no
bulb answered to.
-/

namespace Lamplighter.CommandLine.Act

def grammar : Grammar :=
  { program := "lifx-act"
    takesWords := true
    options := [helpOption, ⟨["--db-path"], .text⟩, ⟨["--idle-seconds"], .decimal⟩,
      ⟨["--broadcast"], .text⟩, ⟨["--server-url"], .text⟩, verboseOption] }

/-- what the arguments ask for -/
inductive Plan where
  | stop (outcome : Outcome)
  /-- post a command to a server -/
  | post (server : String) (command : String)
  | run (settings : Settings) (words : List String)

/-- a text that is not empty -/
def nonEmpty (text : Option String) : Option String :=
  text.filter fun t => !t.isEmpty

/-- settings with what the options say -/
def withOptions (settings : Settings) (arguments : Arguments) : Settings :=
  { settings with
    databasePath := (nonEmpty (arguments.text? "--db-path")).getD settings.databasePath
    idleSeconds := (arguments.decimal? "--idle-seconds").getD settings.idleSeconds
    broadcast := (nonEmpty (arguments.text? "--broadcast")).getD settings.broadcast }

/-- an address without the slashes at its end -/
def trimSlashes (address : String) : String :=
  String.ofList (address.toList.reverse.dropWhile (· == '/')).reverse

/-- the server that the options or else the environment name -/
def server? (env : Environment) (arguments : Arguments) : Option String :=
  let given := match arguments.text? "--server-url" with
    | some address => some address
    | none => env.get? "LIFX_ACT_URL"
  (nonEmpty given).map trimSlashes

def plan (env : Environment) (place : Place) (args : List String) : Plan :=
  match parse grammar args with
  | .error halt => .stop (.ofHalt grammar halt)
  | .ok arguments =>
    match server? env arguments with
    | some server => .post server (" ".intercalate arguments.words)
    | none =>
      match Settings.ofEnvironment env place with
      | .error fault => .stop (.crash (.settings fault))
      | .ok settings => .run (withOptions settings arguments) arguments.words

/-! ### On the local network -/

/-- the messages of events, one after another -/
def shown (events : List Event) : String :=
  String.join (events.map fun event => event.message ++ "\n")

/-- the end of a run -/
def ofRun (run : Run) : Outcome :=
  let output := shown run.events
  match run.outcome with
  | none => { result := .ok 0, output }
  | some (.error fault) => .crash (.run fault) output
  | some (.ok summary) =>
    { result := .ok 0, output
      errors := if summary.unmatched.isEmpty then ""
        else "Not found: " ++ ", ".intercalate summary.unmatched ++ "\n" }

/-- run a command on the local network -/
def runLocally (settings : Settings) (words : List String) (lan : Lan) (files : Snapshot.Files) :
    Lan × Snapshot.Files × Outcome :=
  match compile words settings with
  | .error error => (lan, files, { result := .ok 2, errors := error.message ++ "\n" })
  | .ok action =>
    let (files, store) := files.openAt settings.databasePath
    let start : Session Lan := { network := lan, store }
    let (s, run) := start.runLocally action settings
    (s.network, files.close settings.databasePath s.store, ofRun run)

/-! ### On a server -/

/-- where commands are posted -/
def address (server : String) : String :=
  server ++ "/v1/commands"

def request (command : String) : Json :=
  .obj [("command", .str command)]

/-- the value in a reply, or its text under a name of its own -/
def payload (text : String) : Json :=
  (Json.read? text).getD (.obj [("raw", .str text)])

/-- the message of a reply that accepts a command -/
def acceptedMessage (payload : Json) : Except RecordFault String := do
  return (← (← payload.field "result").field "message").display

def isAccepted (status : Int) (payload : Json) : Bool :=
  status == 202 && match payload.get? "ok" with
    | some (.bool b) => b
    | _ => false

/-- the message of a reply that rejects a command -/
def rejection? (status : Int) (payload : Json) : Option String :=
  match payload.get? "error" with
  | some (.obj members) =>
    if status == 400 then
      some (((Json.obj members).get? "message").map Json.display |>.getD "Invalid command")
    else none
  | _ => none

/-- the end of a post that was answered -/
def ofReply (status : Int) (text : String) : Outcome :=
  let value := payload text
  if isAccepted status value then
    match acceptedMessage value with
    | .ok message => { result := .ok 0, output := message ++ "\n" }
    | .error fault => .crash (.reply fault)
  else
    match rejection? status value with
    | some message => { result := .ok 2, errors := message ++ "\n" }
    | none =>
      { result := .ok 1
        errors := "Command failed: HTTP " ++ String.ofList (Text.signed Text.decimal status) ++ " "
          ++ value.display ++ "\n" }

/-- the end of a post that did not reach the server -/
def unreached (server : String) (text : String) : Outcome :=
  { result := .ok 1, errors := "Failed to reach server at " ++ server ++ ": " ++ text ++ "\n" }

end Lamplighter.CommandLine.Act
