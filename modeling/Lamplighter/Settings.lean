import Lamplighter.Assoc
import Lamplighter.Number.Numeral

/-!
# Settings: what an environment configures

Each setting is a variable of the environment or its default.  They are read in a fixed order and
the first one that is malformed is the answer.  The snapshots are kept in the file that the
environment names, else under `/data` if that is a directory that can be written, else under the
current directory.
-/

namespace Lamplighter

/-- variables with their values -/
abbrev Environment := List (String × String)

namespace Environment

def get? (env : Environment) (name : String) : Option String :=
  Assoc.get? env name

end Environment

/-- what is known of a directory: it is missing, it can be written or not, or asking failed -/
inductive DirectoryCheck where
  | missing
  | writable
  | readonly
  | failed
  deriving DecidableEq, Repr, Inhabited

/-- where the program runs: the check of `/data` and the current directory -/
structure Place where
  data : DirectoryCheck := .missing
  current : String := "/work"
  deriving Inhabited

structure Settings where
  port : Int := 8000
  databasePath : String := ":memory:"
  stepSize : Int := 255
  turnOffLevel : Int := 511
  idleSeconds : Float := 4.0
  queryTimeout : Float := 5.0
  queryRetries : Int := 5
  transition : Int := 3000
  broadcast : String := "255.255.255.255"
  discoveryInterval : Float := 1.0
  deriving Inhabited

/-- why the environment cannot be used -/
inductive SettingsFault where
  | whole (fault : Numeral.Fault)
  | decimal (text : String)
  deriving DecidableEq, Repr

def SettingsFault.message : SettingsFault → String
  | .whole fault => fault.message
  | .decimal text => "could not convert string to float: " ++ Text.quotedString text

/-- a file below a directory -/
def joinPath (directory file : String) : String :=
  if directory.isEmpty then file
  else if directory.toList.getLast? == some '/' then directory ++ file
  else directory ++ "/" ++ file

def defaultDatabasePath (env : Environment) (place : Place) : String :=
  match env.get? "LIFX_DB_PATH" with
  | some path => if path.isEmpty then elsewhere else path
  | none => elsewhere
where
  elsewhere :=
    if place.data = .writable then "/data/lifx-act.db"
    else joinPath (joinPath place.current ".data") "lifx-act.db"

namespace Settings

def wholeFrom (env : Environment) (name : String) (default : Int) : Except SettingsFault Int :=
  match env.get? name with
  | none => .ok default
  | some text => (Numeral.readInt 10 text.toList).mapError .whole

def decimalFrom (env : Environment) (name : String) (default : Float) :
    Except SettingsFault Float :=
  match env.get? name with
  | none => .ok default
  | some text =>
    match Numeral.readFloat? text.toList with
    | some x => .ok x
    | none => .error (.decimal text)

def ofEnvironment (env : Environment) (place : Place) : Except SettingsFault Settings := do
  let base : Settings := {}
  let port ← wholeFrom env "PORT" base.port
  let databasePath := defaultDatabasePath env place
  let stepSize ← wholeFrom env "LIFX_ILLUMINATION_STEP_SIZE" base.stepSize
  let turnOffLevel ← wholeFrom env "LIFX_TURN_OFF_LEVEL" base.turnOffLevel
  let idleSeconds ← decimalFrom env "LIFX_IDLE_CHECK_SECONDS" base.idleSeconds
  let queryTimeout ← decimalFrom env "LIFX_STATE_QUERY_TIMEOUT_SECONDS" base.queryTimeout
  let queryRetries ← wholeFrom env "LIFX_STATE_QUERY_MAX_RETRIES" base.queryRetries
  let transition ← wholeFrom env "LIFX_DEFAULT_TRANSITION_MS" base.transition
  let broadcast := (env.get? "LIFX_BROADCAST_ADDRESS").getD base.broadcast
  let discoveryInterval ←
    decimalFrom env "LIFX_DISCOVERY_INTERVAL_SECONDS" base.discoveryInterval
  return { port, databasePath, stepSize, turnOffLevel, idleSeconds, queryTimeout, queryRetries,
           transition, broadcast, discoveryInterval }

end Settings

end Lamplighter
