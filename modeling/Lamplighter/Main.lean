import Lamplighter.CommandLine.Act
import Lamplighter.CommandLine.Discover
import Lamplighter.Network.Record
import Lamplighter.Snapshot.Record

/-!
# The programs

`act WORDS` carries out a command and `discover` lists the bulbs.  The local network is described by
a file of Json records, named by the environment; it holds what the lights have come to when a
program has ended.  Every table of snapshots is a file of its own.
-/

namespace Lamplighter.Program

open CommandLine

/-- the variables of the environment that are looked at -/
def knownVariables : List String :=
  ["PORT", "HOST", "LIFX_ACT_URL", "LIFX_DB_PATH", "LIFX_ILLUMINATION_STEP_SIZE",
    "LIFX_TURN_OFF_LEVEL", "LIFX_IDLE_CHECK_SECONDS", "LIFX_STATE_QUERY_TIMEOUT_SECONDS",
    "LIFX_STATE_QUERY_MAX_RETRIES", "LIFX_DEFAULT_TRANSITION_MS", "LIFX_BROADCAST_ADDRESS",
    "LIFX_DISCOVERY_INTERVAL_SECONDS"]

def readEnvironment : IO Environment := do
  let mut env : Environment := []
  for name in knownVariables do
    if let some value ← IO.getEnv name then env := Assoc.put env name value
  return env

/-- the value in a file, if there is such a file and it holds Json -/
def readJson (path : String) : IO (Option Json) := do
  try return Json.read? (← IO.FS.readFile path) catch _ => return none

def writeJson (path : String) (json : Json) : IO Unit := do
  let directory := String.ofList (path.toList.reverse.dropWhile (· != '/')).reverse
  unless directory.isEmpty do IO.FS.createDirAll directory
  IO.FS.writeFile path (json.toText .unicode ++ "\n")

/-- the tables of a command that is run here -/
def readFiles (path : String) : IO Snapshot.Files := do
  match (← readJson path).bind Snapshot.Table.ofJson? with
  | some table => return Assoc.put [] path table
  | none => return []

def writeFiles (files : Snapshot.Files) : IO Unit := do
  for (path, table) in files do writeJson path (Snapshot.Table.toJson table)

def finish (outcome : Outcome) : IO UInt32 := do
  (← IO.getStdout).putStr outcome.output
  (← IO.getStderr).putStr outcome.errors
  match outcome.result with
  | .ok code => return code.toUInt32
  | .error crash =>
    (← IO.getStderr).putStrLn crash.message
    return 1

def act (env : Environment) (place : Place) (lan : Lan) (args : List String) :
    IO (Lan × Outcome) := do
  match Act.plan env place args with
  | .stop outcome => return (lan, outcome)
  | .post server _ => return (lan, Act.unreached server "no connection")
  | .run settings words =>
    let (lan, files, outcome) :=
      Act.runLocally settings words lan (← readFiles settings.databasePath)
    writeFiles files
    return (lan, outcome)

end Lamplighter.Program

open Lamplighter Program in
def main (args : List String) : IO UInt32 := do
  let env ← readEnvironment
  let place : Place := { current := (← IO.currentDir).toString }
  let house := (← IO.getEnv "LIFX_LIGHTS").getD "lights.json"
  let lan := ((← readJson house).bind Lan.ofJson?).getD {}
  let (lan, outcome) ← match args with
    | "discover" :: rest => pure (CommandLine.Discover.listBulbs env place rest lan)
    | "act" :: rest => act env place lan rest
    | rest => act env place lan rest
  unless lan.lights.isEmpty do writeJson house lan.toJson
  finish outcome
