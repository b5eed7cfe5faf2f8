import Lamplighter.Run.Course

/-!
# Sessions step by step

`perform` does what a cue says, `step` takes the next cue from the agenda and performs it, and
`drive` goes on with that until something has come about.
-/

namespace Lamplighter.Session

variable {ν : Type} [Network ν]

/-- the idle clock of a run is set for another interval -/
def wind (s : Session ν) (r : Nat) (run : Run) : Session ν :=
  { s with agenda := s.agenda.pause (.ofFloat run.settings.idleSeconds) (.tick r) }

def overRun (s : Session ν) (r : Nat) (act : Run → Session ν) : Session ν :=
  match s.runs[r]? with
  | none => s
  | some run => act run

def overErrand (s : Session ν) (e : Nat) (act : Errand → Session ν) : Session ν :=
  match s.errands[e]? with
  | none => s
  | some errand => act errand

def client : Signal → Nat
  | .bulb client _ _ | .search client _ => client

def perform (s : Session ν) : Cue → Session ν
  | .signal signal =>
    let (network, sighting) := Network.signal s.network signal
    { s with network }.sight (client signal) sighting
  | .clock r => s.overRun r (s.wind r)
  | .tick r => s.overRun r ((s.post r .tick).wind r)
  | .wake r => s.overRun r (s.wake r)
  | .drained r (some fault) => s.endRun r (.error fault)
  | .drained r none => s.overRun r (s.close r)
  | .enter r => s.overRun r (s.enter r)
  | .takeTurn r => s.overRun r (s.takeTurn r)
  | .begin e => s.overErrand e (s.begin e)
  | .attempt e => s.overErrand e (s.attempt e)
  | .arrive e request answer => s.overErrand e fun errand => s.arrive e errand request answer
  | .expire e => s.overErrand e (s.expire e)
  | .resume e => s.overErrand e (s.resume e)
  | .retire e => s.modifyErrand e fun errand => { errand with isAttached := false }
  | .alarm => { s with isRung := true }

/-- take the next cue and perform it; there is no step if nothing is left to wait for -/
def step (s : Session ν) : Option (Session ν) :=
  s.agenda.next?.map fun (cue, agenda) => { s with agenda }.perform cue

/-- steps until something has come about, or as many as are allowed -/
def drive (isDone : Session ν → Bool) : Nat → Session ν → Session ν
  | 0, s => s
  | fuel + 1, s =>
    if isDone s then s
    else
      match s.step with
      | none => s
      | some next => drive isDone fuel next

/-- how many steps a session is given -/
def patience : Nat := 1000000

/-- everything that needs no time -/
def rest (s : Session ν) : Session ν :=
  drive (fun s => s.agenda.isIdle) patience s

/-- let some time pass -/
def sleep (s : Session ν) (duration : Duration) : Session ν :=
  drive (fun s => s.isRung) patience
    { s with isRung := false, agenda := s.agenda.pause duration .alarm }

/-! ### Runs and errands from outside -/

/-- a new run, and the number by which it is known -/
def addRun (s : Session ν) (run : Run) : Session ν × Nat :=
  ({ s with runs := s.runs ++ [run] }, s.runs.length)

/-- start a run at once and wait until it has ended -/
def runThrough (s : Session ν) (run : Run) : Session ν × Nat :=
  let (s, r) := s.addRun run
  (drive (fun s => ((s.runs[r]?).map (·.isOver)).getD true) patience (s.start r run), r)

/-- a run waits for its turn -/
def enqueue (s : Session ν) (run : Run) : Session ν × Nat :=
  let (s, r) := s.addRun run
  (s.soon 0 (.enter r), r)

def isErrandOver (s : Session ν) (e : Nat) : Bool :=
  ((s.errands[e]?).map (·.isOver)).getD true

/-- start an errand at once and wait until it has ended -/
def errandThrough (s : Session ν) (errand : Errand) : Session ν × Nat :=
  let e := s.errands.length
  let started := { s with errands := s.errands ++ [errand] }.begin e errand
  (drive (fun s => s.isErrandOver e) patience started, e)

/-- send one request to a bulb, and wait for what it comes to -/
def request (s : Session ν) (client : Nat) (handle : Handle) (request : Request) :
    Session ν × Option (Except Fault Reply) :=
  let (s, e) := s.errandThrough
    { client, handle, timeout := .seconds 0, maxRetries := 0
      stage := .fresh (.send request .done) }
  (s, (s.errands[e]?).bind Errand.outcome?)

/-- ask a bulb for its state, and wait for what that comes to -/
def query (s : Session ν) (client : Nat) (handle : Handle) (timeout : Duration)
    (maxRetries : Int) : Session ν × Option (Except Fault Reply) :=
  let (s, e) := s.errandThrough (.query client handle timeout maxRetries)
  (s, (s.errands[e]?).bind Errand.outcome?)

/-- call a run off -/
def cancelRun (s : Session ν) (r : Nat) (run : Run) : Session ν :=
  if run.isOver then s
  else
    match run.phase with
    | .discovering => s.abort r run (.broken "cancelled")
    | _ => ({ s with line := s.line.filter fun waiting => waiting != r }.callOffAll r).endRun r
        (.error (.broken "cancelled"))

end Lamplighter.Session
