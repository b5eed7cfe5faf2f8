import Lamplighter.Event.Hub
import Lamplighter.Event.Basic
import Lamplighter.Run.Control
import Lamplighter.Run.Play
import Lamplighter.Timeline.Agenda

/-!
# Runs and errands

A run carries out an action: it looks for bulbs, acts on those that the action names, waits until
all effects have ended, and sums up.  An errand is the work on one bulb: the effect that a run
dispatched, or a request of its own.  A session holds the runs and errands over one network, with
the agenda that says what happens next, the store of snapshots and the hub of events.
-/

namespace Lamplighter

/-! ### Runs -/

/-- who receives the events of a run; a recorder fails on the events of the given numbers -/
inductive Audience where
  | nobody
  | recorder (failing : List Nat)
  | hub
  deriving DecidableEq, Repr, Inhabited

inductive Phase where
  | idle | discovering | draining | finished
  deriving DecidableEq, Repr, Inhabited

def Phase.name : Phase → String
  | .idle => "idle"
  | .discovering => "discovering"
  | .draining => "draining"
  | .finished => "finished"

structure Summary where
  command : String
  verb : Verb
  matched : List String
  failed : List String
  unmatched : List String
  idleChecks : Nat
  elapsed : Rat
  deriving Repr, Inhabited

/-- what a run does, for the record -/
inductive Deed where
  /-- the run is told of a bulb -/
  | heard (handle : Handle)
  /-- a message is put into the inbox -/
  | queued (message : Message)
  /-- a message is handled while the run looks for bulbs -/
  | handled (message : Message)
  /-- a message that was left in the inbox is cleared away -/
  | cleared (message : Message)
  /-- the effect on a bulb has a fault -/
  | raised (handle : Handle) (fault : Fault)
  /-- the search for bulbs starts -/
  | sought
  /-- the search for bulbs is stopped -/
  | stopped
  /-- something went wrong while the run looked for bulbs -/
  | aborted
  /-- the effect finishes its work -/
  | finalized
  deriving DecidableEq, Repr

structure Run where
  action : Action
  settings : Settings
  client : Nat
  audience : Audience := .nobody
  hasStore : Bool := true
  started : Moment := 0
  phase : Phase := .idle
  control : Control
  inbox : List Message := []
  /-- nothing was in the inbox when the run looked last -/
  isWaiting : Bool := false
  /-- the run waits for its effects to end -/
  isGathering : Bool := false
  saved : Option Saved := none
  kept : List BulbState := []
  emitted : Nat := 0
  events : List Event := []
  /-- what the run has done so far, the latest first -/
  deeds : List Deed := []
  outcome : Option (Except Fault Summary) := none
  deriving Inhabited

namespace Run

/-- the run of an action that has not started -/
def ofAction (action : Action) (settings : Settings) (client : Nat) (audience : Audience)
    (hasStore : Bool := true) : Run :=
  { action, settings, client, audience, hasStore, control := { working := action.targets } }

def isOver (run : Run) : Bool :=
  run.outcome.isSome

def summary (run : Run) (now : Moment) : Summary :=
  { command := run.action.command, verb := run.action.verb, matched := run.control.matched
    failed := run.control.failed, unmatched := run.control.unmatched
    idleChecks := run.control.idleChecks, elapsed := now.since run.started }

end Run

/-! ### Errands -/

inductive Stage where
  | fresh (play : Play)
  /-- a request for the state is under way -/
  | asking (next : BulbState → Play) (retries : Nat)
  /-- the request for the state has come to something, of which the errand does not know yet;
  nothing if no answer came in time -/
  | answered (next : BulbState → Play) (retries : Nat) (result : Option (Except Fault Reply))
  /-- another request is under way -/
  | sending (next : Reply → Play)
  | over (outcome : Except Fault Reply)

structure Errand where
  /-- the run that dispatched it -/
  run : Option Nat := none
  client : Nat
  handle : Handle
  timeout : Duration
  maxRetries : Int
  stage : Stage
  /-- the run still counts it among its own -/
  isAttached : Bool := true

namespace Errand

/-- ask a bulb for its state -/
def query (client : Nat) (handle : Handle) (timeout : Duration) (maxRetries : Int) : Errand :=
  { client, handle, timeout, maxRetries
    stage := .fresh (.ask fun state => .done (.state handle state)) }

def outcome? (errand : Errand) : Option (Except Fault Reply) :=
  match errand.stage with
  | .over outcome => some outcome
  | _ => none

def isOver (errand : Errand) : Bool :=
  errand.outcome?.isSome

/-- the fault that the errand ended with -/
def raised? (errand : Errand) : Option Fault :=
  match errand.stage with
  | .over (.error fault) => some fault
  | _ => none

/-- the run counts the errand among its own -/
def isOf (errand : Errand) (run : Nat) : Bool :=
  errand.run == some run && errand.isAttached

end Errand

/-! ### Sessions -/

inductive Cue where
  | signal (signal : Signal)
  /-- the idle clock of a run starts -/
  | clock (run : Nat)
  | tick (run : Nat)
  /-- a run looks into its inbox -/
  | wake (run : Nat)
  /-- the effects of a run have ended, or one of them has a fault -/
  | drained (run : Nat) (fault : Option Fault)
  /-- a run asks for its turn -/
  | enter (run : Nat)
  /-- a run gets its turn -/
  | takeTurn (run : Nat)
  | begin (errand : Nat)
  /-- an errand asks for the state -/
  | attempt (errand : Nat)
  /-- a request is settled -/
  | arrive (errand : Nat) (request : Request) (answer : Answer)
  /-- the time to answer is over -/
  | expire (errand : Nat)
  /-- an errand learns what its request has come to -/
  | resume (errand : Nat)
  /-- a run no longer counts an errand among its own -/
  | retire (errand : Nat)
  | alarm

namespace Cue

/-- the cues that an errand waits for -/
def isAwaitedBy (cue : Cue) (errand : Nat) : Bool :=
  match cue with
  | .begin e | .attempt e | .arrive e _ _ | .expire e | .resume e => e == errand
  | _ => false

def isClockOf (cue : Cue) (run : Nat) : Bool :=
  match cue with
  | .clock r | .tick r => r == run
  | _ => false

def isAlarm : Cue → Bool
  | .alarm => true
  | _ => false

end Cue

/-- who is told of the bulbs that a client finds: a run, or a list -/
inductive Listener where
  | run (run : Nat)
  | list (list : Nat)
  deriving DecidableEq, Repr

structure Session (ν : Type) where
  agenda : Agenda Cue := {}
  network : ν
  runs : List Run := []
  errands : List Errand := []
  /-- the listener of each client that listens -/
  listeners : List (Nat × Listener) := []
  /-- the bulbs found for each list, with the moments -/
  lists : List (List (Handle × Moment)) := []
  /-- the runs that wait for their turn -/
  line : List Nat := []
  /-- the run that has its turn -/
  turn : Option Nat := none
  store : Snapshot.Store := {}
  hub : Hub Event := {}
  /-- the alarm has rung -/
  isRung : Bool := false

end Lamplighter
