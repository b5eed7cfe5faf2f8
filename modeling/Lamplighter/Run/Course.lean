import Lamplighter.Run.Errand

/-!
# The course of a run

A run starts with an event, gets ready, listens for bulbs, handles what comes into its inbox until
it need not look for bulbs any longer, waits for its effects, finishes its work, and ends with an
event.  Whatever goes wrong while it looks for bulbs ends the search and calls its effects off.
-/

namespace Lamplighter.Session

variable {ν : Type} [Network ν]

/-! ### Searching -/

/-- set a signal of the network on the agenda -/
def expect (s : Session ν) : Wait × Signal → Session ν
  | (.atOnce, signal) => s.soon 0 (.signal signal)
  | (.lasting duration, .bulb client session handle) =>
    { s with agenda := s.agenda.after duration 0 (.signal (.bulb client session handle)) }
  | (.lasting duration, .search client session) =>
    { s with agenda := s.agenda.pause duration (.signal (.search client session)) }

/-- hear of the bulbs that were found, and expect the signals to come -/
def sight (s : Session ν) (client : Nat) (sighting : Sighting) : Session ν :=
  sighting.later.foldl expect (s.hearAll client sighting.found)

/-- listen for bulbs -/
def listen (s : Session ν) (client : Nat) (listener : Listener) : Session ν × Option Fault :=
  let (network, result) := Network.start s.network client
  match result with
  | .error fault => ({ s with network }, some fault)
  | .ok sighting =>
    let listening := { s with network, listeners := Assoc.put s.listeners client listener }
    (listening.sight client sighting, none)

/-- listen no longer -/
def unlisten (s : Session ν) (client : Nat) : Session ν :=
  { s with
    network := Network.stop s.network client
    listeners := s.listeners.filter fun l => l.1 != client }

/-- a run stops looking for bulbs -/
def stopSearch (s : Session ν) (r : Nat) (run : Run) : Session ν :=
  let stopped := s.modifyRun r fun run =>
    { run with
      phase := if run.phase = .discovering then .draining else run.phase
      deeds := .stopped :: run.deeds }
  { stopped with agenda := stopped.agenda.drop fun cue => cue.isClockOf r }.unlisten run.client

/-! ### The end of a run -/

/-- a run ends, and the next one in the line gets its turn if this one had it -/
def endRun (s : Session ν) (r : Nat) (outcome : Except Fault Summary) : Session ν :=
  let ended := s.modifyRun r fun run =>
    { run with outcome := some outcome, isWaiting := false, isGathering := false }
  if s.turn = some r then
    match ended.line with
    | [] => { ended with turn := none }
    | next :: _ => { ended with turn := none }.soon 0 (.takeTurn next)
  else ended

/-- call off the effects that a run counts among its own -/
def callOffAll (s : Session ν) (r : Nat) : Session ν :=
  (List.range s.errands.length).foldl (fun s e =>
    match s.errands[e]? with
    | none => s
    | some errand => if errand.isOf r then s.callOff e errand else s) s

/-- a fault while looking for bulbs ends the run -/
def abort (s : Session ν) (r : Nat) (run : Run) (fault : Fault) : Session ν :=
  (((s.note r .aborted).stopSearch r run).callOffAll r).endRun r (.error fault)

/-- the name that a snapshot is spoken of by -/
def snapshotName (stateName : Option String) : String :=
  match stateName with
  | none => "default"
  | some name => if name.isEmpty then "default" else name

/-- what an effect has to do once all bulbs are done -/
def finalize (s : Session ν) (r : Nat) (run : Run) : Session ν × Option Fault :=
  match run.action.effect with
  | .save stateName =>
    if run.kept.isEmpty then
      s.emit r .deviceReport
        ("No bulb states captured, '" ++ snapshotName stateName ++ "' not saved")
    else if !run.hasStore then (s, some .noStore)
    else
      match s.store.save (some run.action.key) run.kept stateName
          s.agenda.now.wholeSeconds with
      | (store, some fault) => ({ s with store }, some (.store fault))
      | (store, none) =>
        { s with store }.emit r .deviceReport ("Saved " ++ decimalText run.kept.length
          ++ " bulb state(s) to '" ++ snapshotName stateName ++ "'")
  | _ => (s, none)

/-- all effects have ended: finish the work and sum up -/
def close (s : Session ν) (r : Nat) (run : Run) : Session ν :=
  let settled := s.modifyRun r fun run =>
    { run with
      control := run.control.settleAll run.inbox
      inbox := []
      deeds := .finalized :: (run.inbox.map .cleared).reverse ++ run.deeds }
  match settled.finalize r run with
  | (s, some fault) => s.endRun r (.error fault)
  | (s, none) =>
    let finished := s.modifyRun r fun run => { run with phase := .finished }
    let text := "Finishing action " ++ run.action.verb.word
    match finished.emit r .runFinished text with
    | (s, some fault) => s.endRun r (.error fault)
    | (s, none) =>
      match s.runs[r]? with
      | none => s
      | some run => s.endRun r (.ok (run.summary s.agenda.now))

/-- the search is over: wait for the effects that have not ended -/
def drain (s : Session ν) (r : Nat) (run : Run) : Session ν :=
  let stopped := s.stopSearch r run
  let own := stopped.errands.filter fun errand => errand.isOf r
  if own.isEmpty then
    match stopped.runs[r]? with
    | none => stopped
    | some run => stopped.close r run
  else
    match own.findSome? Errand.raised? with
    | some fault => stopped.soon 1 (.drained r (some fault))
    | none =>
      if own.all Errand.isOver then stopped.soon 1 (.drained r none)
      else stopped.modifyRun r fun run => { run with isGathering := true }

/-! ### The inbox -/

/-- an effect starts on a bulb -/
def dispatch (s : Session ν) (r : Nat) (run : Run) (handle : Handle) : Session ν :=
  let errand : Errand :=
    { run := some r, client := run.client, handle, timeout := .ofFloat run.settings.queryTimeout
      maxRetries := run.settings.queryRetries
      stage := .fresh (run.action.effect.play run.settings run.saved handle) }
  { s with errands := s.errands ++ [errand] }.soon 0 (.begin s.errands.length)

/-- handle messages until the run need not look for bulbs any longer -/
def handleAll (s : Session ν) (r : Nat) (run : Run) : List Message → Session ν
  | [] => s.modifyRun r fun run => { run with inbox := [], isWaiting := true }
  | message :: rest =>
    match s.runs[r]? with
    | none => s
    | some current =>
      let (control, matched) := current.control.handle message
      let noted := s.modifyRun r fun run =>
        { run with control, inbox := rest, deeds := .handled message :: run.deeds }
      match matched with
      | some handle =>
        let text := "Running action on " ++ handle.name
        match noted.emit r .deviceMatched text (some handle.name) with
        | (s, some fault) => s.abort r run fault
        | (s, none) => handleAll (s.dispatch r run handle) r run rest
      | none => if control.isLooking then handleAll noted r run rest else noted.drain r run

/-- a run looks into its inbox -/
def wake (s : Session ν) (r : Nat) (run : Run) : Session ν :=
  s.handleAll r run run.inbox

/-! ### The start of a run -/

/-- the states that an effect needs to know before it starts; there are none to restore if nothing
was saved -/
def prepare (s : Session ν) (r : Nat) (run : Run) : Session ν × Except Fault (Option Saved) :=
  match run.action.effect with
  | .restore stateName _ =>
    let loaded : Except Fault (Option (List BulbState)) :=
      if run.hasStore then (s.store.load (some run.action.key) stateName).mapError .store
      else .ok none
    match loaded with
    | .error fault => (s, .error fault)
    | .ok (some states) => (s, .ok (some (Saved.ofStates states)))
    | .ok none =>
      match s.emit r .deviceReport "Configuration state not found, cannot restore" with
      | (s, some fault) => (s, .error fault)
      | (s, none) => (s, .ok none)
  | _ => (s, .ok none)

/-- the data of the first event of a run -/
def startData (action : Action) : Json :=
  .obj [("targets", action.wanted.toJson), ("parameters", action.effect.parameters)]

/-- a run listens for bulbs -/
def search (s : Session ν) (r : Nat) (run : Run) : Session ν :=
  let looking := s.modifyRun r fun run =>
    { run with phase := .discovering, deeds := .sought :: run.deeds }
  match looking.listen run.client (.run r) with
  | (s, some fault) => s.abort r run fault
  | (s, none) =>
    match s.runs[r]? with
    | none => s
    | some run => (s.soon 0 (.clock r)).wake r run

/-- a run starts -/
def start (s : Session ν) (r : Nat) (run : Run) : Session ν :=
  let started := s.modifyRun r fun run => { run with started := s.agenda.now }
  match started.emit r .runStarted ("Starting action " ++ run.action.verb.word) none
      (some (startData run.action)) with
  | (s, some fault) => s.endRun r (.error fault)
  | (s, none) =>
    match s.prepare r run with
    | (s, .error fault) => s.endRun r (.error fault)
    | (s, .ok saved) =>
      (s.modifyRun r fun run => { run with saved }).search r { run with saved }

/-! ### Turns -/

/-- a run gets its turn -/
def takeTurn (s : Session ν) (r : Nat) (run : Run) : Session ν :=
  { s with turn := some r, line := s.line.filter fun waiting => waiting != r }.start r run

/-- a run asks for its turn, and waits behind those that asked before -/
def enter (s : Session ν) (r : Nat) (run : Run) : Session ν :=
  if s.turn.isSome || !s.line.isEmpty then { s with line := s.line ++ [r] } else s.takeTurn r run

end Lamplighter.Session
