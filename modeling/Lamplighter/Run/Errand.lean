import Lamplighter.Run.Basic
import Lamplighter.Run.Query

/-!
# Errands on their way

The steps of an errand: it starts, asks for the state and waits at most so long, learns what has
come of it, sends requests and reports, and ends.  A fault of an effect is told to the audience of
its run and ends the effect; only a fault of the audience itself goes further.
-/

namespace Lamplighter.Session

variable {ν : Type}

/-! ### Parts of a session -/

def soon (s : Session ν) (turns : Nat) (cue : Cue) : Session ν :=
  { s with agenda := s.agenda.soon turns cue }

def modifyRun (s : Session ν) (r : Nat) (change : Run → Run) : Session ν :=
  { s with runs := s.runs.modify r change }

/-- put a deed of a run on record -/
def note (s : Session ν) (r : Nat) (deed : Deed) : Session ν :=
  s.modifyRun r fun run => { run with deeds := deed :: run.deeds }

def modifyErrand (s : Session ν) (e : Nat) (change : Errand → Errand) : Session ν :=
  { s with errands := s.errands.modify e change }

def setStage (s : Session ν) (e : Nat) (stage : Stage) : Session ν :=
  s.modifyErrand e fun errand => { errand with stage }

/-- take everything that an errand waits for off the agenda -/
def dropAwaited (s : Session ν) (e : Nat) : Session ν :=
  { s with agenda := s.agenda.drop fun cue => cue.isAwaitedBy e }

/-! ### Events and messages -/

/-- tell the audience of a run what happens -/
def emit (s : Session ν) (r : Nat) (kind : EventKind) (message : String)
    (device : Option String := none) (data : Option Json := none) :
    Session ν × Option Fault :=
  match s.runs[r]? with
  | none => (s, none)
  | some run =>
    let event := Event.ofMoment s.agenda.now kind run.action.command message device data
    match run.audience with
    | .nobody => (s, none)
    | .hub => ({ s with hub := s.hub.publish event }, none)
    | .recorder failing =>
      if run.emitted ∈ failing then
        (s.modifyRun r fun run => { run with emitted := run.emitted + 1 },
          some (.broken "reporter down"))
      else
        (s.modifyRun r fun run =>
          { run with emitted := run.emitted + 1, events := run.events ++ [event] }, none)

/-- put a message into the inbox of a run, which wakes it if it waits -/
def post (s : Session ν) (r : Nat) (message : Message) : Session ν :=
  match s.runs[r]? with
  | none => s
  | some run =>
    let posted := s.modifyRun r fun run =>
      { run with
        inbox := run.inbox ++ [message]
        isWaiting := false
        deeds := .queued message :: run.deeds }
    if run.isWaiting then posted.soon 0 (.wake r) else posted

/-- tell the listener of a client of a bulb -/
def hear (s : Session ν) (client : Nat) (handle : Handle) : Session ν :=
  match Assoc.get? s.listeners client with
  | none => s
  | some (.list i) =>
    { s with lists := s.lists.modify i fun list => list ++ [(handle, s.agenda.now)] }
  | some (.run r) =>
    match s.runs[r]? with
    | none => s
    | some run =>
      let (control, message) := run.control.announce handle
      let noted := s.modifyRun r fun run =>
        { run with control, deeds := .heard handle :: run.deeds }
      match message with
      | none => noted
      | some message => noted.post r message

def hearAll (s : Session ν) (client : Nat) (handles : List Handle) : Session ν :=
  handles.foldl (fun s handle => s.hear client handle) s

/-! ### The end of an errand -/

/-- the run that waits for its effects goes on if all have ended, or if one has a fault -/
def checkGathered (s : Session ν) (r : Nat) (fault : Option Fault) : Session ν :=
  match s.runs[r]? with
  | none => s
  | some run =>
    if run.isGathering && (fault.isSome
        || s.errands.all fun errand => !errand.isOf r || errand.isOver) then
      (s.modifyRun r fun run => { run with isGathering := false }).soon 1 (.drained r fault)
    else s

/-- an errand ends; the fault is the one that goes further -/
def conclude (s : Session ν) (e : Nat) (errand : Errand) (isOk : Bool)
    (outcome : Except Fault Reply) : Session ν :=
  let ended := (s.dropAwaited e).setStage e (.over outcome)
  match errand.run with
  | none => ended
  | some r =>
    let fault := match outcome with
      | .ok _ => none
      | .error fault => some fault
    ((ended.post r (.ended errand.handle isOk)).soon 0 (.retire e)).checkGathered r fault

/-- what is said of an effect that has a fault -/
def failureText (handle : Handle) : Fault → String
  | .silent _ _ => "No state from " ++ handle.name ++ ", skipping"
  | .timeout text | .unreachable text => "Could not reach " ++ handle.name ++ ": " ++ text
  | _ => "Action failed on " ++ handle.name

/-- an errand has a fault -/
def fail (s : Session ν) (e : Nat) (errand : Errand) (fault : Fault) : Session ν :=
  match errand.run with
  | none => s.conclude e errand false (.error fault)
  | some r =>
    match (s.note r (.raised errand.handle fault)).emit r .deviceFailed
        (failureText errand.handle fault) (some errand.handle.name) with
    | (s, none) => s.conclude e errand false (.ok .nothing)
    | (s, some further) => s.conclude e errand false (.error further)

/-! ### The steps of an errand -/

variable [Network ν]

/-- send a request -/
def send (s : Session ν) (errand : Errand) (request : Request) : Session ν × Wait × Answer :=
  let (network, wait, answer) := Network.send s.network errand.client errand.handle request
  ({ s with network }, wait, answer)

/-- settle a request -/
def settle (s : Session ν) (errand : Errand) (request : Request) (answer : Answer) :
    Session ν × Except Fault Reply :=
  let (network, result, found) :=
    Network.settle s.network errand.client errand.handle request answer
  (hearAll { s with network } errand.client found, result)

/-- ask for the state; with no time to answer the request is not even sent -/
def ask (s : Session ν) (e : Nat) (errand : Errand) (next : BulbState → Play) (retries : Nat) :
    Session ν :=
  if errand.timeout.isInstant then
    (s.setStage e (.answered next retries none)).soon 2 (.resume e)
  else
    let waiting := s.setStage e (.asking next retries)
    { waiting with
      agenda := (waiting.agenda.after errand.timeout 1 (.expire e)).soon 0 (.attempt e) }

/-- go through a play until it has to wait, or ends -/
def follow (s : Session ν) (e : Nat) (errand : Errand) : Play → Session ν
  | .done reply => s.conclude e errand true (.ok reply)
  | .ask next => s.ask e errand next 0
  | .keep state next =>
    match errand.run with
    | none => follow s e errand next
    | some r =>
      follow (s.modifyRun r fun run => { run with kept := run.kept ++ [state] }) e errand next
  | .report message data next =>
    match errand.run with
    | none => follow s e errand next
    | some r =>
      match s.emit r .deviceReport message (some errand.handle.name) data with
      | (s, none) => follow s e errand next
      | (s, some fault) => s.fail e errand fault
  | .send request next =>
    match s.send errand request with
    | (s, .atOnce, answer) =>
      match s.settle errand request answer with
      | (s, .ok reply) => follow s e errand (next reply)
      | (s, .error fault) => s.fail e errand fault
    | (s, .lasting duration, answer) =>
      let waiting := s.setStage e (.sending next)
      { waiting with agenda := waiting.agenda.pause duration (.arrive e request answer) }

/-- an errand starts -/
def begin (s : Session ν) (e : Nat) (errand : Errand) : Session ν :=
  match errand.stage with
  | .fresh play => s.follow e errand play
  | _ => s

/-- the request for the state has come to something -/
def answer (s : Session ν) (e : Nat) (next : BulbState → Play) (retries : Nat)
    (result : Except Fault Reply) : Session ν :=
  (s.setStage e (.answered next retries (some result))).soon 1 (.resume e)

/-- an errand sends its request for the state -/
def attempt (s : Session ν) (e : Nat) (errand : Errand) : Session ν :=
  match errand.stage with
  | .asking next retries =>
    match s.send errand .read with
    | (s, .atOnce, answer) =>
      match s.settle errand .read answer with
      | (s, result) => s.answer e next retries result
    | (s, .lasting duration, answer) =>
      { s with agenda := s.agenda.pause duration (.arrive e .read answer) }
  | _ => s

/-- a request that took its time is settled -/
def arrive (s : Session ν) (e : Nat) (errand : Errand) (request : Request) (answer : Answer) :
    Session ν :=
  match errand.stage with
  | .asking next retries =>
    match s.settle errand request answer with
    | (s, result) => s.answer e next retries result
  | .sending next =>
    match s.settle errand request answer with
    | (s, .ok reply) => s.follow e errand (next reply)
    | (s, .error fault) => s.fail e errand fault
  | _ => s

/-- the time to answer is over, and the request is given up -/
def expire (s : Session ν) (e : Nat) (errand : Errand) : Session ν :=
  match errand.stage with
  | .asking next retries =>
    ((s.dropAwaited e).setStage e (.answered next retries none)).soon 2 (.resume e)
  | _ => s

/-- an errand learns what its request for the state has come to -/
def resume (s : Session ν) (e : Nat) (errand : Errand) : Session ν :=
  match errand.stage with
  | .answered next retries result =>
    let ready := s.dropAwaited e
    match Query.judge errand.handle errand.maxRetries retries result with
    | .take state => ready.follow e errand (next state)
    | .again retries => ready.ask e errand next retries
    | .give fault => ready.fail e errand fault
  | _ => s

/-- call an errand off; one whose request for the state was answered goes on -/
def callOff (s : Session ν) (e : Nat) (errand : Errand) : Session ν :=
  match errand.stage with
  | .over _ | .answered _ _ (some _) => s
  | _ => (s.dropAwaited e).setStage e (.over (.ok .nothing))

end Lamplighter.Session
