import Lamplighter.Network.Basic

/-!
# The bench: bulbs that follow a script

A bulb on the bench has a state and answers by its scripts: one for requests for the state, one for
power and one for color.  Each request takes the next entry of its script, and a script that has run
out answers well.  A client on the bench announces bulbs at given times, and notes what it was
asked to send.
-/

namespace Lamplighter

/-- how a bulb on the bench answers a request for its state -/
inductive ScriptedReply where
  /-- answer after a while, or as a bulb of another serial -/
  | answer (delay : Option Duration) (impostor : Option String)
  | silence
  | fault (fault : Fault)
  deriving Repr, Inhabited

structure BenchBulb where
  handle : Handle
  state : BulbState
  replies : List ScriptedReply := []
  powerFaults : List (Option Fault) := []
  colorFaults : List (Option Fault) := []
  deriving Repr, Inhabited

/-- a request as a client notes it, with the bulb that it is for -/
structure Call where
  handle : Handle
  request : Request
  deriving DecidableEq, Repr, Inhabited

def Call.name (call : Call) : String :=
  call.handle.name

structure BenchClient where
  /-- serials with the times at which they are announced; every bulb at once if nothing is given -/
  announced : Option (List (String × Rat)) := none
  /-- listening fails -/
  isBroken : Bool := false
  isListening : Bool := false
  starts : Nat := 0
  stops : Nat := 0
  calls : List Call := []
  deriving Repr, Inhabited

structure Bench where
  bulbs : List BenchBulb := []
  clients : List BenchClient := []
  deriving Repr, Inhabited

namespace BenchBulb

/-- the state after a request was carried out -/
def obey (state : BulbState) : Request → BulbState
  | .power isOn _ => { state with power := if isOn then powerOn else powerOff }
  | .color hue saturation brightness kelvin duration =>
    { state with hue, saturation, brightness, kelvin, duration }
  | _ => state

/-- take the next entry of a script of faults -/
def nextFault (script : List (Option Fault)) : Answer × List (Option Fault) :=
  match script with
  | [] => (.ok, [])
  | none :: rest => (.ok, rest)
  | some fault :: rest => (.fault fault, rest)

def nextReply (script : List ScriptedReply) : Wait × Answer × List ScriptedReply :=
  match script with
  | [] => (.atOnce, .ok, [])
  | .silence :: rest => (.lasting .endless, .ok, rest)
  | .fault fault :: rest => (.atOnce, .fault fault, rest)
  | .answer delay impostor :: rest =>
    ((delay.map Wait.lasting).getD .atOnce, (impostor.map Answer.impostor).getD .ok, rest)

/-- take the next entry of the script of a request -/
def take (bulb : BenchBulb) : Request → BenchBulb × Wait × Answer
  | .read =>
    let (wait, answer, replies) := nextReply bulb.replies
    ({ bulb with replies }, wait, answer)
  | .power _ _ =>
    let (answer, powerFaults) := nextFault bulb.powerFaults
    ({ bulb with powerFaults }, .atOnce, answer)
  | .color _ _ _ _ _ =>
    let (answer, colorFaults) := nextFault bulb.colorFaults
    ({ bulb with colorFaults }, .atOnce, answer)
  | .introduce => (bulb, .atOnce, .ok)

end BenchBulb

namespace Bench

def find? (bench : Bench) (serial : String) : Option BenchBulb :=
  bench.bulbs.find? fun b => b.handle.serial == serial

/-- change the first bulb of a serial -/
def modifyBulb (bulbs : List BenchBulb) (serial : String) (change : BenchBulb → BenchBulb) :
    List BenchBulb :=
  match bulbs with
  | [] => []
  | b :: rest =>
    if b.handle.serial == serial then change b :: rest else b :: modifyBulb rest serial change

def modify (bench : Bench) (serial : String) (change : BenchBulb → BenchBulb) : Bench :=
  { bench with bulbs := modifyBulb bench.bulbs serial change }

def client (bench : Bench) (client : Nat) : BenchClient :=
  (bench.clients[client]?).getD {}

def modifyClient (bench : Bench) (client : Nat) (change : BenchClient → BenchClient) : Bench :=
  { bench with clients := bench.clients.modify client change }

/-- a new client, and the number by which it is known -/
def addClient (bench : Bench) (client : BenchClient) : Bench × Nat :=
  ({ bench with clients := bench.clients ++ [client] }, bench.clients.length)

/-! ### Requests -/

def send (bench : Bench) (client : Nat) (handle : Handle) (request : Request) :
    Bench × Wait × Answer :=
  let noted := bench.modifyClient client fun c =>
    { c with calls := c.calls ++ [⟨handle, request⟩] }
  match bench.find? handle.serial with
  | none => (noted, .atOnce, .fault (.unreachable "unknown bulb"))
  | some bulb =>
    let (taken, wait, answer) := bulb.take request
    (noted.modify handle.serial fun _ => taken, wait, answer)

/-- what a bulb that answers for itself gives back -/
def replyOf (handle : Handle) (state : BulbState) : Request → Reply
  | .read => .state handle state
  | _ => .nothing

def settle (bench : Bench) (handle : Handle) (request : Request) (answer : Answer) :
    Bench × Except Fault Reply × List Handle :=
  match answer, bench.find? handle.serial with
  | .fault fault, _ => (bench, .error fault, [])
  | _, none => (bench, .error (.unreachable "unknown bulb"), [])
  | .impostor serial, some bulb =>
    (bench, .ok (replyOf { handle with serial, label := "Impostor" } bulb.state request), [])
  | .ok, some bulb =>
    (bench.modify handle.serial fun b => { b with state := BenchBulb.obey b.state request },
      .ok (replyOf handle bulb.state request), [])

/-! ### Listening -/

/-- the bulbs that a client announces, with their times -/
def announcements (bench : Bench) (client : Nat) : List (Handle × Rat) :=
  match (bench.client client).announced with
  | none => bench.bulbs.map fun b => (b.handle, 0)
  | some list => list.filterMap fun (serial, time) =>
      (bench.find? serial).map fun b => (b.handle, time)

def start (bench : Bench) (client : Nat) : Bench × Except Fault Sighting :=
  let session := (bench.client client).starts + 1
  if (bench.client client).isBroken then
    (bench.modifyClient client fun c => { c with starts := session },
      .error (.unreachable "no network"))
  else
    let all := bench.announcements client
    (bench.modifyClient client fun c => { c with starts := session, isListening := true },
      .ok { found := (all.filter fun a => a.2 == 0).map (·.1)
            later := (all.filter fun a => a.2 != 0).map fun (handle, time) =>
              (.lasting (.seconds time), .bulb client session handle) })

def stop (bench : Bench) (client : Nat) : Bench :=
  bench.modifyClient client fun c => { c with stops := c.stops + 1, isListening := false }

def signal (bench : Bench) : Signal → Bench × Sighting
  | .bulb client session handle =>
    let c := bench.client client
    (bench, { found := if c.isListening && c.starts == session then [handle] else [] })
  | .search _ _ => (bench, {})

instance : Network Bench where
  send := send
  settle bench _ := settle bench
  start := start
  stop := stop
  signal := signal

end Bench

end Lamplighter
