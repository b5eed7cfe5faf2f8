import Lamplighter.Assoc
import Lamplighter.Color.Physical
import Lamplighter.Network.Basic
import Lamplighter.Text.Quoted

/-!
# The local network: lights that are searched for in windows

A client searches for lights in windows, one after another while it listens.  A light that turns up
for the first time is asked for its label; with that it is known, and the listener is told.  A light
that gives no label is passed over until it turns up again.  A window that fails is followed by a
pause.  Only known lights can be asked and told anything.

Each light follows a script of disturbances, one for each request.
-/

namespace Lamplighter

/-- what can disturb a request to a light, or a window -/
inductive Disturbance where
  | timeout | protocol | socket | crash
  deriving DecidableEq, Repr, Inhabited

namespace Disturbance

def message : Disturbance → String
  | .timeout => "no answer"
  | .protocol => "bad packet"
  | .socket => "network unreachable"
  | .crash => "boom"

/-- the fault that a client makes of it -/
def toFault (d : Disturbance) : Fault :=
  match d with
  | .timeout => .timeout d.message
  | .protocol | .socket => .unreachable d.message
  | .crash => .broken d.message

end Disturbance

/-- what happens to one request to a light -/
inductive Turn where
  | ok
  /-- an answer after a while, or a disturbance then -/
  | delay (duration : Duration) (disturbance : Option Disturbance := none)
  | silence
  | disturbed (disturbance : Disturbance)
  deriving Repr, Inhabited

structure Light where
  serial : String
  host : String
  label : Option String := none
  color : PhysicalColor
  power : Int
  turns : List Turn := []
  deriving Repr, Inhabited

/-- what turns up in a window -/
inductive Turnout where
  | light (serial : String)
  | delay (duration : Duration)
  | disturbed (disturbance : Disturbance)
  /-- something that is no light -/
  | other
  deriving Repr, Inhabited

/-- what is asked of lights, as it goes over the network -/
inductive Packet where
  | getColor (serial : String)
  | setPower (serial : String) (isOn : Bool) (seconds : Float)
  | setColor (serial : String) (color : PhysicalColor) (seconds : Float)
  | search (interval : Float) (broadcast : String)
  deriving Repr, Inhabited

/-- where the search of a client stands -/
inductive SearchState where
  /-- a new window is next -/
  | window
  /-- the window goes on after a delay -/
  | going (rest : List Turnout)
  /-- a light is asked for its label, which it gives unless something disturbs it -/
  | asking (serial : String) (disturbance : Option Disturbance) (rest : List Turnout)
  /-- nothing more will happen -/
  | stuck
  deriving Repr, Inhabited

structure LanClient where
  broadcast : String := "255.255.255.255"
  interval : Float := 1.0
  /-- the lights to talk to, by the serial that they are known under -/
  lights : List (String × String) := []
  /-- the handles of the known lights, by serial, in the order in which they became known -/
  devices : List (String × Handle) := []
  isListening : Bool := false
  /-- counts the searches, so that signals of one that was stopped are told from others -/
  session : Nat := 0
  search : Option SearchState := none
  deriving Repr, Inhabited

structure Lan where
  lights : List Light := []
  /-- what turns up in each window; every light in those beyond the end -/
  windows : List (List Turnout) := []
  nextWindow : Nat := 0
  clients : List LanClient := []
  packets : List Packet := []
  deriving Repr, Inhabited

namespace Light

/-- take the next entry of the script -/
def takeTurn (light : Light) : Light × Turn :=
  match light.turns with
  | [] => (light, .ok)
  | turn :: turns => ({ light with turns }, turn)

def name (light : Light) : String :=
  light.label.getD ""

def isOn (light : Light) : Bool :=
  light.power != 0

end Light

namespace Lan

/-! ### Parts -/

def find? (lan : Lan) (serial : String) : Option Light :=
  lan.lights.find? fun l => l.serial == serial

/-- change the first light of a serial -/
def modifyLight (lights : List Light) (serial : String) (change : Light → Light) : List Light :=
  match lights with
  | [] => []
  | l :: rest =>
    if l.serial == serial then change l :: rest else l :: modifyLight rest serial change

def modify (lan : Lan) (serial : String) (change : Light → Light) : Lan :=
  { lan with lights := modifyLight lan.lights serial change }

def client (lan : Lan) (client : Nat) : LanClient :=
  (lan.clients[client]?).getD {}

def modifyClient (lan : Lan) (client : Nat) (change : LanClient → LanClient) : Lan :=
  { lan with clients := lan.clients.modify client change }

/-- a new client, and the number by which it is known -/
def addClient (lan : Lan) (client : LanClient) : Lan × Nat :=
  ({ lan with clients := lan.clients ++ [client] }, lan.clients.length)

def note (lan : Lan) (packet : Packet) : Lan :=
  { lan with packets := lan.packets ++ [packet] }

/-- a search is noted only once until the notes are taken -/
def noteSearch (lan : Lan) (interval : Float) (broadcast : String) : Lan :=
  let isNoted := lan.packets.any fun packet =>
    match packet with
    | .search i b => i.toBits == interval.toBits && b == broadcast
    | _ => false
  if isNoted then lan else lan.note (.search interval broadcast)

/-- take the next entry of the script of a light -/
def takeTurn (lan : Lan) (serial : String) : Lan × Turn :=
  match lan.find? serial with
  | none => (lan, .silence)
  | some light => (lan.modify serial fun l => l.takeTurn.1, light.takeTurn.2)

/-! ### Requests -/

/-- how long a request takes and what it comes to -/
def answerOf : Turn → Wait × Answer
  | .ok => (.atOnce, .ok)
  | .delay duration none => (.lasting duration, .ok)
  | .delay duration (some d) => (.lasting duration, .fault d.toFault)
  | .silence => (.lasting .endless, .ok)
  | .disturbed d => (.atOnce, .fault d.toFault)

/-- send a packet to a light -/
def sendPacket (lan : Lan) (serial : String) (packet : Packet) : Lan × Wait × Answer :=
  let (lan, turn) := (lan.note packet).takeTurn serial
  let (wait, answer) := answerOf turn
  (lan, wait, answer)

/-- send a packet to a light that the client knows -/
def sendKnown (lan : Lan) (client : Nat) (serial : String) (packet : Except LevelFault Packet) :
    Lan × Wait × Answer :=
  match Assoc.get? (lan.client client).lights serial with
  | none => (lan, .atOnce, .fault (.unreachable ("unknown bulb " ++ serial)))
  | some light =>
    match packet with
    | .error fault => (lan, .atOnce, .fault (.tooLarge fault.message))
    | .ok packet => lan.sendPacket light packet

/-- the fault of levels that are no color -/
def levelFault : LevelFault → Fault
  | .outOfBounds channel => .badLevel channel
  | fault => .tooLarge fault.message

def send (lan : Lan) (client : Nat) (handle : Handle) (request : Request) : Lan × Wait × Answer :=
  let serial := handle.serial
  match request with
  | .introduce => lan.sendPacket serial (.getColor serial)
  | .read => lan.sendKnown client serial (.ok (.getColor serial))
  | .power isOn duration =>
    lan.sendKnown client serial ((PhysicalColor.seconds duration).map (.setPower serial isOn))
  | .color hue saturation brightness kelvin duration =>
    match PhysicalColor.ofLevels hue saturation brightness kelvin with
    | .error fault => (lan, .atOnce, .fault (levelFault fault))
    | .ok color =>
      lan.sendKnown client serial
        ((PhysicalColor.seconds (max 0 duration)).map (.setColor serial color))

/-- a light becomes known under its label -/
def introduce (lan : Lan) (client : Nat) (light : Light) : Lan × Handle :=
  let handle : Handle := { serial := light.serial, label := light.name, host := light.host }
  (lan.modifyClient client fun c => { c with
    lights := Assoc.put c.lights light.serial light.serial
    devices := Assoc.put c.devices light.serial handle }, handle)

/-- the handle of a light that has answered, under the label that it gave; there must be one -/
def relabel (lan : Lan) (client : Nat) (handle : Handle) (light : Light) :
    Lan × Except Fault Handle :=
  match Assoc.get? (lan.client client).devices handle.serial with
  | none => (lan, .error (.broken (Text.quotedString handle.serial)))
  | some known =>
    if light.name.isEmpty || light.name == known.label then (lan, .ok known)
    else
      let renamed := { known with label := light.name }
      (lan.modifyClient client fun c =>
        { c with devices := Assoc.put c.devices handle.serial renamed }, .ok renamed)

def readingFault : Binary64.NotWhole → Fault
  | .infinite => .tooLarge "cannot convert float infinity to integer"
  | .undefined => .badLevel "cannot convert float NaN to integer"

/-- what a request does to a light that answers -/
def carryOut (lan : Lan) (client : Nat) (handle : Handle) (light : Light) :
    Request → Lan × Except Fault Reply × List Handle
  | .introduce =>
    let (lan, known) := lan.introduce client light
    (lan, .ok .nothing, if (lan.client client).isListening then [known] else [])
  | .read =>
    match lan.relabel client handle light with
    | (lan, .error fault) => (lan, .error fault, [])
    | (lan, .ok known) =>
      match light.color.toState light.isOn light.name with
      | .ok state => (lan, .ok (.state known state), [])
      | .error fault => (lan, .error (readingFault fault), [])
  | .power isOn _ =>
    (lan.modify light.serial fun l => { l with power := if isOn then powerOn else powerOff },
      .ok .nothing, [])
  | .color hue saturation brightness kelvin _ =>
    match PhysicalColor.ofLevels hue saturation brightness kelvin with
    | .ok color => (lan.modify light.serial fun l => { l with color }, .ok .nothing, [])
    | .error fault => (lan, .error (levelFault fault), [])

/-- a fault for which a light that turns up is passed over -/
def isPassedOver : Fault → Bool
  | .timeout _ | .unreachable _ => true
  | _ => false

def settle (lan : Lan) (client : Nat) (handle : Handle) (request : Request) (answer : Answer) :
    Lan × Except Fault Reply × List Handle :=
  match answer, lan.find? handle.serial with
  | .fault fault, _ =>
    if request = .introduce && isPassedOver fault then (lan, .ok .nothing, [])
    else (lan, .error fault, [])
  | _, none => (lan, .ok .nothing, [])
  | _, some light => lan.carryOut client handle light request

/-! ### Searching -/

def setSearch (lan : Lan) (client : Nat) (state : SearchState) : Lan :=
  lan.modifyClient client fun c => { c with search := some state }

/-- the search of a client goes on after a while -/
def later (lan : Lan) (client : Nat) (wait : Wait) : List (Wait × Signal) :=
  [(wait, .search client (lan.client client).session)]

/-- the search pauses before the next window -/
def pauseSearch (lan : Lan) (client : Nat) (found : List Handle) : Lan × Sighting :=
  (lan.setSearch client .window,
    { found, later := lan.later client (.lasting (.ofFloat (lan.client client).interval)) })

/-- a light is passed over, or becomes known -/
def met (lan : Lan) (client : Nat) (serial : String) (found : List Handle) : Lan × List Handle :=
  match lan.find? serial with
  | none => (lan, found)
  | some light =>
    let (lan, handle) := lan.introduce client light
    (lan, if (lan.client client).isListening then found ++ [handle] else found)

/-- go through what turns up in a window until there is something to wait for -/
def walk (lan : Lan) (client : Nat) (found : List Handle) : List Turnout → Lan × Sighting
  | [] => lan.pauseSearch client found
  | .other :: rest => walk lan client found rest
  | .delay duration :: rest =>
    (lan.setSearch client (.going rest), { found, later := lan.later client (.lasting duration) })
  | .disturbed .crash :: _ => (lan.setSearch client .stuck, { found })
  | .disturbed _ :: _ => lan.pauseSearch client found
  | .light serial :: rest =>
    if (Assoc.get? (lan.client client).devices serial).isSome then walk lan client found rest
    else
      match (lan.note (.getColor serial)).takeTurn serial with
      | (lan, .ok) =>
        match lan.met client serial found with
        | (lan, found) => walk lan client found rest
      | (lan, .delay duration disturbance) =>
        (lan.setSearch client (.asking serial disturbance rest),
          { found, later := lan.later client (.lasting duration) })
      | (lan, .silence) => (lan.setSearch client .stuck, { found })
      | (lan, .disturbed .crash) => (lan.setSearch client .stuck, { found })
      | (lan, .disturbed _) => walk lan client found rest

/-- what turns up in the next window -/
def openWindow (lan : Lan) : Lan × List Turnout :=
  let turnout := (lan.windows[lan.nextWindow]?).getD (lan.lights.map fun l => .light l.serial)
  ({ lan with nextWindow := lan.nextWindow + 1 }, turnout)

/-- the search of a client goes on -/
def goOn (lan : Lan) (client : Nat) : Lan × Sighting :=
  let c := lan.client client
  match c.search with
  | none | some .stuck => (lan, {})
  | some .window =>
    let (opened, turnout) := (lan.noteSearch c.interval c.broadcast).openWindow
    opened.walk client [] turnout
  | some (.going rest) => lan.walk client [] rest
  | some (.asking serial none rest) =>
    let (lan, found) := lan.met client serial []
    lan.walk client found rest
  | some (.asking _ (some .crash) _) => (lan.setSearch client .stuck, {})
  | some (.asking _ (some _) rest) => lan.walk client [] rest

def signal (lan : Lan) : Signal → Lan × Sighting
  | .bulb _ _ _ => (lan, {})
  | .search client session =>
    if (lan.client client).session == session then lan.goOn client else (lan, {})

/-- the known lights are told of at once; a search begins unless one is going on -/
def start (lan : Lan) (client : Nat) : Lan × Except Fault Sighting :=
  let c := lan.client client
  let found := c.devices.map (·.2)
  match c.search with
  | some _ => (lan.modifyClient client fun c => { c with isListening := true }, .ok { found })
  | none =>
    (lan.modifyClient client fun c =>
        { c with isListening := true, search := some .window, session := c.session + 1 },
      .ok { found, later := [(.atOnce, .search client (c.session + 1))] })

def stop (lan : Lan) (client : Nat) : Lan :=
  lan.modifyClient client fun c => { c with isListening := false, search := none }

instance : Network Lan where
  send := send
  settle := settle
  start := start
  stop := stop
  signal := signal

end Lan

end Lamplighter
