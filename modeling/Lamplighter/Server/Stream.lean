import Lamplighter.Event.Frame
import Lamplighter.Server.Front

/-!
# Streams: events as they are read

A stream is a subscriber of the hub whose events are read as frames.  Its reader begins with the
first frame; closing a stream that was never read leaves the subscriber behind.
-/

namespace Lamplighter.Server

structure Stream where
  /-- the subscriber -/
  place : Nat
  isBegun : Bool := false
  deriving DecidableEq, Repr, Inhabited

namespace Front

variable {ν : Type} [Network ν]

def withHub (front : Front ν) (hub : Hub Event) : Front ν :=
  { front with session := { front.session with hub } }

/-- take the event that waits longest, as a frame -/
def takeFrame? (front : Front ν) (place : Nat) : Option (Front ν × String) :=
  (front.session.hub.next? place).map fun (event, hub) => (front.withHub hub, Frame.ofEvent event)

/-- the next frame: an event as soon as there is one, or a comment after a while -/
def nextFrame (front : Front ν) (place : Nat) : Front ν × String :=
  match front.takeFrame? place with
  | some result => result
  | none =>
    let s := front.session
    let waiting := { s with isRung := false, agenda := s.agenda.pause Frame.patience .alarm }
    let later := Session.drive (fun s => s.isRung || !(s.hub.waiting place).isEmpty)
      Session.patience waiting
    let settled : Front ν :=
      { front with session := { later with agenda := later.agenda.drop Cue.isAlarm } }
    (settled.takeFrame? place).getD (settled, Frame.keepAlive)

def frames (front : Front ν) (place : Nat) : Nat → Front ν × List String
  | 0 => (front, [])
  | n + 1 =>
    let (front, frame) := front.nextFrame place
    let (front, rest) := front.frames place n
    (front, frame :: rest)

def openStream (front : Front ν) : Front ν × Stream :=
  let (hub, place) := front.session.hub.subscribe
  (front.withHub hub, { place })

/-- read so many frames of a stream -/
def readStream (front : Front ν) (stream : Stream) (count : Nat) :
    Front ν × Stream × List String :=
  let (front, texts) := front.frames stream.place count
  (front, { stream with isBegun := stream.isBegun || count != 0 }, texts)

def closeStream (front : Front ν) (stream : Stream) : Front ν :=
  if stream.isBegun then front.withHub (front.session.hub.unsubscribe stream.place) else front

end Front

end Lamplighter.Server
