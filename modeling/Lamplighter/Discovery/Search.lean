import Lamplighter.Discovery.Listing
import Lamplighter.Run.Session

/-!
# Searching: which bulbs there are

A client listens for a while; of the bulbs it hears of, the first handle of each serial counts.
Then all of them are asked for their states at the same time, with one retry.  A bulb that gives no
state or cannot be reached is listed without one.
-/

namespace Lamplighter.Session

variable {ν : Type} [Network ν]

/-- the first handle of each serial -/
def firstHandles (handles : List Handle) : List Handle :=
  handles.foldl (fun found handle =>
    if found.any fun h => h.serial == handle.serial then found else found ++ [handle]) []

/-- a fault that only means that a bulb gives no state -/
def isStateless : Fault → Bool
  | .silent _ _ | .timeout _ | .unreachable _ => true
  | _ => false

/-- what is listed of a bulb whose errand has ended, or the fault that ends the search -/
def listed (handle : Handle) : Except Fault Reply → Except Fault Listed
  | .ok (.state _ state) => .ok ⟨handle, some state⟩
  | .ok .nothing => .ok ⟨handle, none⟩
  | .error fault => if isStateless fault then .ok ⟨handle, none⟩ else .error fault

/-- the fault of one of some errands that ends the search -/
def searchFault? (s : Session ν) (errands : List Nat) : Option Fault :=
  errands.findSome? fun e =>
    match (s.errands[e]?).bind Errand.raised? with
    | some fault => if isStateless fault then none else some fault
    | none => none

/-- ask all bulbs at once -/
def askAll (s : Session ν) (client : Nat) (timeout : Duration) (handles : List Handle) :
    Session ν × List Nat :=
  handles.foldl (fun (s, places) handle =>
    let errands := s.errands ++ [.query client handle timeout 1]
    ({ s with errands }.soon 0 (.begin s.errands.length),
      places ++ [s.errands.length])) (s, [])

/-- the listing of bulbs whose errands have ended -/
def listAll (s : Session ν) (handles : List Handle) (places : List Nat) :
    Except Fault (List Listed) :=
  (handles.zip places).mapM fun (handle, e) =>
    match (s.errands[e]?).bind Errand.outcome? with
    | some outcome => listed handle outcome
    | none => .ok ⟨handle, none⟩

/-- listen for a while, then ask every bulb that was heard of for its state -/
def discover (s : Session ν) (client : Nat) (timeout stateTimeout : Duration) :
    Session ν × Except Fault (List Listed) :=
  let i := s.lists.length
  match { s with lists := s.lists ++ [[]] }.listen client (.list i) with
  | (s, some fault) => (s, .error fault)
  | (s, none) =>
    let heard := (s.sleep timeout).unlisten client
    let handles := firstHandles (((heard.lists[i]?).getD []).map (·.1))
    let (asking, places) := heard.askAll client stateTimeout handles
    let done := drive (fun s => (searchFault? s places).isSome || places.all s.isErrandOver)
      patience asking
    match searchFault? done places with
    | some fault => (done, .error fault)
    | none => (done, (done.listAll handles places).map Listed.sort)

end Lamplighter.Session
