import Lamplighter.Json.Writer
import Lamplighter.Run.Session
import Lamplighter.Server.Intake

/-!
# The front: commands and events over the web

A command that is posted is compiled at once: one that is no command is rejected, and any other one
is accepted and starts a run, which waits until the runs before it have ended.  What the runs report
is published to the subscribers of the hub.
-/

namespace Lamplighter.Server

structure Response where
  status : Nat
  body : Json
  deriving Inhabited

/-- why a response cannot be sent -/
inductive ResponseFault where
  /-- it holds a number that is infinite or undefined -/
  | notFinite
  deriving DecidableEq, Repr

def ResponseFault.message : ResponseFault → String
  | .notFinite => "Out of range float values are not JSON compliant"

/-- a response, if it can be sent -/
def Response.checked (response : Response) : Except ResponseFault Response :=
  if response.body.isFinite then .ok response else .error .notFinite

/-- a session behind a front, and the client that its runs share -/
structure Front (ν : Type) where
  session : Session ν
  settings : Settings
  client : Nat

/-! ### Responses -/

/-- a rejection: the request with the error -/
def rejection (requestId : Option String) (command code message : String) (details : Json) :
    Response :=
  { status := 400
    body := .obj [("requestId", Json.ofOption .str requestId), ("command", .str command),
      ("ok", .bool false),
      ("error", .obj [("code", .str code), ("message", .str message), ("details", details)])] }

/-- the rejection of a body that holds no request -/
def bodyRejection (requestId : Option String) : BodyFault → Response
  | .notJson =>
    rejection requestId "" "invalid_json" "Request body must be valid JSON"
      (.obj [("error", .str "JSON decode error")])
  | .invalid complaints =>
    rejection requestId "" "invalid_request" "Request validation failed"
      (.obj [("errors", .arr (complaints.map Complaint.toJson))])

def commandRejection (request : CommandRequest) (error : CommandError) : Response :=
  rejection request.requestId request.command error.code error.message error.details

def acceptance (request : CommandRequest) (action : Action) : Response :=
  { status := 202
    body := .obj [("requestId", Json.ofOption .str request.requestId),
      ("command", .str request.command), ("ok", .bool true),
      ("result", .obj [("verb", .str action.verb.word), ("targets", action.wanted.toJson),
        ("message", .str ("executing action \"" ++ request.command ++ "\"."))])] }

def notFound : Response :=
  { status := 404, body := .obj [("detail", .str "Not Found")] }

def notAllowed : Response :=
  { status := 405, body := .obj [("detail", .str "Method Not Allowed")] }

def healthy : Response :=
  { status := 200, body := .obj [("ok", .bool true)] }

/-! ### Requests -/

def headerOf? (headers : List (String × String)) (name : String) : Option String :=
  (headers.find? fun h => Text.lowerString h.1 == name).map (·.2)

namespace Front

variable {ν : Type} [Network ν]

/-- the run of an action that was accepted, which waits for its turn -/
def accept (front : Front ν) (action : Action) : Front ν :=
  { front with
    session := (front.session.enqueue
      (.ofAction action front.settings front.client .hub)).1 }

/-- a command was posted -/
def command (front : Front ν) (headers : List (String × String)) (body : String) :
    Front ν × Response :=
  let contentType := (headerOf? headers "content-type").getD "application/json"
  match readBody contentType body with
  | .error fault => (front, bodyRejection (headerOf? headers "x-request-id") fault)
  | .ok request =>
    match compile (tokenize request.command) front.settings with
    | .error error => (front, commandRejection request error)
    | .ok action => (front.accept action, acceptance request action)

/-- the paths that can be posted to, and those that can be got -/
def commandsPath : String := "/v1/commands"

def eventsPath : String := "/v1/events/stream"

def healthPath : String := "/healthz"

/-- a path without the query behind it -/
def route (path : String) : String :=
  String.ofList (path.toList.takeWhile (· != '?'))

def post (front : Front ν) (path : String) (headers : List (String × String)) (body : String) :
    Front ν × Except ResponseFault Response :=
  let path := route path
  if path == commandsPath then
    let (front, response) := front.command headers body
    (front, response.checked)
  else if path == healthPath || path == eventsPath then (front, .ok notAllowed)
  else (front, .ok notFound)

def get (path : String) : Response :=
  let path := route path
  if path == healthPath then healthy
  else if path == commandsPath then notAllowed
  else notFound

/-! ### Runs -/

/-- the number of runs that have not ended -/
def unfinished (front : Front ν) : Nat :=
  (front.session.runs.filter fun run => !run.isOver).length

/-- wait until all runs have ended -/
def settle (front : Front ν) : Front ν :=
  { front with
    session := Session.drive (fun s => s.runs.all Run.isOver) Session.patience front.session }

/-- call off every run that has not ended, those that wait for their turn first, and close the
store -/
def shutDown (front : Front ν) : Front ν :=
  let called := (List.range front.session.runs.length).reverse.foldl (fun s r =>
    s.overRun r (s.cancelRun r)) front.session
  { front with session := { called with store := Snapshot.Store.close } }

/-- how many of the runs that are called off have not been crossed off when the front is closed: the
first one is, and all of them are if one still had to wait for its effects -/
def uncrossed (front : Front ν) : Nat :=
  if front.session.runs.any (·.isGathering) then 0 else front.unfinished - 1

end Front

end Lamplighter.Server
