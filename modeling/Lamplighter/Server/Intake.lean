import Lamplighter.Json.Reader
import Lamplighter.Text.Lowercase

/-!
# Intake: what is read from the body of a request

The body of a command request is an object with the command, a text that is not empty, and may be
an id of the request.  A body that is declared to be something else than Json is not read at all.
Every field that is wrong is complained of, each complaint with its place and the value in question.
-/

namespace Lamplighter.Server

structure CommandRequest where
  requestId : Option String
  command : String
  deriving DecidableEq, Repr, Inhabited

inductive Complaint where
  /-- the body is empty or null -/
  | noBody
  /-- the body is no object -/
  | notObject (input : Json)
  /-- the object lacks a field -/
  | absent (field : String) (input : Json)
  | notText (field : String) (input : Json)
  | emptyText (field : String)
  deriving Inhabited

/-- why a body is no command request -/
inductive BodyFault where
  | notJson
  | invalid (complaints : List Complaint)
  deriving Inhabited

namespace Complaint

def place (field : String) : Json :=
  .arr [.str "body", .str field]

def toJson : Complaint → Json
  | .noBody =>
    .obj [("type", .str "missing"), ("loc", .arr [.str "body"]), ("msg", .str "Field required"),
      ("input", .null)]
  | .notObject input =>
    .obj [("type", .str "model_attributes_type"), ("loc", .arr [.str "body"]),
      ("msg", .str "Input should be a valid dictionary or object to extract fields from"),
      ("input", input)]
  | .absent field input =>
    .obj [("type", .str "missing"), ("loc", place field), ("msg", .str "Field required"),
      ("input", input)]
  | .notText field input =>
    .obj [("type", .str "string_type"), ("loc", place field),
      ("msg", .str "Input should be a valid string"), ("input", input)]
  | .emptyText field =>
    .obj [("type", .str "string_too_short"), ("loc", place field),
      ("msg", .str "String should have at least 1 character"), ("input", .str ""),
      ("ctx", .obj [("min_length", .int 1)])]

end Complaint

/-! ### Content types -/

/-- the type of a content without its parameters, in lower case; one that is malformed is plain
text -/
def mediaType (contentType : String) : List Char × List Char :=
  let name := Text.lower (Text.trim (contentType.toList.takeWhile (· != ';')))
  let (main, sub) := (name.takeWhile (· != '/'), (name.dropWhile (· != '/')).drop 1)
  if !name.contains '/' || sub.contains '/' then ("text".toList, "plain".toList) else (main, sub)

/-- content of this type is Json; so is content of no type -/
def isJsonType (contentType : String) : Bool :=
  let (main, sub) := mediaType contentType
  contentType.isEmpty
    || main == "application".toList && (sub == "json".toList || "+json".toList.isSuffixOf sub)

/-! ### Fields -/

/-- the request id, which may be left out or null -/
def readRequestId (body : Json) : Except Complaint (Option String) :=
  match body.get? "requestId" with
  | none | some .null => .ok none
  | some (.str id) => .ok (some id)
  | some other => .error (.notText "requestId" other)

def readCommand (body : Json) : Except Complaint String :=
  match body.get? "command" with
  | none => .error (.absent "command" body)
  | some (.str command) => if command.isEmpty then .error (.emptyText "command") else .ok command
  | some other => .error (.notText "command" other)

/-- the request in an object, or all complaints in the order of the fields -/
def readFields (body : Json) : Except (List Complaint) CommandRequest :=
  match readRequestId body, readCommand body with
  | .ok requestId, .ok command => .ok { requestId, command }
  | .error c, .error d => .error [c, d]
  | .error c, .ok _ => .error [c]
  | .ok _, .error c => .error [c]

def readValue (body : Json) : Except (List Complaint) CommandRequest :=
  match body with
  | .null => .error [.noBody]
  | .obj members => readFields (.obj members)
  | other => .error [.notObject other]

/-- a mark of the byte order in front of a text is no part of it -/
def dropMark (text : String) : String :=
  match text.toList with
  | '\uFEFF' :: rest => String.ofList rest
  | _ => text

/-- the request in the body of a content type -/
def readBody (contentType body : String) : Except BodyFault CommandRequest :=
  if body.isEmpty then .error (.invalid [.noBody])
  else if isJsonType contentType then
    match Json.read? (dropMark body) with
    | none => .error .notJson
    | some value => (readValue value).mapError .invalid
  else .error (.invalid [.notObject (.str body)])

end Lamplighter.Server
