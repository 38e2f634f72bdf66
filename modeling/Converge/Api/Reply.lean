import Converge.Api.Request
import Converge.Cluster.Object
import Converge.Codec.Located
import Converge.Text.Utf8

/-!
# Replies of an API server

* `Api.Reply` is a status code with a body, or the failure to get one. `Api.Wire` is a connection whose replies are known
  beforehand; it keeps the requests.
* `Api.Call α` is a request with its reply. `Api.Reply.text` is the text of a reply; a code from 400 to 599 is an error, in the
  words of the body if it has the form of an error reply. `Api.fetch` sends a request and reads the reply.
* `Api.readObject`, `Api.readPage`, `Api.readDeleted` read what the bodies of successful replies hold.
-/

namespace Converge.Api

set_option autoImplicit false

/-- A reply, or the failure to get one. -/
inductive Reply where
  | response (status : Nat) (body : List UInt8)
  | failure (text : String)
deriving Inhabited

/-- A connection whose replies are known beforehand. -/
structure Wire where
  replies : List Reply
  requests : List Request := []
deriving Inhabited

/-- A request with its reply. -/
abbrev Call (α : Type) : Type := ExceptT RequestFault (StateM Wire) α

def checked {α : Type} (e : Except RequestFault α) : Call α := ExceptT.mk (pure e)

/-- Sends a request; the next reply answers it. -/
def send (q : Request) : Call Reply := ExceptT.mk fun w =>
  match w.replies with
  | [] => (.error (.service "no reply scripted"), { w with requests := w.requests ++ [q] })
  | p :: rest => (.ok p, ⟨rest, w.requests ++ [q]⟩)

/-! ## Error replies -/

def reasonPhrase (status : Nat) : String :=
  let known : List (Nat × String) := [
    (400, "Bad Request"), (401, "Unauthorized"), (402, "Payment Required"), (403, "Forbidden"), (404, "Not Found"),
    (405, "Method Not Allowed"), (406, "Not Acceptable"), (407, "Proxy Authentication Required"),
    (408, "Request Timeout"), (409, "Conflict"), (410, "Gone"), (411, "Length Required"),
    (412, "Precondition Failed"), (413, "Payload Too Large"), (414, "URI Too Long"), (415, "Unsupported Media Type"),
    (416, "Range Not Satisfiable"), (417, "Expectation Failed"), (418, "I'm a teapot"), (421, "Misdirected Request"),
    (422, "Unprocessable Entity"), (423, "Locked"), (424, "Failed Dependency"), (425, "Too Early"),
    (426, "Upgrade Required"), (428, "Precondition Required"), (429, "Too Many Requests"),
    (431, "Request Header Fields Too Large"), (451, "Unavailable For Legal Reasons"), (500, "Internal Server Error"),
    (501, "Not Implemented"), (502, "Bad Gateway"), (503, "Service Unavailable"), (504, "Gateway Timeout"),
    (505, "HTTP Version Not Supported"), (506, "Variant Also Negotiates"), (507, "Insufficient Storage"),
    (508, "Loop Detected"), (510, "Not Extended"), (511, "Network Authentication Required")]
  (Assoc.get? status known).getD "<unknown status code>"

def errorRecord : Record ErrorReply where
  name := "struct ErrorResponse"
  blank := ⟨"", "", "", 0⟩
  positional := true
  fields := [
    .required "status" .string (·.status) fun v r => { r with status := v },
    .defaulted "message" .string (·.message) fun v r => { r with message := v },
    .defaulted "reason" .string (·.reason) fun v r => { r with reason := v },
    .required "code" .word16 (·.code) fun v r => { r with code := v }]

/-- The error that a reply of a status code with a text stands for. -/
def errorReply (status : Nat) (text : String) : ErrorReply :=
  match (Json.parseInOrder text).toOption.bind fun v => (errorRecord.read v).toOption with
  | some r => r
  | none =>
    { status := toString status ++ " " ++ reasonPhrase status
      message := Text.quoted text
      reason := "Failed to parse error data"
      code := status }

/-- The text of a reply, unless it is an error. -/
def Reply.text : Reply → Except RequestFault String
  | failure text => .error (.service text)
  | response status body =>
    match Text.decodeUtf8 body with
    | .error e => .error (.notText e.message)
    | .ok cs =>
      if 400 ≤ status ∧ status < 600 then .error (.reply (errorReply status (String.ofList cs)))
      else .ok (String.ofList cs)

/-- What a reply says to a reader of its text. -/
def Reply.read {α : Type} (reader : String → Except String α) (p : Reply) : Except RequestFault α := do
  match reader (← p.text) with
  | .ok a => return a
  | .error e => throw (.unreadable e)

/-- Sends a request and reads the reply. -/
def fetch {α : Type} (reader : String → Except String α) (q : Request) : Call α := do
  checked ((← send q).read reader)

/-! ## Bodies -/

def readObject (text : String) : Except String Object := (Codec.readText Object.read text).map Object.canonical

structure ListMetadata where
  token : Option String := none
  remaining : Option Int := none
  resourceVersion : Option String := none
  selfLink : Option String := none
deriving Inhabited

structure Page where
  items : List Object := []
  metadata : ListMetadata := {}
deriving Inhabited

/-- The token of the next page, if there is one. An empty one counts for none. -/
def Page.token (p : Page) : Option String := p.metadata.token.filter fun token => !token.isEmpty

def listMetadataRecord : Record ListMetadata where
  name := "ListMeta"
  blank := {}
  positional := false
  fields := [
    .optional "continue" .string (·.token) fun v m => { m with token := v },
    .optional "remainingItemCount" .int64 (·.remaining) fun v m => { m with remaining := v },
    .optional "resourceVersion" .string (·.resourceVersion) fun v m => { m with resourceVersion := v },
    .optional "selfLink" .string (·.selfLink) fun v m => { m with selfLink := v }]

def objectCodec : Codec Object := ⟨Object.read, fun o => o.write.toOption.getD .null⟩

/-- The members of a page: its objects must be there, yet may be `null`. -/
def pageRecord : Record Page where
  name := "struct ObjectList"
  blank := {}
  positional := false
  fields := [
    .defaulted "metadata" listMetadataRecord.codec (·.metadata) fun v p => { p with metadata := v },
    { Field.lenient "items" (.list objectCodec) (·.items) (fun v p => { p with items := v }) with needed := true }]

def readPage (text : String) : Except String Page :=
  (Codec.readText pageRecord.read text).map fun p => { p with items := p.items.map Object.canonical }

/-- Whether an operation succeeded. -/
inductive Verdict where
  | success
  | failure
deriving DecidableEq, Inhabited

namespace Verdict

def text : Verdict → String
  | success => "Success"
  | failure => "Failure"

def ofText? (name : String) : Option Verdict :=
  if name = "Success" then some success else if name = "Failure" then some failure else none

def codec : Codec Verdict := .choice ["Success", "Failure"] ofText? text

end Verdict

structure FailureCause where
  reason : String := ""
  message : String := ""
  field : String := ""
deriving Inhabited

def FailureCause.record : Record FailureCause where
  name := "struct StatusCause"
  blank := {}
  positional := true
  fields := [
    .defaulted "reason" .string (·.reason) fun v c => { c with reason := v },
    .defaulted "message" .string (·.message) fun v c => { c with message := v },
    .defaulted "field" .string (·.field) fun v c => { c with field := v }]

/-- What an operation was about. -/
structure OperationDetails where
  name : String := ""
  group : String := ""
  kind : String := ""
  uid : String := ""
  causes : List FailureCause := []
  retryAfterSeconds : Nat := 0
deriving Inhabited

def OperationDetails.record : Record OperationDetails where
  name := "struct StatusDetails"
  blank := {}
  positional := true
  fields := [
    .defaulted "name" .string (·.name) fun v d => { d with name := v },
    .defaulted "group" .string (·.group) fun v d => { d with group := v },
    .defaulted "kind" .string (·.kind) fun v d => { d with kind := v },
    .defaulted "uid" .string (·.uid) fun v d => { d with uid := v },
    .defaulted "causes" (.list FailureCause.record.codec) (·.causes) fun v d => { d with causes := v },
    .defaulted "retryAfterSeconds" .word32 (·.retryAfterSeconds) fun v d => { d with retryAfterSeconds := v }]

structure OperationStatus where
  status : Option Verdict := none
  code : Nat := 0
  message : String := ""
  reason : String := ""
  details : Option OperationDetails := none
deriving Inhabited

def OperationStatus.record : Record OperationStatus where
  name := "struct Status"
  blank := {}
  positional := true
  fields := [
    .optional "status" Verdict.codec (·.status) fun v s => { s with status := v },
    .defaulted "code" .word16 (·.code) fun v s => { s with code := v },
    .defaulted "message" .string (·.message) fun v s => { s with message := v },
    .defaulted "reason" .string (·.reason) fun v s => { s with reason := v },
    .optional "details" OperationDetails.record.codec (·.details) fun v s => { s with details := v }]

/-- Reads the reply to a deletion: the status of the operation or the object as it was. -/
def readDeleted (text : String) : Except String Unit := do
  let v ← Json.parse text
  if v.get? "kind" == some (.string "Status") then (Codec.readText OperationStatus.record.read text).map fun _ => ()
  else (readObject text).map fun _ => ()

end Converge.Api
