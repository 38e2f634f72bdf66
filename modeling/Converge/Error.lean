import Converge.Text.Quoted

/-!
# Errors

* `RequestFault` is what a request to an API server can fail with; `Error` what any operation can.
* `Error.message` is the wording; `Error.isRetryable` tells whether the next pass may succeed.
* `Error.classify` tells a missing object and a type that is not served from other faults; `ignoreNotFound` and
  `ignoreMissing` turn these into success.
-/

namespace Converge

set_option autoImplicit false

structure ErrorReply where
  status : String
  message : String
  reason : String
  code : Nat
deriving DecidableEq

/-- Why a request to an API server failed. -/
inductive RequestFault where
  | reply (r : ErrorReply)
  /-- The request did not get through. -/
  | service (text : String)
  /-- The reply did not read as what was asked for. -/
  | unreadable (text : String)
  /-- A stream of lines ended within a line. -/
  | noLineEnd
  | notText (text : String)
  | malformed (text : String)
deriving DecidableEq

def RequestFault.message : RequestFault → String
  | reply r =>
    "ApiError: " ++ r.message ++ ": " ++ r.reason ++ " (" ++
      Text.record "ErrorResponse" [("status", Text.quoted r.status), ("message", Text.quoted r.message),
        ("reason", Text.quoted r.reason), ("code", toString r.code)] ++ ")"
  | service text => "ServiceError: " ++ text
  | unreadable text => "Error deserializing response: " ++ text
  | noLineEnd => "Error finding newline character"
  | notText text => "UTF-8 Error: " ++ text
  | malformed text => "Failed to build request: " ++ text

inductive Error where
  /-- A request failed for another reason than a missing object or type. -/
  | request (fault : RequestFault)
  /-- The object does not exist; `name` is the text of its key. -/
  | notFound (kind name : String)
  /-- The server does not serve the type. -/
  | kindNotFound (apiVersion kind : String)
  | hook (phase : String) (source : Error)
  /-- A component is unfit for what was asked of it. -/
  | component (name message : String)
  /-- A value could not be read or written. -/
  | serialization (message : String) (kind : Option String)
  | config (message : String) (setting : Option String)
  /-- A failure of the engine or its surroundings. -/
  | internal (message context : String)
deriving DecidableEq

instance : Inhabited Error := ⟨.internal "" "unknown"⟩

namespace Error

def message : Error → String
  | request fault => "kubernetes error: " ++ fault.message
  | notFound kind name => kind ++ " " ++ name ++ " not found"
  | kindNotFound apiVersion kind => "no kind " ++ kind ++ " is registered for version " ++ apiVersion
  | hook phase source => phase ++ " hook failed: " ++ source.message
  | component name message => "component " ++ name ++ ": " ++ message
  | serialization message _ => "serialization error: " ++ message
  | config message _ => "configuration error: " ++ message
  | internal message context => "internal error [" ++ context ++ "]: " ++ message

def isNotFound : Error → Bool
  | notFound .. => true
  | _ => false

def isKindNotFound : Error → Bool
  | kindNotFound .. => true
  | _ => false

def isHookFailure : Error → Bool
  | hook .. => true
  | _ => false

/-- Whether the next pass may get further without anyone's help: replies that blame the request will not change, nor will
unfit components, values and settings. -/
def isRetryable : Error → Bool
  | request (.reply r) => !(400 ≤ r.code && r.code < 500)
  | request _ => true
  | notFound .. => true
  | kindNotFound .. => true
  | hook _ source => source.isRetryable
  | component .. => false
  | serialization .. => false
  | config .. => false
  | internal .. => true

def occursIn (part : List Char) : List Char → Bool
  | [] => part.isEmpty
  | c :: rest => part.isPrefixOf (c :: rest) || occursIn part rest

/-- What a server says in a reply of code 404 when it does not serve the type at all. -/
def unservedText : String := "could not find the requested resource"

/-- The error for a fault of a request about the object `name` of a type: a reply of code 404 speaks of the type if it
says so, else of the object. -/
def classify (fault : RequestFault) (apiVersion kind name : String) : Error :=
  match fault with
  | .reply r =>
    if r.code = 404 then
      if occursIn unservedText.toList r.message.toList then kindNotFound apiVersion kind else notFound kind name
    else request fault
  | fault => request fault

def ignoreNotFound : Except Error Unit → Except Error Unit
  | .ok () => .ok ()
  | .error e => if e.isNotFound then .ok () else .error e

/-- Success in place of a missing object or a type that is not served. -/
def ignoreMissing : Except Error Unit → Except Error Unit
  | .ok () => .ok ()
  | .error e => if e.isNotFound || e.isKindNotFound then .ok () else .error e

end Error

end Converge
