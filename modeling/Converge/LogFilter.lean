import Converge.Text.Blank
import Converge.Text.Bytes
import Converge.Text.Pieces

/-!
# Log filters

A log filter is a list of directives with commas between them: a level, a target, or a target with a level.

* `LogFilter.read` reads a filter; `LogFilter.text` writes it with longer targets first and the bare level last.
* `LogFilter.Settings` says which filter applies and whether lines are written as JSON.
-/

namespace Converge

set_option autoImplicit false

inductive LogLevel where
  | off
  | error
  | warn
  | info
  | debug
  | trace
deriving DecidableEq, Inhabited

namespace LogLevel

/-- All levels, by their numbers. -/
def all : List LogLevel := [off, error, warn, info, debug, trace]

def name : LogLevel → String
  | off => "off"
  | error => "error"
  | warn => "warn"
  | info => "info"
  | debug => "debug"
  | trace => "trace"

/-- The number that a text of digits names, behind a plus sign or not. -/
def number? (cs : List Char) : Option Nat :=
  let ds := match cs with
    | '+' :: rest => rest
    | cs => cs
  if ds.isEmpty || !ds.all Char.isDigit then none
  else some (ds.foldl (fun n d => n * 10 + (d.toNat - 48)) 0)

/-- The level of a number or of a name in capital or small letters. -/
def read? (cs : List Char) : Option LogLevel :=
  match number? cs with
  | some n => all[n]?
  | none => all.find? fun l => l.name.toList = cs.map Char.toLower

end LogLevel

/-- What is logged of a target, or of everything. -/
structure LogDirective where
  target : Option String
  level : LogLevel
deriving DecidableEq

/-- A list of directives for different targets, the more specific ones first. -/
abbrev LogFilter := List LogDirective

namespace LogFilter

inductive Fault where
  | level
  | directive
deriving DecidableEq

def Fault.message : Fault → String
  | level =>
    "error parsing level filter: expected one of \"off\", \"error\", \"warn\", \"info\", \"debug\", \"trace\", " ++
      "or a number 0-5"
  | directive => "invalid filter directive"

def mayBegin (c : Char) : Bool := c = '-' || c = ':' || c = '_' || c.isAlphanum || c.toNat ≥ 0x80

/-- The directive of a part. Blanks at its ends do not count when its form is looked at, yet they stay in its texts. -/
def readDirective (part : List Char) : Except Fault LogDirective :=
  let bare := Text.trim part
  match bare with
  | [] => .error .directive
  | c :: _ =>
    if !mayBegin c || bare.contains '[' then .error .directive
    else
      match Text.cut ['='] bare with
      | some (before, _) =>
        let target := Text.fit (Text.byteLength before) part
        let levelText := part.drop (target.length + 1)
        if levelText.isEmpty then .ok ⟨some (String.ofList target), .trace⟩
        else
          match LogLevel.read? levelText with
          | some level => .ok ⟨some (String.ofList target), level⟩
          | none => .error .level
      | none =>
        match LogLevel.read? part with
        | some level => .ok ⟨none, level⟩
        | none => .ok ⟨some (String.ofList part), .trace⟩

/-- Whether a directive with target `a` comes before one with target `b`. -/
def before (a b : Option String) : Bool :=
  match a, b with
  | some _, none => true
  | none, _ => false
  | some a, some b => a.utf8ByteSize > b.utf8ByteSize || (a.utf8ByteSize == b.utf8ByteSize && b < a)

/-- The filter with a directive in place of the one for its target, or in its place in the order. -/
def add (d : LogDirective) : LogFilter → LogFilter
  | [] => [d]
  | e :: rest =>
    if d.target = e.target then d :: rest
    else if before d.target e.target then d :: e :: rest
    else e :: add d rest

/-- Reads a filter; empty parts do not count. -/
def read (text : String) : Except Fault LogFilter := do
  let parts := (Text.pieces ',' text.toList).filter fun part => !part.isEmpty
  let directives ← parts.mapM readDirective
  return directives.foldl (fun f d => add d f) []

def directiveText (d : LogDirective) : String :=
  match d.target with
  | some target => target ++ "=" ++ d.level.name
  | none => d.level.name

def text (f : LogFilter) : String := ",".intercalate (f.map directiveText)

/-! ## Settings -/

inductive SetupError where
  | filter (fault : Fault)
  | taken
deriving DecidableEq

def SetupError.message : SetupError → String
  | filter fault => "invalid log filter: " ++ fault.message
  | taken =>
    "failed to initialize tracing subscriber: a global default trace dispatcher has already been set"

structure Settings where
  /-- The filter; the default one if unset. -/
  filter : Option String
  json : Bool
deriving DecidableEq

namespace Settings

def defaultFilter : String := "info,juggler=debug,kube=info,tower=warn,hyper=warn"

def ofEnvironment (lookup : String → Option String) : Settings where
  filter := lookup "RUST_LOG"
  json :=
    match lookup "JUGGLER_LOG_FORMAT" with
    | some format => format.toList.map Char.toLower == "json".toList
    | none => true

def build (s : Settings) : Except SetupError LogFilter :=
  match read (s.filter.getD defaultFilter) with
  | .ok f => .ok f
  | .error e => .error (.filter e)

/-- Sets logging up in a process in which it may already be. -/
def install (s : Settings) (alreadySet : Bool) : Except SetupError Unit :=
  match s.build with
  | .error e => .error e
  | .ok _ => if alreadySet then .error .taken else .ok ()

end Settings

end LogFilter

end Converge
