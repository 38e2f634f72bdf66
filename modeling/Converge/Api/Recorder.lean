import Converge.Api.Reply
import Converge.Event

/-!
# Recording events at an API server

* `Api.EventObject` is an event as the events API has it; `Api.EventObject.record` reads and writes it.
* `Api.Recorder` remembers what it recorded. `Api.Recorder.record` creates an event the first time. When the same happens
  to the same object again, it counts the first event up instead.
* An event that the server does not take is dropped and not remembered.
-/

namespace Converge.Api

set_option autoImplicit false

/-! ## Events of the events API -/

/-- How often an event happened, and when last. -/
structure EventSeries where
  count : Int := 0
  lastObservedTime : Instant := ⟨0, 0⟩
deriving Inhabited

def EventSeries.record : Record EventSeries where
  name := "EventSeries"
  blank := {}
  positional := false
  fields := [
    .lenient "count" .int32 (·.count) fun v s => { s with count := v },
    .required "lastObservedTime" (.instant Instant.micros) (·.lastObservedTime)
      fun v s => { s with lastObservedTime := v }]

/-- Where an event of the older kind came from. -/
structure EventSource where
  component : Option String := none
  host : Option String := none
deriving Inhabited

def EventSource.record : Record EventSource where
  name := "EventSource"
  blank := {}
  positional := false
  fields := [
    .optional "component" .string (·.component) fun v s => { s with component := v },
    .optional "host" .string (·.host) fun v s => { s with host := v }]

structure EventObject where
  action : Option String := none
  deprecatedCount : Option Int := none
  deprecatedFirstTimestamp : Option Instant := none
  deprecatedLastTimestamp : Option Instant := none
  deprecatedSource : Option EventSource := none
  eventTime : Option Instant := none
  metadata : Metadata := {}
  note : Option String := none
  reason : Option String := none
  regarding : Option Reference := none
  related : Option Reference := none
  reportingController : Option String := none
  reportingInstance : Option String := none
  series : Option EventSeries := none
  type : Option String := none
deriving Inhabited

namespace EventObject

def resource : Resource := .ofGroup "events.k8s.io" "v1" "Event" "events"

/-- The members of an event, its type names aside. -/
def record : Record EventObject where
  name := resource.kind
  blank := {}
  positional := false
  fields := [
    .optional "action" .string (·.action) fun v e => { e with action := v },
    .optional "deprecatedCount" .int32 (·.deprecatedCount) fun v e => { e with deprecatedCount := v },
    .optional "deprecatedFirstTimestamp" (.instant Instant.wholeSeconds) (·.deprecatedFirstTimestamp)
      fun v e => { e with deprecatedFirstTimestamp := v },
    .optional "deprecatedLastTimestamp" (.instant Instant.wholeSeconds) (·.deprecatedLastTimestamp)
      fun v e => { e with deprecatedLastTimestamp := v },
    .optional "deprecatedSource" EventSource.record.codec (·.deprecatedSource)
      fun v e => { e with deprecatedSource := v },
    .optional "eventTime" (.instant Instant.micros) (·.eventTime) fun v e => { e with eventTime := v },
    .required "metadata" Metadata.codec (·.metadata) fun v e => { e with metadata := v },
    .optional "note" .string (·.note) fun v e => { e with note := v },
    .optional "reason" .string (·.reason) fun v e => { e with reason := v },
    .optional "regarding" Reference.record.codec (·.regarding) fun v e => { e with regarding := v },
    .optional "related" Reference.record.codec (·.related) fun v e => { e with related := v },
    .optional "reportingController" .string (·.reportingController) fun v e => { e with reportingController := v },
    .optional "reportingInstance" .string (·.reportingInstance) fun v e => { e with reportingInstance := v },
    .optional "series" EventSeries.record.codec (·.series) fun v e => { e with series := v },
    .optional "type" .string (·.type) fun v e => { e with type := v }]

/-- Writes an event under the names of its type. -/
def toJson (e : EventObject) : Json :=
  .ofEntries (("apiVersion", .string resource.apiVersion) :: ("kind", .string resource.kind) :: record.members e)

/-- Refuses a type name that is not the one of events. A missing one is no fault. -/
def ensureName (key want : String) (v : Json) : Except Misread Unit :=
  match v.get? key with
  | none => .ok ()
  | some (.string s) =>
    if s = want then .ok () else .error (Misread.under (.key key) (.here (.value (.string s) want)))
  | some got => (Codec.wrongKind got "a string" : Except Misread Unit).mapError (Misread.under (.key key))

def ofJson (v : Json) : Except Misread EventObject := do
  ensureName "apiVersion" resource.apiVersion v
  ensureName "kind" resource.kind v
  record.read v

def ofText (text : String) : Except String EventObject := Codec.readText ofJson text

end EventObject

/-! ## Recording -/

/-- Who reports. -/
structure Reporter where
  controller : String
  /-- Which of several replicas. -/
  instance? : Option String

/-- What makes an event a repetition of another. -/
structure Occurrence where
  type : EventType
  reason : String
  action : String
  regarding : Reference
deriving DecidableEq

def Occurrence.of (event : Event) (regarding : Reference) : Occurrence :=
  ⟨event.type, event.reason, event.action, regarding.whole⟩

/-- What records events at a server, and what it recorded. -/
structure Recorder where
  reporter : Reporter
  /-- The occurrences, each with its event as the server has it; the later ones first. -/
  recorded : List (Occurrence × EventObject) := []

namespace Recorder

def defaultNamespace : String := "default"

/-- A name that no other event has: what it is about, and the time. -/
def eventName (reporter : Reporter) (now : Instant) (regarding : Reference) : String :=
  regarding.name.getD reporter.controller ++ "." ++ String.ofList (Nat.toDigits 16 now.nanoseconds.toNat)

def first (reporter : Reporter) (now : Instant) (event : Event) (regarding : Reference) : EventObject where
  action := some event.action
  eventTime := some now
  metadata := { name := some (eventName reporter now regarding), ns? := regarding.ns? }
  note := event.note
  reason := some event.reason
  regarding := some regarding
  reportingController := some reporter.controller
  reportingInstance := some (reporter.instance?.getD reporter.controller)
  type := some event.type.text

def again (now : Instant) (e : EventObject) : EventObject :=
  let seen := match e.series with
    | some s => s.count
    | none => 1
  { e with series := some ⟨seen + 1, now⟩ }

/-- Sends an event to the server: a series as a change of the first event, any other as a new object. -/
def submit (e : EventObject) : Call EventObject := do
  let collection := collectionPath EventObject.resource (some (e.metadata.ns?.getD defaultNamespace))
  let q ← checked <| match e.series with
    | some _ => Request.form .patch (query (collection ++ "/" ++ e.metadata.name.getD "") []) (some e.toJson)
    | none => Request.form .post (query collection []) (some e.toJson)
  fetch EventObject.ofText q

def record (r : Recorder) (now : Instant) (event : Event) (regarding : Reference) : StateM Wire Recorder := do
  let occurrence := Occurrence.of event regarding
  let e :=
    match Assoc.get? occurrence r.recorded with
    | some before => again now before
    | none => first r.reporter now event regarding
  match ← (submit e).run with
  | .ok _ => return { r with recorded := (occurrence, e) :: r.recorded }
  | .error _ => return r

end Recorder

end Converge.Api
