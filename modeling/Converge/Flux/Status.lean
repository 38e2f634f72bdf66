import Converge.Codec.Record

/-!
# Status of Flux objects

What the Flux controllers report on an object.

* `Flux.Status` has the last generation that a controller acted on and its conditions; `Flux.Status.codec` reads and
  writes it.
* `Flux.Status.ready?` is the first condition of type `Ready`; `Flux.Status.isReadyFor` asks for it to hold of the
  current generation.
-/

namespace Converge.Flux

set_option autoImplicit false

structure ReportedCondition where
  lastTransitionTime : Instant := ⟨0, 0⟩
  message : String := ""
  observedGeneration : Option Int := none
  reason : String := ""
  status : String := ""
  type : String := ""
deriving DecidableEq, Inhabited

def ReportedCondition.record : Record ReportedCondition where
  name := "Condition"
  blank := {}
  positional := false
  fields := [
    .required "lastTransitionTime" (.instant Instant.wholeSeconds) (·.lastTransitionTime)
      fun v c => { c with lastTransitionTime := v },
    .lenient "message" .string (·.message) fun v c => { c with message := v },
    .optional "observedGeneration" .int64 (·.observedGeneration) fun v c => { c with observedGeneration := v },
    .lenient "reason" .string (·.reason) fun v c => { c with reason := v },
    .lenient "status" .string (·.status) fun v c => { c with status := v },
    .lenient "type" .string (·.type) fun v c => { c with type := v }]

structure Status where
  /-- The last generation that the controller acted on. -/
  observedGeneration : Option Int := none
  conditions : Option (List ReportedCondition) := none
deriving DecidableEq, Inhabited

namespace Status

def record : Record Status where
  name := "struct FluxStatus"
  blank := {}
  positional := true
  fields := [
    .optional "observedGeneration" .int64 (·.observedGeneration) fun v s => { s with observedGeneration := v },
    .optional "conditions" (.list ReportedCondition.record.codec) (·.conditions) fun v s => { s with conditions := v }]

def codec : Codec Status := record.codec

/-- The first condition of type `Ready`. -/
def ready? (s : Status) : Option ReportedCondition :=
  (s.conditions.getD []).find? fun c => c.type = "Ready"

/-- Whether the controller acted on the generation; it counts as such where either number is missing. -/
def hasObserved (s : Status) (generation : Option Int) : Bool :=
  match s.observedGeneration, generation with
  | some observed, some generation => generation ≤ observed
  | _, _ => true

/-- Whether the object is reported ready, and not only for an earlier generation. -/
def isReadyFor (s : Status) (generation : Option Int) : Bool :=
  (match s.ready? with
    | some c => c.status == "True"
    | none => false) && s.hasObserved generation

end Status

end Converge.Flux
