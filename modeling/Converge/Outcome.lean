import Converge.Component
import Converge.Condition
import Converge.Event

/-!
# Outcomes of a pass

* `ComponentStatus` is how a pass ended for a component. `isReady` says whether it counts as settled, and `eventType?`
  which class of event it is published as, if any.
* `Outcome` is a status with an explanation; `Outcome.event?` is its event and `Outcome.condition` its condition.
-/

namespace Converge

set_option autoImplicit false

inductive ComponentStatus where
  /-- Not exactly one reconciler claims its kind. -/
  | reconcilerNotFound
  | observationFailed
  | uninstallFailed
  /-- It was removed, or counts as removed. -/
  | uninstalled
  | disabled
  | componentNotAllowed
  /-- Something that it needs is not registered or not wanted. -/
  | dependencyCheckFailed
  | installFailed
  | installed
  | updateFailed
  | unhealthy
  | healthy
deriving DecidableEq, Inhabited

namespace ComponentStatus

def text : ComponentStatus → String
  | reconcilerNotFound => "ReconcilerNotFound"
  | observationFailed => "ObservationFailed"
  | uninstallFailed => "UninstallFailed"
  | uninstalled => "Uninstalled"
  | disabled => "Disabled"
  | componentNotAllowed => "ComponentNotAllowed"
  | dependencyCheckFailed => "DependencyCheckFailed"
  | installFailed => "InstallFailed"
  | installed => "Installed"
  | updateFailed => "UpdateFailed"
  | unhealthy => "Unhealthy"
  | healthy => "Healthy"

def all : List ComponentStatus :=
  [reconcilerNotFound, observationFailed, uninstallFailed, uninstalled, disabled, componentNotAllowed,
    dependencyCheckFailed, installFailed, installed, updateFailed, unhealthy, healthy]

def ofText? (name : String) : Option ComponentStatus := all.find? (·.text = name)

def isReady : ComponentStatus → Bool
  | uninstalled => true
  | disabled => true
  | installed => true
  | healthy => true
  | _ => false

/-- The class of event that the status is published as; a settled state without a change is none. -/
def eventType? : ComponentStatus → Option EventType
  | disabled => none
  | healthy => none
  | uninstalled => some .normal
  | installed => some .normal
  | _ => some .warning

end ComponentStatus

/-- The condition of a state: without a reason it is `Unknown` and does not hold. -/
def Condition.ofState (now : Instant) (type reason : String) (ready : Bool) (message : String) : Condition where
  type
  status := if !reason.isEmpty && ready then .true else .false
  reason := if reason.isEmpty then "Unknown" else reason
  message
  lastTransitionTime := now

structure Outcome (σ : Type) where
  component : Component σ
  status : ComponentStatus
  message : String

namespace Outcome

variable {σ : Type}

def isReady (o : Outcome σ) : Bool := o.status.isReady

/-- The event that the outcome is published as, if it is. -/
def event? (o : Outcome σ) (action : String) : Option Event :=
  o.status.eventType?.map fun type =>
    .of type (o.component.name ++ o.status.text) action (if o.message.isEmpty then none else some o.message)

def condition (o : Outcome σ) (now : Instant) : Condition :=
  .ofState now o.component.conditionType o.status.text o.isReady o.message

def outline (o : Outcome σ) : String :=
  Text.record "ComponentResult" [
    ("component", Text.quoted o.component.name), ("status", o.status.text), ("message", Text.quoted o.message)]

end Outcome

end Converge
