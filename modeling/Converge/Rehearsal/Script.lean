import Converge.Component
import Converge.Rehearsal.Edit

/-!
# Components described as data

* `HookStep` is a step of a hook; a hook takes its steps in turn until one fails.
* `ObjectScript` describes how a component owns an object: what it writes, and what it takes for healthy.
* `ComponentScript` describes a component, and `ComponentScript.component` is that component.
-/

namespace Converge.Rehearsal

set_option autoImplicit false

variable {σ : Type}

inductive HookStep where
  | fail (e : Error)
  | requireAbsent (r : Resource) (k : ObjectKey) (e : Error)
  | create (r : Resource) (o : Object)
  | delete (r : Resource) (k : ObjectKey)

namespace HookStep

def run (client : Client σ) : HookStep → Act σ Unit
  | fail e => throw e
  | requireAbsent r k e => do if (← client.get r k).isSome then throw e
  | create r o => do let _ ← client.create r o
  | delete r k => client.delete r k

def runAll (client : Client σ) : List HookStep → Act σ Unit
  | [] => return ()
  | s :: rest => do
    s.run client
    runAll client rest

end HookStep

/-- What an object is expected to hold. -/
structure Expectation where
  path : List String
  value : Json
  complaint : String

/-- The health of an object, in which something missing counts as `null`. -/
def Expectation.health (e : Expectation) (o : Object) : Health :=
  if (o.data.at? e.path).getD .null == e.value then .good else .bad e.complaint

structure ObjectScript where
  identity : Except Error ObjectIdentity
  edits : List Edit := []
  expectation : Option Expectation := none

def ObjectScript.view (s : ObjectScript) : ObjectView where
  identity := s.identity
  shape := Edit.change s.edits
  health o :=
    match s.expectation with
    | some e => e.health o
    | none => .good

/-- A component described as data. -/
structure ComponentScript where
  name : String
  kind : ComponentKind
  enabled : Bool := true
  dependencies : List ComponentKind := []
  preInstall : Option (List HookStep) := none
  preUpdate : Option (List HookStep) := none
  preUninstall : Option (List HookStep) := none
  installable : Except Error Bool := .ok true
  keep : Bool := false
  visibility : Visibility := .external
  policyRules : List PolicyRule := []
  flux : Option FluxView := none
  object : Option ObjectScript := none

namespace ComponentScript

def hook (steps : List HookStep) : Hook σ := fun client => HookStep.runAll client steps

/-- The described component, known by a handle. -/
def component (s : ComponentScript) (handle : Nat) : Component σ where
  handle := some handle
  name := s.name
  kind := s.kind
  enabled := s.enabled
  dependencies := s.dependencies
  hooks := ⟨s.preInstall.map hook, s.preUpdate.map hook, s.preUninstall.map hook⟩
  installable := .ofExcept s.installable
  keep := s.keep
  visibility := s.visibility
  policyRules := s.policyRules
  flux := s.flux
  object := s.object.map ObjectScript.view

end ComponentScript

end Converge.Rehearsal
