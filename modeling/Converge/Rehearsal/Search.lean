import Converge.Reconciler.Orphan

/-!
# Searches described as data

* `SearchScript` describes a detector of orphans that takes every listed object for a component of the object's own name;
  `SearchScript.detector` is that detector.
* `fillLabels` puts a component's name and kind in the place of marks.
-/

namespace Converge.Rehearsal

set_option autoImplicit false

variable {σ : Type}

/-- When a found component counts as configured. -/
inductive Likeness where
  | always
  | never
  /-- If a configured one has its name. -/
  | name
  /-- If a configured one owns its object. -/
  | identity
deriving DecidableEq

def Likeness.holds : Likeness → Component σ → Component σ → Bool
  | always, _, _ => true
  | never, _, _ => false
  | name, configured, found => configured.name == found.name
  | identity, configured, found => Component.sameObject configured found

/-- A detector of orphans described as data. -/
structure SearchScript where
  resource : Resource
  options : ListOptions := {}
  failure : Option Error := none
  likeness : Likeness

namespace SearchScript

/-- The orphan that is named as its object is. -/
def orphan (s : SearchScript) (kind : ComponentKind) (o : Object) : Except Error Orphan := do
  let key ← o.key
  return ⟨key.name, kind, ⟨s.resource, key⟩⟩

def detector (s : SearchScript) (kind : ComponentKind) : Detector σ where
  options := s.options
  resource := s.resource
  convert objects :=
    match s.failure with
    | some e => .error e
    | none => objects.mapM fun o => (s.orphan kind o).map Orphan.component
  same := s.likeness.holds

end SearchScript

/-- The labels in which `@name` and `@kind` stand for the component's name and kind. -/
def fillLabels (labels : List (String × String)) (c : Component σ) : Labels :=
  .ofList (labels.map fun e => (e.1, if e.2 = "@name" then c.name else if e.2 = "@kind" then c.kind else e.2))

end Converge.Rehearsal
