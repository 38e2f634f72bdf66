import Converge.Component
import Converge.Config

/-!
# Orphans

An orphan is a managed object whose component is not configured any more.

* `Orphan` is such an object with the name and the kind of its component; `Orphan.component` is a component that nobody
  wants and that owns the object, so that a pass removes it.
* `Detector` says how the orphans of a kind are found: which objects to list, how to take them for components, and when
  such a component is a configured one. `Detector.managedBy` goes by the ownership labels and by object identity.
-/

namespace Converge

set_option autoImplicit false

/-- A managed object without a configured component. -/
structure Orphan where
  name : String
  kind : ComponentKind
  identity : ObjectIdentity
deriving DecidableEq, Inhabited

namespace Orphan

variable {σ : Type}

/-- The component that owns the orphan and is not wanted. -/
def component (o : Orphan) : Component σ where
  name := o.name
  kind := o.kind
  enabled := false
  object := some { identity := .ok o.identity, shape := .ok, health := fun _ => .good }

/-- The orphan that an object is, named by its component label, or by its own name without one. -/
def ofObject (kind : ComponentKind) (r : Resource) (componentLabel : String) (o : Object) : Except Error Orphan := do
  let key ← o.key
  return ⟨(o.label? componentLabel).getD key.name, kind, ⟨r, key⟩⟩

def outline (o : Orphan) : String :=
  Text.record "OrphanedObject" [
    ("name", Text.quoted o.name), ("kind", Component.outlineKind o.kind), ("identity", o.identity.outline)]

end Orphan

/-- How the orphans of a kind are found. -/
structure Detector (σ : Type) where
  options : ListOptions
  resource : Resource
  /-- The components for which the objects are taken. -/
  convert : List Object → Except Error (List (Component σ))
  /-- Whether a configured component, the first, is the found one. -/
  same : Component σ → Component σ → Bool

namespace Detector

variable {σ : Type}

/-- The detector of the objects that carry the labels of a kind, compared by object identity. -/
def managedBy (config : Config) (kind : ComponentKind) (r : Resource) : Detector σ where
  options := { selector := some (config.kindSelector kind) }
  resource := r
  convert objects := objects.mapM fun o => (Orphan.ofObject kind r config.componentLabel o).map Orphan.component
  same := Component.sameObject

def inNamespace (d : Detector σ) (ns : String) : Detector σ := { d with options := { d.options with ns? := some ns } }

/-- The candidates that are no configured component of the kind. -/
def leftOver (d : Detector σ) (kind : ComponentKind) (configured candidates : List (Component σ)) : List (Component σ) :=
  let ofKind := configured.filter fun c => c.kind == kind
  candidates.filter fun candidate => !ofKind.any fun c => d.same c candidate

def outline (d : Detector σ) : String :=
  Text.record "DetectorContext" [
    ("filter", Text.record "ListOptions" [
      ("namespace", Text.optional (d.options.ns?.map Text.quoted)),
      ("label_selector", Text.optional (d.options.selector.map Text.quoted)),
      ("limit", Text.optional (d.options.limit.map toString))]),
    ("list_type", Text.quoted d.resource.kind)]

end Detector

end Converge
