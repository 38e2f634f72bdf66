import Converge.Cluster.Upsert
import Converge.Ownership
import Converge.Reconciler
import Converge.Reconciler.Orphan

/-!
# Components that own one object

* `ObjectReconciler` drives components through their `ObjectView`: the object gets the ownership labels and then the
  content that the component gives it. It claims kinds, each with or without a detector of orphans.
* `ObjectReconciler.toReconciler` is the reconciler.
-/

namespace Converge

set_option autoImplicit false

structure ObjectReconciler (σ : Type) where
  client : Client σ
  config : Config
  /-- The claimed kinds, and how the orphans of each are found. -/
  kinds : SortedMap ComponentKind (Option (Detector σ)) := .empty

namespace ObjectReconciler

variable {σ : Type}

/-- Claims a kind; a detector that it has stays. -/
def withKind (r : ObjectReconciler σ) (kind : ComponentKind) : ObjectReconciler σ :=
  if r.kinds.contains kind then r else { r with kinds := r.kinds.insert kind none }

/-- Claims a kind, with this detector of its orphans. -/
def withDetector (r : ObjectReconciler σ) (kind : ComponentKind) (d : Detector σ) : ObjectReconciler σ :=
  { r with kinds := r.kinds.insert kind (some d) }

/-- The object view of a component, and the identity of its object. -/
def view (c : Component σ) : Except Error (ObjectView × ObjectIdentity) := do
  match c.object with
  | none => throw (.component c.name "does not support the object strategy")
  | some view => return (view, ← view.identity)

/-- What the component's object becomes: labelled as owned, then shaped. -/
def shape (config : Config) (c : Component σ) (view : ObjectView) (o : Object) : Except Error Object :=
  view.shape (Ownership.stamp config c o)

/-- Writes the component's object if it is not as it should be. -/
def apply (r : ObjectReconciler σ) (c : Component σ) : Act σ Unit := do
  let (view, identity) ← Act.ofExcept (view c)
  let _ ← r.client.createOrUpdate identity.resource identity.shell (shape r.config c view)

/-- Looks at the component's object. A type that is not served has no objects. -/
def observe (r : ObjectReconciler σ) (c : Component σ) : Act σ Observation := do
  let (view, identity) ← Act.ofExcept (view c)
  match ← (r.client.get identity.resource identity.key).attempt with
  | .ok (some actual) => return .existing (view.health actual)
  | .ok none => return .absent
  | .error e => if e.isKindNotFound then return .absent else throw e

/-- Deletes the component's object, if it is there. -/
def uninstall (r : ObjectReconciler σ) (c : Component σ) : Act σ Unit := do
  let (_, identity) ← Act.ofExcept (view c)
  Act.ofExcept (Error.ignoreMissing (← (r.client.delete identity.resource identity.key).attempt))

/-- The components found by the detectors, in the order of their kinds, that are not configured. A type that is not served
has no orphans. -/
def detect (client : Client σ) (configured : List (Component σ)) :
    List (ComponentKind × Option (Detector σ)) → Act σ (List (Component σ))
  | [] => return []
  | (_, none) :: rest => detect client configured rest
  | (kind, some d) :: rest => do
    match ← (client.list d.resource d.options).attempt with
    | .error e => if e.isKindNotFound then detect client configured rest else throw e
    | .ok existing =>
      let candidates ← Act.ofExcept (d.convert existing)
      return d.leftOver kind configured candidates ++ (← detect client configured rest)

/-- The reconciler. It looks for orphans if any kind has a detector. -/
def toReconciler (r : ObjectReconciler σ) : Reconciler σ where
  kinds := r.kinds.map fun _ => ()
  observe := r.observe
  install := r.apply
  update := r.apply
  uninstall := r.uninstall
  preInstall c := c.runHook .preInstall r.client
  preUpdate c := c.runHook .preUpdate r.client
  preUninstall c := c.runHook .preUninstall r.client
  orphans :=
    if r.kinds.entries.any fun e => e.2.isSome then
      some fun configured => detect r.client configured r.kinds.entries
    else none

end ObjectReconciler

end Converge
