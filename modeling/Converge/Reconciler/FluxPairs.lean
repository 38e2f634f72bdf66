import Converge.Cluster.Upsert
import Converge.Ownership
import Converge.Reconciler

/-!
# Components that own a pair of Flux objects

* `FluxReconciler` drives components through their `FluxView`: it keeps source and deployment in the wanted state and reads
  their health from what the Flux controllers report.
* `FluxReconciler.change` is what an upsert makes of the existing object. It gives the object back as it was unless the
  members that an item has differ, so that what the cluster fills in elsewhere causes no writes.
* `FluxReconciler.toReconciler` is the reconciler.
-/

namespace Converge

set_option autoImplicit false

/-- What drives components that own a pair of Flux objects. -/
structure FluxReconciler (σ : Type) where
  client : Client σ
  labels : Component σ → Labels
  kinds : SortedSet ComponentKind := .empty

namespace FluxReconciler

variable {σ : Type}

/-- The reconciler without kinds that writes the ownership labels. -/
def managed (client : Client σ) (config : Config) : FluxReconciler σ where
  client
  labels := Ownership.labels config

def withKind (r : FluxReconciler σ) (kind : ComponentKind) : FluxReconciler σ :=
  { r with kinds := r.kinds.insert kind () }

def pair (c : Component σ) : Except Error (Flux.Manifest × Flux.Manifest) := do
  match c.flux with
  | none => throw (.component c.name "does not support the Flux strategy")
  | some view => return (← view.source, ← view.deployment)

/-- Looks at one half of a pair. A type that is not served has no objects. -/
def observeHalf (client : Client σ) (desired : Flux.Manifest) : Act σ (Bool × Health) := do
  let found ← match ← (client.get desired.resource desired.key).attempt with
    | .ok found => pure found
    | .error e => if e.isKindNotFound then pure none else throw e
  match found with
  | none => return (false, .bad (desired.resource.kind ++ " " ++ desired.key.text ++ " not found"))
  | some o => return (true, (← Act.ofExcept (Flux.Item.ofObject desired.kind o)).health)

def observe (r : FluxReconciler σ) (c : Component σ) : Act σ Observation := do
  let (source, deployment) ← Act.ofExcept (pair c)
  let (sourceThere, sourceHealth) ← observeHalf r.client source
  let (deploymentThere, deploymentHealth) ← observeHalf r.client deployment
  return ⟨sourceThere || deploymentThere, sourceHealth.and deploymentHealth⟩

/-- The item that an upsert wants: the wanted state with the engine's decisions, the suspension as it is, and the labels
over the present ones. -/
def target {k : Flux.Kind} (current : Flux.Item k) (desired : Flux.Manifest) (labels : Labels) :
    Except Error (Flux.Item k) :=
  (current.adopt desired).map fun i => i.applyDefaults.withLabels labels

/-- What an upsert makes of an object. -/
def change (desired : Flux.Manifest) (labels : Labels) (o : Object) : Except Error Object := do
  let current ← Flux.Item.ofObject desired.kind o
  let before ← (← current.toObject).toJson
  let target ← target current desired labels
  let after ← target.toObject
  return if (← after.toJson) == before then o else after

/-- Writes one half of a pair if it is not as it should be. -/
def upsert (r : FluxReconciler σ) (c : Component σ) (desired : Flux.Manifest) : Act σ Unit := do
  let shell ← Act.ofExcept desired.bare.toObject
  let _ ← r.client.createOrUpdate desired.resource shell (change desired (r.labels c))

/-- Writes both halves, the source first. -/
def apply (r : FluxReconciler σ) (c : Component σ) : Act σ Unit := do
  let (source, deployment) ← Act.ofExcept (pair c)
  r.upsert c source
  r.upsert c deployment

/-- Deletes one half of a pair, if it is there. -/
def removeHalf (client : Client σ) (desired : Flux.Manifest) : Act σ Unit := do
  Act.ofExcept (Error.ignoreMissing (← (client.delete desired.resource desired.key).attempt))

/-- Deletes both halves. The deployment goes first, so that its source is still there while it is taken down. -/
def uninstall (r : FluxReconciler σ) (c : Component σ) : Act σ Unit := do
  let (source, deployment) ← Act.ofExcept (pair c)
  removeHalf r.client deployment
  removeHalf r.client source

def toReconciler (r : FluxReconciler σ) : Reconciler σ where
  kinds := r.kinds
  observe := r.observe
  install := r.apply
  update := r.apply
  uninstall := r.uninstall
  preInstall c := c.runHook .preInstall r.client
  preUpdate c := c.runHook .preUpdate r.client
  preUninstall c := c.runHook .preUninstall r.client

end FluxReconciler

end Converge
