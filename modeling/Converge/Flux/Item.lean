import Converge.Cluster.Object
import Converge.Flux.Kind
import Converge.Flux.Status
import Converge.Health

/-!
# Flux objects

* `Flux.Item k` is an object of kind `k`: metadata, wanted state, reported status. `Flux.Item.ofObject` reads one from an
  object of any type, taking a missing wanted state for the default, and `Flux.Item.toObject` writes it.
* `Flux.Item.health` tells from the status whether the object is ready, and if not, why.
* `Flux.Manifest` is an item of any kind. `Flux.Item.adopt` takes over the wanted state of a manifest, keeping its own
  suspension.
-/

namespace Converge.Flux

set_option autoImplicit false

/-- A Flux object of kind `k`. -/
structure Item (k : Kind) where
  metadata : Metadata := {}
  spec : k.Spec := k.blank
  status : Option Status := none

namespace Item

variable {k : Kind}

/-- The members of an object, its type names aside. -/
def record (k : Kind) : Record (Item k) where
  name := "struct " ++ k.name
  blank := {}
  positional := true
  fields := [
    .required "metadata" Metadata.codec (·.metadata) fun v i => { i with metadata := v },
    .required "spec" k.record.codec (·.spec) fun v i => { i with spec := v },
    .placed "status" Status.codec (·.status) fun v i => { i with status := v }]
  nodup_keys := show ["metadata", "spec", "status"].Nodup by decide

/-- Writes an object under the names of its type. -/
def toJson (i : Item k) : Json :=
  .ofEntries (("apiVersion", .string k.resource.apiVersion) :: ("kind", .string k.resource.kind) :: (record k).members i)

/-- Reads an object, whatever type names it has. -/
def ofJson (k : Kind) (v : Json) : Except Misread (Item k) := (record k).read v

def toObject (i : Item k) : Except Error Object :=
  match Object.read i.toJson with
  | .ok o => .ok o
  | .error e => .error (.serialization e.message none)

/-- The item that an object holds, with the default wanted state if it has none. -/
def ofObject (k : Kind) (o : Object) : Except Error (Item k) := do
  let v ← o.toJson
  let v := if (v.get? "spec").isNone then v.insert "spec" (k.record.write k.blank) else v
  match ofJson k v with
  | .ok i => .ok i
  | .error e => .error (.serialization e.message (some k.name))

/-- The key of the item; a missing name counts as empty. -/
def key (i : Item k) : ObjectKey := ⟨i.metadata.ns?, i.metadata.name.getD ""⟩

/-- An item of the same key with the default wanted state. -/
def bare (i : Item k) : Item k where
  metadata := { name := some i.key.name, ns? := i.key.ns? }

def complaint (i : Item k) : String :=
  match i.status.bind (·.ready?) with
  | some c =>
    if c.status = "True" then "generation " ++ toString (i.metadata.generation.getD 0) ++ " not yet observed"
    else if c.message.isEmpty then "no Ready condition reported"
    else c.message
  | none => "no Ready condition reported"

/-- Whether the controllers report the item ready in its current generation. -/
def isReady (i : Item k) : Bool :=
  match i.status with
  | some s => s.isReadyFor i.metadata.generation
  | none => false

def health (i : Item k) : Health :=
  if i.isReady then .good
  else .bad (k.name ++ " " ++ i.key.text ++ " is not ready: " ++ i.complaint)

def applyDefaults (i : Item k) : Item k := { i with spec := k.applyDefaults i.spec }

def withLabels (i : Item k) (labels : Labels) : Item k :=
  { i with metadata := { i.metadata with labels := some (i.metadata.labelMap.insertAll labels.entries) } }

end Item

structure Manifest where
  kind : Kind
  item : Item kind

namespace Manifest

def resource (m : Manifest) : Resource := m.kind.resource

def key (m : Manifest) : ObjectKey := m.item.key

def bare (m : Manifest) : Manifest := ⟨m.kind, m.item.bare⟩

def toObject (m : Manifest) : Except Error Object := m.item.toObject

/-- The manifest of a kind that a JSON value holds. -/
def ofJson (k : Kind) (v : Json) : Except Misread Manifest := (Item.ofJson k v).map (⟨k, ·⟩)

end Manifest

/-- The item with the wanted state of a manifest of its kind, in its own suspension. -/
def Item.adopt {k : Kind} (i : Item k) (desired : Manifest) : Except Error (Item k) :=
  if desired.kind.name ≠ k.name then
    .error (.internal ("cannot reconcile " ++ k.name ++ " " ++ i.key.text ++ " from a " ++ desired.kind.name) "flux")
  else do
    let wanted ← Item.ofObject k (← desired.toObject)
    return { i with spec := k.withSuspend (k.suspend i.spec) wanted.spec }

end Converge.Flux
