import Converge.Codec.Record

/-!
# Object metadata

* `Metadata` is what every object of a cluster carries beside its own data: name, namespace, labels and the rest.
* `Metadata.codec` reads and writes it. Unset members are left out, unknown ones are dropped, and times are written to the
  second.
-/

namespace Converge

set_option autoImplicit false

abbrev Labels := SortedMap String String

structure OwnerReference where
  apiVersion : String := ""
  blockOwnerDeletion : Option Bool := none
  controller : Option Bool := none
  kind : String := ""
  name : String := ""
  uid : String := ""
deriving Inhabited

structure ManagedFields where
  apiVersion : Option String := none
  fieldsType : Option String := none
  fieldsV1 : Option Json := none
  manager : Option String := none
  operation : Option String := none
  subresource : Option String := none
  time : Option Instant := none
deriving Inhabited

/-- What every object of a cluster carries beside its own data. -/
structure Metadata where
  annotations : Option Labels := none
  creationTimestamp : Option Instant := none
  deletionGracePeriodSeconds : Option Int := none
  deletionTimestamp : Option Instant := none
  finalizers : Option (List String) := none
  generateName : Option String := none
  generation : Option Int := none
  labels : Option Labels := none
  managedFields : Option (List ManagedFields) := none
  name : Option String := none
  ns? : Option String := none
  ownerReferences : Option (List OwnerReference) := none
  resourceVersion : Option String := none
  selfLink : Option String := none
  uid : Option String := none
deriving Inhabited

namespace OwnerReference

def record : Record OwnerReference where
  name := "OwnerReference"
  blank := {}
  positional := false
  fields := [
    .lenient "apiVersion" .string (·.apiVersion) fun v r => { r with apiVersion := v },
    .optional "blockOwnerDeletion" .bool (·.blockOwnerDeletion) fun v r => { r with blockOwnerDeletion := v },
    .optional "controller" .bool (·.controller) fun v r => { r with controller := v },
    .lenient "kind" .string (·.kind) fun v r => { r with kind := v },
    .lenient "name" .string (·.name) fun v r => { r with name := v },
    .lenient "uid" .string (·.uid) fun v r => { r with uid := v }]

end OwnerReference

namespace ManagedFields

def record : Record ManagedFields where
  name := "ManagedFieldsEntry"
  blank := {}
  positional := false
  fields := [
    .optional "apiVersion" .string (·.apiVersion) fun v r => { r with apiVersion := v },
    .optional "fieldsType" .string (·.fieldsType) fun v r => { r with fieldsType := v },
    .optional "fieldsV1" .json (·.fieldsV1) fun v r => { r with fieldsV1 := v },
    .optional "manager" .string (·.manager) fun v r => { r with manager := v },
    .optional "operation" .string (·.operation) fun v r => { r with operation := v },
    .optional "subresource" .string (·.subresource) fun v r => { r with subresource := v },
    .optional "time" (.instant Instant.wholeSeconds) (·.time) fun v r => { r with time := v }]

end ManagedFields

namespace Metadata

def record : Record Metadata where
  name := "ObjectMeta"
  blank := {}
  positional := false
  fields := [
    .optional "annotations" .stringMap (·.annotations) fun v m => { m with annotations := v },
    .optional "creationTimestamp" (.instant Instant.wholeSeconds) (·.creationTimestamp)
      fun v m => { m with creationTimestamp := v },
    .optional "deletionGracePeriodSeconds" .int64 (·.deletionGracePeriodSeconds)
      fun v m => { m with deletionGracePeriodSeconds := v },
    .optional "deletionTimestamp" (.instant Instant.wholeSeconds) (·.deletionTimestamp)
      fun v m => { m with deletionTimestamp := v },
    .optional "finalizers" (.list .string) (·.finalizers) fun v m => { m with finalizers := v },
    .optional "generateName" .string (·.generateName) fun v m => { m with generateName := v },
    .optional "generation" .int64 (·.generation) fun v m => { m with generation := v },
    .optional "labels" .stringMap (·.labels) fun v m => { m with labels := v },
    .optional "managedFields" (.list ManagedFields.record.codec) (·.managedFields)
      fun v m => { m with managedFields := v },
    .optional "name" .string (·.name) fun v m => { m with name := v },
    .optional "namespace" .string (·.ns?) fun v m => { m with ns? := v },
    .optional "ownerReferences" (.list OwnerReference.record.codec) (·.ownerReferences)
      fun v m => { m with ownerReferences := v },
    .optional "resourceVersion" .string (·.resourceVersion) fun v m => { m with resourceVersion := v },
    .optional "selfLink" .string (·.selfLink) fun v m => { m with selfLink := v },
    .optional "uid" .string (·.uid) fun v m => { m with uid := v }]

def codec : Codec Metadata := record.codec

/-- The metadata with every JSON value in it in canonical form. -/
def canonical (m : Metadata) : Metadata :=
  { m with managedFields := m.managedFields.map fun fs => fs.map fun f => { f with fieldsV1 := f.fieldsV1.map Json.canonical } }

/-- The labels, none if they are unset. -/
def labelMap (m : Metadata) : Labels := m.labels.getD .empty

/-- The metadata with a label, over an earlier one of the same key. -/
def withLabel (m : Metadata) (key value : String) : Metadata :=
  { m with labels := some (m.labelMap.insert key value) }

end Metadata

end Converge
