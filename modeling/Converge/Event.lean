import Converge.Codec.Record
import Converge.Text.Bytes

/-!
# Events

* `Event` is what is published about an outcome. `Event.of` cuts the note to what the events API takes, at the last boundary
  between characters within `maxNoteBytes`; `cutNote_eq_fit`: that leaves the longest prefix that fits.
* `Reference` names the object that an event is about; `Reference.sameObject` leaves aside which part and which revision.
-/

namespace Converge

set_option autoImplicit false

/-- How an event is classed. -/
inductive EventType where
  | normal
  | warning
deriving DecidableEq, Inhabited

def EventType.text : EventType → String
  | normal => "Normal"
  | warning => "Warning"

/-- What is published about an outcome. -/
structure Event where
  type : EventType
  reason : String
  action : String
  note : Option String
deriving DecidableEq, Inhabited

def maxNoteBytes : Nat := 1024

/-- The note as far as it may be published. -/
def cutNote (note : String) : String :=
  if maxNoteBytes < note.utf8ByteSize then (note.sliceTo (Text.boundaryBefore note maxNoteBytes)).copy else note

theorem cutNote_eq_fit (note : String) : cutNote note = String.ofList (Text.fit maxNoteBytes note.toList) := by
  unfold cutNote
  split
  · exact Text.copy_sliceTo_boundaryBefore note maxNoteBytes
  · rename_i h
    rw [(Text.fit_eq_self_iff ..).mpr (Text.byteLength_toList note ▸ Nat.le_of_not_lt h), String.ofList_toList]

def Event.of (type : EventType) (reason action : String) (note : Option String) : Event :=
  ⟨type, reason, action, note.map cutNote⟩

/-- A reference to an object, or to a part of one. -/
structure Reference where
  apiVersion : Option String := none
  fieldPath : Option String := none
  kind : Option String := none
  name : Option String := none
  ns? : Option String := none
  resourceVersion : Option String := none
  uid : Option String := none
deriving DecidableEq, Inhabited

namespace Reference

def record : Record Reference where
  name := "ObjectReference"
  blank := {}
  positional := false
  fields := [
    .optional "apiVersion" .string (·.apiVersion) fun v r => { r with apiVersion := v },
    .optional "fieldPath" .string (·.fieldPath) fun v r => { r with fieldPath := v },
    .optional "kind" .string (·.kind) fun v r => { r with kind := v },
    .optional "name" .string (·.name) fun v r => { r with name := v },
    .optional "namespace" .string (·.ns?) fun v r => { r with ns? := v },
    .optional "resourceVersion" .string (·.resourceVersion) fun v r => { r with resourceVersion := v },
    .optional "uid" .string (·.uid) fun v r => { r with uid := v }]

/-- The reference to the object as a whole, in whatever revision. -/
def whole (r : Reference) : Reference := { r with fieldPath := none, resourceVersion := none }

def sameObject (a b : Reference) : Bool := a.whole == b.whole

end Reference

end Converge
