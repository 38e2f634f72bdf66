import Converge.Codec.Record

/-!
# Status conditions

The conditions in which an owner of components reports their states.

* `Condition` has one of three statuses, `Condition.codec` reads and writes it.
* `Condition.set` puts a condition into a list in place of the one of its type, or at the end. The time of the last
  transition stays as long as the status does. `set_of_new_type`: a condition of a new type comes last.
-/

namespace Converge

set_option autoImplicit false

/-- Whether a condition holds. -/
inductive Condition.Status where
  | true
  | false
  | unknown
deriving DecidableEq, Inhabited

namespace Condition.Status

def text : Status → String
  | true => "True"
  | false => "False"
  | unknown => "Unknown"

def names : List String := ["True", "False", "Unknown"]

def ofText? (name : String) : Option Status :=
  if name = "True" then some true
  else if name = "False" then some false
  else if name = "Unknown" then some unknown
  else none

def codec : Codec Status := .choice names ofText? text

end Condition.Status

/-- A statement about an owner of components. -/
structure Condition where
  type : String := ""
  status : Condition.Status := .unknown
  reason : String := ""
  message : String := ""
  lastTransitionTime : Instant := ⟨0, 0⟩
deriving DecidableEq, Inhabited

namespace Condition

def record : Record Condition where
  name := "struct Condition"
  blank := {}
  positional := Bool.true
  fields := [
    .required "type" .string (·.type) fun v c => { c with type := v },
    .required "status" Status.codec (·.status) fun v c => { c with status := v },
    .required "reason" .string (·.reason) fun v c => { c with reason := v },
    .required "message" .string (·.message) fun v c => { c with message := v },
    .required "lastTransitionTime" (.instant Instant.exact) (·.lastTransitionTime)
      fun v c => { c with lastTransitionTime := v }]

def codec : Codec Condition := record.codec

/-- The list with the condition in place of the one of its type, or at the end. The time of the replaced one stays if the
status does. -/
def set (c : Condition) : List Condition → List Condition
  | [] => [c]
  | old :: rest =>
    if old.type = c.type then
      (if old.status = c.status then { c with lastTransitionTime := old.lastTransitionTime } else c) :: rest
    else old :: set c rest

theorem set_of_new_type {c : Condition} {cs : List Condition} (h : ∀ old ∈ cs, old.type ≠ c.type) :
    set c cs = cs ++ [c] := by
  induction cs with
  | nil => rfl
  | cons old rest ih =>
    simp [set, h old (List.mem_cons_self ..), ih fun o ho => h o (List.mem_cons_of_mem _ ho)]

end Condition

end Converge
