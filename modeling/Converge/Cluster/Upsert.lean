import Converge.Cluster.Client

/-!
# Creating or updating an object

* `Plan.of` decides what to write, from the object as it exists and a change to it: the changed object must keep its key,
  it keeps its status, and nothing is written if nothing changed.
* `Client.createOrUpdate` reads the object, plans, and writes at most once.
-/

namespace Converge

set_option autoImplicit false

inductive Upserted where
  | created
  | updated
  | unchanged
deriving DecidableEq

def Upserted.text : Upserted → String
  | created => "Created"
  | updated => "Updated"
  | unchanged => "Unchanged"

/-- What to write. -/
inductive Plan where
  | create (o : Object)
  | update (o : Object)
  | keep

namespace Plan

/-- Refuses an object whose key is not the given one. -/
def ensureKey (key : ObjectKey) (o : Object) : Except Error Unit := do
  let actual ← o.key
  if actual ≠ key then
    throw (.internal ("mutation changed object identity from " ++ key.text ++ " to " ++ actual.text) "create-or-update")

/-- The plan for an object that does not exist: the change of the shell. -/
def ofAbsent (key : ObjectKey) (shell : Object) (change : Object → Except Error Object) : Except Error Plan := do
  let desired ← change shell
  ensureKey key desired
  return .create desired

/-- The plan for an object that exists: its change, with the status that it has. -/
def ofExisting (key : ObjectKey) (existing : Object) (change : Object → Except Error Object) : Except Error Plan := do
  let before ← existing.toJson
  let desired ← change existing
  ensureKey key desired
  let desired := desired.withStatus existing.status
  let after ← desired.toJson
  return if after == before then .keep else .update desired

end Plan

def Client.carryOut {σ : Type} (c : Client σ) (r : Resource) : Plan → Act σ Upserted
  | .create o => do let _ ← c.create r o; return .created
  | .update o => do let _ ← c.update r o; return .updated
  | .keep => return .unchanged

/-- Applies a change to the object of the shell's key, or to the shell if there is none, and writes what changed. -/
def Client.createOrUpdate {σ : Type} (c : Client σ) (r : Resource) (shell : Object)
    (change : Object → Except Error Object) : Act σ Upserted := do
  let key ← Act.ofExcept shell.key
  match ← c.get r key with
  | none => c.carryOut r (← Act.ofExcept (Plan.ofAbsent key shell change))
  | some existing => c.carryOut r (← Act.ofExcept (Plan.ofExisting key existing change))

end Converge
