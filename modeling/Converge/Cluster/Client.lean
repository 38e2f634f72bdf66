import Converge.Cluster.Object

/-!
# Access to a cluster

* `Act σ α` is an operation on a state `σ` that may fail; what it did before it failed stays done.
* `Client σ` is access to a cluster that is part of the state `σ`: get, create, update, delete and list. A missing object
  is no failure of `get`, and a type that is not served fails every operation.
-/

namespace Converge

set_option autoImplicit false

/-- An operation on a state that may fail. -/
abbrev Act (σ α : Type) : Type := ExceptT Error (StateM σ) α

namespace Act

variable {σ α : Type}

/-- An operation that leaves the state alone. -/
def ofExcept (e : Except Error α) : Act σ α := ExceptT.mk (pure e)

/-- An operation that changes the state only if it succeeds. -/
def ofStep (f : σ → Except Error (α × σ)) : Act σ α :=
  ExceptT.mk fun s =>
    match f s with
    | .ok (a, s') => (.ok a, s')
    | .error e => (.error e, s)

/-- An operation that cannot fail. -/
def ofState (f : StateM σ α) : Act σ α := ExceptT.lift f

/-- What the operation ends with, as a value. -/
def attempt (a : Act σ α) : Act σ (Except Error α) := ExceptT.mk fun s => ((.ok (a.run s).1 : Except Error _), (a.run s).2)

end Act

structure Client (σ : Type) where
  get : Resource → ObjectKey → Act σ (Option Object)
  /-- Creates an object and gives it back as it is stored. -/
  create : Resource → Object → Act σ Object
  update : Resource → Object → Act σ Object
  /-- Deletes an object, which must exist. -/
  delete : Resource → ObjectKey → Act σ Unit
  /-- All objects of a type that the options ask for. -/
  list : Resource → ListOptions → Act σ (List Object)

end Converge
