import Converge.Cluster.Store
import Converge.Event

/-!
# The world of a rehearsal

A rehearsal runs the engine against a cluster in memory, with failures planned beforehand, and keeps a record.

* `World` is the cluster with the planned failures, the record of what was done, the published events, and the state of
  stand-ins and switches.
* `FailureRule` fails calls of a kind after a number of them and for a number of times; `FailureRule.trip` finds the first
  rule that does.
* `World.client` is access to the cluster: each call meets the rules first, is then made, and is recorded.
-/

namespace Converge.Rehearsal

set_option autoImplicit false

/-! ## Planned failures -/

inductive Verb where
  | get
  | create
  | update
  | delete
  | list
deriving DecidableEq, Inhabited

def Verb.text : Verb → String
  | get => "get"
  | create => "create"
  | update => "update"
  | delete => "delete"
  | list => "list"

def Verb.all : List Verb := [get, create, update, delete, list]

/-- Which calls fail, and how. -/
structure FailureRule where
  verb : Verb
  /-- Any kind unless set. -/
  kind : Option String := none
  /-- Any object unless set. -/
  name : Option String := none
  /-- The number of matching calls that still get through. -/
  skip : Nat := 0
  /-- The number of calls that it still fails, without end unless set. -/
  times : Option Nat := none
  error : Error

namespace FailureRule

def isAbout (r : FailureRule) (verb : Verb) (kind name : String) : Bool :=
  r.verb == verb && (r.kind.isNone || r.kind == some kind) && (r.name.isNone || r.name == some name)

/-- The error of the first rule that fails a call, and the rules as they are after that. -/
def trip (verb : Verb) (kind name : String) : List FailureRule → Option Error × List FailureRule
  | [] => (none, [])
  | r :: rest =>
    let pass (r : FailureRule) : Option Error × List FailureRule :=
      let (tripped, rest) := trip verb kind name rest
      (tripped, r :: rest)
    if !r.isAbout verb kind name then pass r
    else if r.skip > 0 then pass { r with skip := r.skip - 1 }
    else
      match r.times with
      | none => (some r.error, r :: rest)
      | some 0 => pass r
      | some (n + 1) => (some r.error, { r with times := some n } :: rest)

end FailureRule

/-! ## The record -/

inductive Ending where
  | found
  | absent
  | done
  | failed (e : Error)

inductive Duty where
  | observe
  | install
  | update
  | uninstall
  | preInstall
  | preUpdate
  | preUninstall
deriving DecidableEq, Inhabited

def Duty.text : Duty → String
  | observe => "observe"
  | install => "install"
  | update => "update"
  | uninstall => "uninstall"
  | preInstall => "pre_install"
  | preUpdate => "pre_update"
  | preUninstall => "pre_uninstall"

def Duty.all : List Duty := [observe, install, update, uninstall, preInstall, preUpdate, preUninstall]

inductive Entry where
  | touched (verb : Verb) (kind key : String) (ending : Ending)
  | sent (verb : Verb) (kind key : String) (ending : Ending) (o : Object)
  | listed (kind : String) (options : ListOptions) (ending : Ending)
  /-- A duty of a stand-in for a component. -/
  | asked (standIn : Nat) (duty : Duty) (component : String)
  /-- A search of a stand-in for orphans, besides a number of configured components. -/
  | searched (standIn : Nat) (configured : Nat)

/-! ## The world -/

instance : Ord TypeNames where
  compare a b := (compare a.apiVersion b.apiVersion).then (compare a.kind b.kind)

instance : Std.TransOrd TypeNames :=
  inferInstanceAs (Std.TransCmp (compareLex (compareOn TypeNames.apiVersion) (compareOn TypeNames.kind)))

instance : Std.LawfulEqOrd TypeNames where
  eq_of_compare {a b} h := by
    have h₁ := Ordering.then_eq_eq.1 h
    have e₁ := Std.LawfulEqOrd.eq_of_compare h₁.1
    have e₂ := Std.LawfulEqOrd.eq_of_compare h₁.2
    cases a; cases b; simp_all

structure World where
  store : Store := {}
  rules : List FailureRule := []
  record : List Entry := []
  events : List Event := []
  /-- The types of object that came up. -/
  types : SortedMap TypeNames Resource := .empty
  /-- The names of the components that each stand-in has installed. -/
  installed : List (Nat × List String) := []
  /-- The components that were switched on or off, by their handles. -/
  switches : List (Nat × Bool) := []

namespace World

def note (e : Entry) (w : World) : World := { w with record := w.record ++ [e] }

/-- The world in which a type of object came up. -/
def meet (r : Resource) (w : World) : World := { w with types := w.types.insert ⟨r.apiVersion, r.kind⟩ r }

def publish (e : Event) : StateM World Unit := modify fun w => { w with events := w.events ++ [e] }

def seed (r : Resource) (o : Object) (w : World) : Except Error World :=
  (w.store.seed r o).map fun store => { w.meet r with store }

/-- The objects of the served types that came up. -/
def objects (w : World) : List Object :=
  (w.store.objects.entries.filter fun e => !w.store.unserved.contains e.1.kind).map (·.2)

/-- How many objects there are of each type that came up. -/
def counts (w : World) : List (TypeNames × Nat) := w.types.entries.map fun e => (e.1, w.store.count e.2)

/-- A call: the rules may fail it, else it is made, and it is recorded. -/
def call {α : Type} (verb : Verb) (r : Resource) (name : String) (entry : Ending → Entry) (ended : α → Ending)
    (a : Act Store α) : Act World α := ExceptT.mk fun w =>
  let w := w.meet r
  let (tripped, rules) := FailureRule.trip verb r.kind name w.rules
  let w := { w with rules }
  match tripped with
  | some e => (.error e, w.note (entry (.failed e)))
  | none =>
    let (result, store) := a.run w.store
    let ending := match result with
      | .ok a => ended a
      | .error e => .failed e
    (result, { w with store }.note (entry ending))

/-- The text of an object's key, empty without a name. -/
def keyText (o : Object) : String :=
  match o.key with
  | .ok k => k.text
  | .error _ => ""

def client : Client World where
  get r k :=
    call .get r k.name (.touched .get r.kind k.text) (fun found => if found.isSome then .found else .absent)
      (Store.client.get r k)
  create r o :=
    call .create r (o.metadata.name.getD "") (.sent .create r.kind (keyText o) · o) (fun _ => .done)
      (Store.client.create r o)
  update r o :=
    call .update r (o.metadata.name.getD "") (.sent .update r.kind (keyText o) · o) (fun _ => .done)
      (Store.client.update r o)
  delete r k := call .delete r k.name (.touched .delete r.kind k.text) (fun _ => .done) (Store.client.delete r k)
  list r options := call .list r "*" (.listed r.kind options) (fun _ => .done) (Store.client.list r options)

end World

end Converge.Rehearsal
