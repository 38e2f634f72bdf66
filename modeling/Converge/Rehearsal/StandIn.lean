import Converge.Reconciler
import Converge.Rehearsal.World

/-!
# Stand-ins for reconcilers

* `StandIn` is a reconciler that touches no objects: it remembers what it installed, reports the health that it is told to,
  and fails where it is told to. Hooks run as they would otherwise.
* `StandIn.toReconciler` is the reconciler.
* `World.switch` turns a component on or off, and `World.current` is the component as it is switched.
-/

namespace Converge.Rehearsal

set_option autoImplicit false

namespace World

def switch (handle : Nat) (on : Bool) (w : World) : World := { w with switches := (handle, on) :: w.switches }

/-- The component as it is switched. -/
def current (w : World) (c : Component World) : Component World :=
  match c.handle.bind fun handle => Assoc.get? handle w.switches with
  | some on => { c with enabled := on }
  | none => c

def installedBy (standIn : Nat) (w : World) : List String := (Assoc.get? standIn w.installed).getD []

def setInstalled (standIn : Nat) (names : List String) (w : World) : World :=
  { w with installed := (standIn, names) :: w.installed }

/-- How often a stand-in was asked to do a duty for a component. -/
def timesAsked (w : World) (standIn : Nat) (duty : Duty) (component : String) : Nat :=
  w.record.countP fun
    | .asked i d c => i == standIn && d == duty && c == component
    | _ => false

end World

/-- When a stand-in fails, and how. -/
structure Lapse where
  duty : Duty
  /-- For any component unless set. -/
  component : Option String := none
  /-- Each time unless set; else only after that many times. -/
  after : Option Nat := none
  error : Error

/-- Whether the lapse is about a duty for a component that was done a number of times. -/
def Lapse.isAbout (l : Lapse) (duty : Duty) (component : String) (times : Nat) : Bool :=
  l.duty == duty && (l.component.isNone || l.component == some component) && (l.after.isNone || l.after == some times)

/-- A reconciler that touches no objects. -/
structure StandIn where
  /-- The number under which it is recorded. -/
  number : Nat
  kinds : SortedSet ComponentKind
  /-- The health of components; the others are healthy. -/
  health : List (String × Health) := []
  lapses : List Lapse := []
  /-- What a search for orphans finds; without it there is no search. -/
  orphans : Option (Except Error (List (Component World))) := none

namespace StandIn

/-- Records a duty, and fails if there is a lapse about it. -/
def attend (s : StandIn) (duty : Duty) (c : Component World) : Act World Unit := ExceptT.mk fun w =>
  let times := w.timesAsked s.number duty c.name
  let w := w.note (.asked s.number duty c.name)
  match s.lapses.find? fun l => l.isAbout duty c.name times with
  | some l => (.error l.error, w)
  | none => (.ok (), w)

def prepare (s : StandIn) (duty : Duty) (phase : HookPhase) (c : Component World) : Act World Unit := do
  s.attend duty c
  c.runHook phase World.client

def toReconciler (s : StandIn) : Reconciler World where
  kinds := s.kinds
  observe c := do
    s.attend .observe c
    let w ← Act.ofState get
    return if (w.installedBy s.number).contains c.name then .existing ((Assoc.get? c.name s.health).getD .good)
      else .absent
  install c := do
    s.attend .install c
    Act.ofState (modify fun w => w.setInstalled s.number (c.name :: w.installedBy s.number))
  update c := s.attend .update c
  uninstall c := do
    s.attend .uninstall c
    Act.ofState (modify fun w => w.setInstalled s.number ((w.installedBy s.number).filter (· ≠ c.name)))
  preInstall := s.prepare .preInstall .preInstall
  preUpdate := s.prepare .preUpdate .preUpdate
  preUninstall := s.prepare .preUninstall .preUninstall
  orphans := s.orphans.map fun found configured => do
    Act.ofState (modify fun w => w.note (.searched s.number configured.length))
    let w ← Act.ofState get
    return (← Act.ofExcept found).map w.current

end StandIn

end Converge.Rehearsal
