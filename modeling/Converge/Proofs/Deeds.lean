import Converge.Component
import Converge.Proofs.Locality

/-!
# The record of what is done

* `Deed` is a write to a cluster, or the run of a hook. `Client.noted` is the access that notes every write before it is tried,
  whether it succeeds or not; `Component.noted` notes every run of a hook.
* `Client.run_get_noted`, `run_update_noted`: reading leaves no trace, writing leaves its own.
-/

namespace Converge

set_option autoImplicit false

variable {σ α : Type}

inductive Deed where
  | create (r : Resource) (o : Object)
  | update (r : Resource) (o : Object)
  | delete (r : Resource) (k : ObjectKey)
  | hook (phase : HookPhase)

/-- The operation, noted before it starts. -/
def Act.noting (d : Deed) (a : Act (σ × List Deed) α) : Act (σ × List Deed) α :=
  ExceptT.mk fun p => a.run (p.1, p.2 ++ [d])

/-- The access, its writes noted. -/
def Client.noted (c : Client σ) : Client (σ × List Deed) where
  get r k := (c.get r k).beside _
  create r o := ((c.create r o).beside _).noting (.create r o)
  update r o := ((c.update r o).beside _).noting (.update r o)
  delete r k := ((c.delete r k).beside _).noting (.delete r k)
  list r options := (c.list r options).beside _

/-- The operation, without its changes to the record. -/
def Act.unrecorded (a : Act (σ × List Deed) α) : Act (σ × List Deed) α :=
  ExceptT.mk fun p => ((a.run p).1, (a.run p).2.1, p.2)

/-- The component, the runs of its hooks noted. Its check may read the record, not change it. -/
def Component.noted (c : Component (σ × List Deed)) : Component (σ × List Deed) :=
  { c with
    hooks := {
      preInstall := c.hooks.preInstall.map fun hook client => (hook client).noting (.hook .preInstall)
      preUpdate := c.hooks.preUpdate.map fun hook client => (hook client).noting (.hook .preUpdate)
      preUninstall := c.hooks.preUninstall.map fun hook client => (hook client).noting (.hook .preUninstall) }
    installable := c.installable.unrecorded }

namespace Client

variable (c : Client σ) (r : Resource) (s : σ) (deeds : List Deed)

theorem run_get_noted (k : ObjectKey) : (c.noted.get r k).run (s, deeds) = (((c.get r k).run s).1, ((c.get r k).run s).2, deeds) :=
  rfl

theorem run_update_noted (o : Object) : (c.noted.update r o).run (s, deeds) =
    (((c.update r o).run s).1, ((c.update r o).run s).2, deeds ++ [.update r o]) :=
  rfl

end Client

theorem Component.hooks_noted_get (c : Component (σ × List Deed)) (phase : HookPhase) :
    c.noted.hooks.get phase = (c.hooks.get phase).map fun hook client => (hook client).noting (.hook phase) := by
  cases phase <;> rfl

end Converge
