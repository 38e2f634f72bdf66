import Converge.Proofs.FluxUpserts
import Converge.Proofs.Locality
import Converge.Proofs.ObjectTurns

/-!
# Local turns

* `Component.Holds` : the objects of a component, of either strategy. `Component.Candid` : it runs no hook, and its check
  always answers the same.
* `Reconciler.LocalTo` : what a reconciler does for a component is local to some keys. `ObjectReconciler.localTo`,
  `FluxReconciler.localTo`: for both strategies these are the objects of the component.
* `Engine.OnStore` : all reconcilers of an engine are of these strategies, on one store. `Engine.OnStore.local_converge`:
  then turns are local to the objects of their components.
-/

namespace Converge

set_option autoImplicit false

/-! ## The objects of a component -/

/-- What a store files the object of a manifest under. -/
def Flux.Manifest.storeKey (m : Flux.Manifest) : StoreKey := m.resource.storeKey m.key

namespace Component
variable {σ : Type}

/-- The object under the key is the component's own, or one half of its pair. -/
def Holds (c : Component σ) (k : StoreKey) : Prop :=
  c.Names k ∨ ∃ source deployment, FluxReconciler.pair c = .ok (source, deployment) ∧
    (k = source.storeKey ∨ k = deployment.storeKey)

/-- The component runs no hook, and its check always answers the same and changes nothing. -/
structure Candid (c : Component σ) : Prop where
  hooks : ∀ phase, c.hooks.get phase = none
  check : ∃ answer, ∀ s, c.installable.run s = (answer, s)

theorem Candid.passive {c : Component σ} (h : c.Candid) : c.Passive := by
  obtain ⟨answer, hanswer⟩ := h.check
  exact ⟨h.hooks, fun s => congrArg Prod.snd (hanswer s)⟩

/-- No object belongs to two of the components. -/
def Apart (cs : List (Component σ)) : Prop := cs.Pairwise fun a b => ∀ k, a.Holds k → ¬ b.Holds k

theorem Apart.perm {cs ds : List (Component σ)} (h : Apart cs) (hperm : ds.Perm cs) : Apart ds :=
  (hperm.pairwise_iff fun hab k hb ha => hab k ha hb).2 h

end Component

/-! ## Reconcilers -/

variable {τ : Type} {K : StoreKey → Prop}

/-- All that a reconciler does for a component is local to some keys. -/
structure Reconciler.LocalTo (r : Reconciler (Store × τ)) (c : Component (Store × τ)) (K : StoreKey → Prop) : Prop where
  observe : Local K (r.observe c).run
  install : Local K (r.install c).run
  update : Local K (r.update c).run
  uninstall : Local K (r.uninstall c).run
  preInstall : Local K (r.preInstall c).run
  preUpdate : Local K (r.preUpdate c).run
  preUninstall : Local K (r.preUninstall c).run

theorem Component.Candid.local_hook {c : Component (Store × τ)} (h : c.Candid) (phase : HookPhase)
    (client : Client (Store × τ)) : Local K (c.runHook phase client).run := by
  unfold runHook
  rw [h.hooks phase]
  exact .done K ()

namespace ObjectReconciler

theorem owns_of_view {σ : Type} {c : Component σ} {v : ObjectView} {i : ObjectIdentity} (h : view c = .ok (v, i)) :
    c.Owns v i := by
  unfold view at h
  cases hc : c.object with
  | none =>
    rw [hc] at h
    cases h
  | some w =>
    rw [hc] at h
    obtain ⟨j, hj, h⟩ := bind_eq_ok.1 h
    obtain ⟨rfl, rfl⟩ := Prod.mk.inj (Except.ok.inj h)
    exact ⟨hc, hj⟩

variable {r : ObjectReconciler (Store × τ)} {c : Component (Store × τ)} {v : ObjectView} {i : ObjectIdentity}

theorem holds_of_view (h : view c = .ok (v, i)) : ∀ k, k = i.resource.storeKey i.key → c.Holds k :=
  fun _ hk => .inl ⟨i, (owns_of_view h).identity?, hk.symm⟩

variable (hr : r.client = Store.client.beside τ)
include hr

theorem local_observe (c : Component (Store × τ)) : Local c.Holds (r.observe c).run := by
  rw [observe_eq, hr]
  refine .bindOk fun (v, i) hview => ?_
  exact .bindExcept (((Local.get i.resource i.key).mono (holds_of_view hview)).attempt) fun _ => .ofExcept _ _

theorem local_apply (c : Component (Store × τ)) : Local c.Holds (r.apply c).run := by
  unfold apply
  rw [hr]
  refine .bindOk fun (v, i) hview => ?_
  have hupsert := (Local.createOrUpdate (τ := τ) (r := i.resource) (Object.key_shell i.resource i.key)
    (shape r.config c v)).mono (holds_of_view hview)
  exact .bindExcept hupsert fun _ => .done _ _

theorem local_uninstall (c : Component (Store × τ)) : Local c.Holds (r.uninstall c).run := by
  unfold uninstall
  rw [hr]
  refine .bindOk fun (v, i) hview => ?_
  exact .bindExcept (((Local.delete i.resource i.key).mono (holds_of_view hview)).attempt) fun _ => .ofExcept _ _

theorem localTo {c : Component (Store × τ)} (hc : c.Candid) : r.toReconciler.LocalTo c c.Holds :=
  ⟨local_observe hr c, local_apply hr c, local_apply hr c, local_uninstall hr c, hc.local_hook _ _, hc.local_hook _ _,
    hc.local_hook _ _⟩

end ObjectReconciler

namespace FluxReconciler

open Flux

/-- What is seen of one half of a pair. -/
def sight (desired : Manifest) : Option Object → Except Error (Bool × Health)
  | none => .ok (false, .bad (desired.resource.kind ++ " " ++ desired.key.text ++ " not found"))
  | some o => (Item.ofObject desired.kind o).map fun i => (true, i.health)

/-- What is seen of one half of a pair, from the answer of the cluster. -/
def judge (desired : Manifest) : Except Error (Option Object) → Except Error (Bool × Health)
  | .ok found => sight desired found
  | .error e => if e.isKindNotFound then sight desired none else .error e

theorem observeHalf_eq {σ : Type} (client : Client σ) (desired : Manifest) : observeHalf client desired =
    (client.get desired.resource desired.key).attempt >>= fun found => Act.ofExcept (judge desired found) := by
  unfold observeHalf
  refine bind_congr fun found => ?_
  cases found with
  | ok found =>
    cases found with
    | none => rfl
    | some o =>
      show (Act.ofExcept (Item.ofObject desired.kind o) >>= fun i => pure (true, i.health)) =
        Act.ofExcept ((Item.ofObject desired.kind o).map fun i => (true, i.health))
      cases Item.ofObject desired.kind o <;> rfl
  | error e =>
    dsimp only [judge]
    split <;> rfl

theorem local_observeHalf (desired : Manifest) :
    Local (· = desired.storeKey) (observeHalf (Store.client.beside τ) desired).run := by
  rw [observeHalf_eq]
  exact .bindExcept (Local.get desired.resource desired.key).attempt fun _ => .ofExcept _ _

theorem local_removeHalf (desired : Manifest) :
    Local (· = desired.storeKey) (removeHalf (Store.client.beside τ) desired).run := by
  unfold removeHalf
  exact .bindExcept (Local.delete desired.resource desired.key).attempt fun _ => .ofExcept _ _

variable {r : FluxReconciler (Store × τ)} (hr : r.client = Store.client.beside τ)
include hr

theorem local_upsert (c : Component (Store × τ)) (desired : Manifest) :
    Local (· = desired.storeKey) (r.upsert c desired).run := by
  unfold upsert
  rw [hr, bare_toObject]
  have hupsert := Local.createOrUpdate (τ := τ) (r := desired.resource) (shellOf_key desired) (change desired (r.labels c))
  refine .bindOk fun shell hshell => ?_
  obtain rfl := Except.ok.inj hshell
  exact .bindExcept hupsert fun _ => .done _ _

section
variable {c : Component (Store × τ)} {source deployment : Manifest} (hpair : pair c = .ok (source, deployment))
include hpair

omit hr in
theorem holds_source : ∀ k, k = source.storeKey → c.Holds k := fun _ hk => .inr ⟨source, deployment, hpair, .inl hk⟩

omit hr in
theorem holds_deployment : ∀ k, k = deployment.storeKey → c.Holds k := fun _ hk => .inr ⟨source, deployment, hpair, .inr hk⟩

end

theorem local_observe (c : Component (Store × τ)) : Local c.Holds (r.observe c).run := by
  unfold observe
  rw [hr]
  refine .bindOk fun (source, deployment) hpair => ?_
  refine .bindExcept ((local_observeHalf source).mono (holds_source hpair)) fun _ => ?_
  exact .bindExcept ((local_observeHalf deployment).mono (holds_deployment hpair)) fun _ => .done _ _

theorem local_apply (c : Component (Store × τ)) : Local c.Holds (r.apply c).run := by
  unfold apply
  refine .bindOk fun (source, deployment) hpair => ?_
  refine .bindExcept ((local_upsert hr c source).mono (holds_source hpair)) fun _ => ?_
  exact (local_upsert hr c deployment).mono (holds_deployment hpair)

theorem local_uninstall (c : Component (Store × τ)) : Local c.Holds (r.uninstall c).run := by
  unfold uninstall
  rw [hr]
  refine .bindOk fun (source, deployment) hpair => ?_
  refine .bindExcept ((local_removeHalf deployment).mono (holds_deployment hpair)) fun _ => ?_
  exact (local_removeHalf source).mono (holds_source hpair)

theorem localTo {c : Component (Store × τ)} (hc : c.Candid) : r.toReconciler.LocalTo c c.Holds :=
  ⟨local_observe hr c, local_apply hr c, local_apply hr c, local_uninstall hr c, hc.local_hook _ _, hc.local_hook _ _,
    hc.local_hook _ _⟩

end FluxReconciler

/-! ## Turns -/

namespace Engine

/-- All reconcilers drive objects or pairs of Flux objects on the store, which publishing leaves alone. -/
structure OnStore (e : Engine (Store × τ)) : Prop where
  reconcilers : ∀ r ∈ e.reconcilers,
    (∃ o : ObjectReconciler (Store × τ), o.client = Store.client.beside τ ∧ r = o.toReconciler) ∨
      ∃ f : FluxReconciler (Store × τ), f.client = Store.client.beside τ ∧ r = f.toReconciler
  publish : ∀ event p, ((e.publish event).run p).2.1 = p.1

theorem local_step {α : Type} (failed : ComponentStatus) {a : Act (Store × τ) α} (ha : Local K a.run) :
    Local K (step failed a).run :=
  ha.adapt _

section
variable {r : Reconciler (Store × τ)} {c : Component (Store × τ)} (h : r.LocalTo c K)
include h

theorem local_remove (config : Config) : Local K (remove config r c).run := by
  unfold remove
  split
  · exact .done K _
  · refine .bindExcept (local_step _ h.preUninstall) fun _ => ?_
    exact .bindExcept (local_step _ h.uninstall) fun _ => .done K _

theorem local_install : Local K (install r c).run := by
  unfold install
  refine .bindExcept (local_step _ h.preInstall) fun _ => ?_
  exact .bindExcept (local_step _ h.install) fun _ => .done K _

theorem local_update : Local K (update r c).run := by
  unfold update
  refine .bindExcept (local_step _ h.preUpdate) fun _ => ?_
  refine .bindExcept (local_step _ h.update) fun _ => ?_
  exact .bindExcept (local_step _ h.observe) fun _ => .done K _

theorem local_drive (hc : c.Candid) (config : Config) (registered : List (Component (Store × τ))) :
    Local K (drive config registered r c).run := by
  have hcheck : Local K c.installable.run := by
    obtain ⟨answer, hanswer⟩ := hc.check
    have hrun : c.installable = Act.ofExcept answer := ExceptT.ext (funext hanswer)
    rw [hrun]
    exact .ofExcept K answer
  unfold drive
  refine .bindExcept (local_step _ h.observe) fun seen => ?_
  split
  · split
    · exact local_remove h config
    · exact .done K _
  · refine .bindExcept (local_step _ hcheck) fun allowed => ?_
    split
    · exact .done K _
    · split
      · exact .done K _
      · split
        · exact local_update h
        · exact local_install h

end

variable {e : Engine (Store × τ)} {c : Component (Store × τ)}

theorem OnStore.localTo (h : e.OnStore) (hc : c.Candid) {r : Reconciler (Store × τ)} (hr : r ∈ e.reconcilers) :
    r.LocalTo c c.Holds := by
  obtain ⟨o, ho, rfl⟩ | ⟨f, hf, rfl⟩ := h.reconcilers r hr
  · exact ObjectReconciler.localTo ho hc
  · exact FluxReconciler.localTo hf hc

/-- **Turns are local** to the objects of their components. -/
theorem OnStore.local_converge (h : e.OnStore) (hc : c.Candid) : Local c.Holds (e.converge c) := by
  unfold converge
  cases hroute : e.route c.kind with
  | error message => exact .pure _ _
  | ok r =>
    refine (local_drive (h.localTo hc (mem_of_route hroute).1) hc e.config e.components).bind fun x => ?_
    cases x <;> exact .pure _ _

end Engine

end Converge
