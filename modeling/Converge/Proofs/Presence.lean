import Converge.Proofs.LocalPasses
import Converge.Proofs.Settling

/-!
# What is there after removing and after writing

Reconcilers of both strategies on a store: removing a component, writing it, and looking at it.

* `Store.run_discard`: deleting an object that may be missing leaves a store that does not show it, and changes nothing else.
* `Store.Loads` : there is a Flux object under a key that can be read. `FluxReconciler.upsert_loads`: a successful upsert leaves one.
* `Reconciler.Handles` : which objects a reconciler of either strategy handles for a component.
* `Reconciler.Agrees` : removing, writing and looking agree on whether a component is there; `Handles.removal_agrees`: they do, for
  both strategies.
-/

namespace Converge

set_option autoImplicit false

/-! ## Deleting what may be missing -/

namespace Store
variable {s t : Store} {W : StoreKey → Prop}

theorem Frame.shows (h : Frame s t W) {k : StoreKey} (hk : ¬ W k) : t.Shows k ↔ s.Shows k := by
  unfold Shows
  rw [h.unserved, h.has hk]

theorem run_discard_unshown {r : Resource} {k : ObjectKey} (hidden : ¬ s.Shows (r.storeKey k)) :
    (client.discard r k).run s = (.ok (), s) := by
  have absent : s.Serves r → s.stored r k = none := fun served => by
    by_contra there
    exact hidden ⟨served, Option.isSome_iff_ne_none.2 there⟩
  obtain ⟨e, hfailed, hignored⟩ := run_delete_absent absent
  unfold Client.discard
  rw [Act.run_attempt_bind hfailed, hignored]
  rfl

/-- **Deleting what may be missing** leaves a store that shows no object under the key, and everything else alone. -/
theorem run_discard (r : Resource) (k : ObjectKey) (s : Store) : ∃ t, (client.discard r k).run s = (.ok (), t) ∧
    Frame s t (· = r.storeKey k) ∧ ¬ t.Shows (r.storeKey k) := by
  by_cases shown : s.Shows (r.storeKey k)
  · exact ⟨_, run_discard_shown shown, frame_deleted _ _, fun h => not_has_deleted _ _ h.2⟩
  · exact ⟨s, run_discard_unshown shown, .refl _ _, shown⟩

/-- Deleting shows nothing that was not shown before. -/
theorem not_shows_of_discard {r : Resource} {k : ObjectKey} (hframe : Frame s t (· = r.storeKey k))
    (gone : ¬ t.Shows (r.storeKey k)) {k' : StoreKey} (hidden : ¬ s.Shows k') : ¬ t.Shows k' := by
  by_cases hk : k' = r.storeKey k
  · exact hk ▸ gone
  · exact fun h => hidden ((hframe.shows hk).1 h)

end Store

/-! ## Writing -/

/-- After an object was created or updated with success the store shows it. -/
theorem Upserts.shows {r : Resource} {key : ObjectKey} {shell : Object} {change : Object → Except Error Object} {s t : Store}
    {u : Upserted} (h : Upserts r key shell change s (.ok u) t) : t.Shows (r.storeKey key) := by
  cases h with
  | created served => exact ⟨served, s.has_created _ _⟩
  | updated served => exact ⟨served, s.has_updated _ _⟩
  | unchanged served there => exact ⟨served, Store.has_iff.2 ⟨_, there⟩⟩

open Flux in
/-- Under the key there is an object of the kind that can be read as one. -/
def Store.Loads (s : Store) (k : Kind) (key : ObjectKey) : Prop :=
  s.Serves k.resource ∧ ∃ o i, s.stored k.resource key = some o ∧ Item.ofObject k o = .ok i

theorem Store.Loads.frame {s t : Store} {k : Flux.Kind} {key : ObjectKey} {W : StoreKey → Prop} (h : s.Loads k key)
    (hframe : s.Frame t W) (hk : ¬ W (k.resource.storeKey key)) : t.Loads k key := by
  obtain ⟨served, o, i, there, loads⟩ := h
  refine ⟨?_, o, i, (hframe.entry _ hk).trans there, loads⟩
  unfold Serves
  rw [hframe.unserved]
  exact served

theorem Flux.Kind.eq_of_resource {k l : Kind} (h : k.resource.kind = l.resource.kind) : k = l := by
  cases k <;> cases l <;> first | rfl | exact absurd h (by decide)

namespace FluxReconciler

open Flux

theorem removeHalf_eq {σ : Type} (client : Client σ) (desired : Manifest) :
    removeHalf client desired = client.discard desired.resource desired.key := rfl

/-! ## Looking at one half -/

section
variable {desired : Manifest} {s : Store}

theorem run_observeHalf_unshown (hidden : ¬ s.Shows desired.storeKey) : (observeHalf Store.client desired).run s =
    (.ok (false, .bad (desired.resource.kind ++ " " ++ desired.key.text ++ " not found")), s) := by
  rw [observeHalf_eq]
  by_cases served : s.Serves desired.resource
  · have absent : s.stored desired.resource desired.key = none := by
      by_contra there
      exact hidden ⟨served, Option.isSome_iff_ne_none.2 there⟩
    rw [Act.run_attempt_bind (Store.run_get served), absent]
    rfl
  · rw [Act.run_attempt_bind (Store.run_get_unserved served)]
    rfl

theorem run_observeHalf_shown {o : Object} {i : Item desired.kind} (served : s.Serves desired.resource)
    (there : s.stored desired.resource desired.key = some o) (loads : Item.ofObject desired.kind o = .ok i) :
    (observeHalf Store.client desired).run s = (.ok (true, i.health), s) := by
  have seen : judge desired (.ok (some o)) = .ok (true, i.health) := by
    show (Item.ofObject desired.kind o).map _ = _
    rw [loads]
    rfl
  rw [observeHalf_eq, Act.run_attempt_bind (Store.run_get served), there, seen, Act.run_ofExcept]

theorem run_observeHalf_loads (h : s.Loads desired.kind desired.key) :
    ∃ health, (observeHalf Store.client desired).run s = (.ok (true, health), s) := by
  obtain ⟨served, o, i, there, loads⟩ := h
  exact ⟨_, run_observeHalf_shown served there loads⟩

end

/-! ## Pairs -/

section
variable {r : FluxReconciler Store} {c : Component Store} {source deployment desired : Manifest} {s t : Store}

theorem run_observe_of_halves (hr : r.client = Store.client) (hpair : pair c = .ok (source, deployment))
    {a b : Bool} {x y : Health} (ha : (observeHalf Store.client source).run s = (.ok (a, x), s))
    (hb : (observeHalf Store.client deployment).run s = (.ok (b, y), s)) :
    (r.observe c).run s = (.ok ⟨a || b, x.and y⟩, s) := by
  unfold observe
  rw [hpair, hr, run_bind_ok (Act.run_ofExcept _ s)]
  dsimp only
  rw [run_bind_ok ha]
  dsimp only
  rw [run_bind_ok hb]
  rfl

theorem run_uninstall_of_halves (hr : r.client = Store.client) (hpair : pair c = .ok (source, deployment)) {u : Store}
    (hd : (Store.client.discard deployment.resource deployment.key).run s = (.ok (), t))
    (hs : (Store.client.discard source.resource source.key).run t = (.ok (), u)) :
    (r.uninstall c).run s = (.ok (), u) := by
  unfold uninstall
  rw [hpair, hr, run_bind_ok (Act.run_ofExcept _ s)]
  dsimp only
  rw [removeHalf_eq, removeHalf_eq, run_bind_ok hd]
  exact hs

/-- **What a successful upsert leaves can be read again**, whatever was there and whatever is wanted. -/
theorem upsert_loads (hr : r.client = Store.client) (hs : s.Ordered) (h : (r.upsert c desired).run s = (.ok (), t)) :
    t.Loads desired.kind desired.key ∧ t.Ordered ∧ s.Frame t (· = desired.storeKey) := by
  obtain ⟨u, hu⟩ := exists_report_of_upsert h
  obtain ⟨_, _, after, o, hleaves⟩ := report_leaves hr (fun o ho => (hs _ o ho).nodup_keys) hu
  have hupserts : Upserts desired.resource desired.key (shellOf desired) (change desired (r.labels c)) s _ _ :=
    createOrUpdate_upserts (shellOf_key desired) s
  rw [← run_report hr, hu] at hupserts
  have hframe : s.Frame t (· = desired.storeKey) := hupserts.frame
  refine ⟨⟨?_, o, after, hleaves.stored, hleaves.loads⟩, ?_, hframe⟩
  · unfold Store.Serves
    rw [hframe.unserved]
    exact hleaves.served
  · obtain rfl | ⟨hordered, -⟩ := hupserts.settled hs (settling desired _)
    · exact hs
    · exact hordered

/-- Both halves can be read after both were written, also where they are one object. -/
theorem apply_loads (hr : r.client = Store.client) (hpair : pair c = .ok (source, deployment)) (hs : s.Ordered)
    (h : (r.apply c).run s = (.ok (), t)) :
    t.Loads source.kind source.key ∧ t.Loads deployment.kind deployment.key := by
  unfold apply at h
  rw [hpair, run_bind_ok (Act.run_ofExcept _ s)] at h
  dsimp only at h
  rcases hfirst : (r.upsert c source).run s with ⟨x | ⟨⟩, s₁⟩
  · rw [run_bind_error hfirst] at h
    cases h
  rw [run_bind_ok hfirst] at h
  obtain ⟨hsource, hs₁, -⟩ := upsert_loads hr hs hfirst
  obtain ⟨hdeployment, -, hframe⟩ := upsert_loads hr hs₁ h
  refine ⟨?_, hdeployment⟩
  by_cases hsame : source.storeKey = deployment.storeKey
  · have hkind : source.kind = deployment.kind := Kind.eq_of_resource (congrArg StoreKey.kind hsame)
    have hkey : source.key = deployment.key := congrArg StoreKey.key hsame
    rw [hkind, hkey]
    exact hdeployment
  · exact hsource.frame hframe hsame

end

end FluxReconciler

/-! ## Both strategies -/

/-- The reconciler is of one of the strategies, on a store, and handles these objects for the component, which can name them. -/
inductive Reconciler.Handles : Reconciler Store → Component Store → (StoreKey → Prop) → Prop
  | object {r : ObjectReconciler Store} {c v i} (client : r.client = Store.client)
    (view : ObjectReconciler.view c = .ok (v, i)) : Handles r.toReconciler c (· = i.storeKey)
  | pair {r : FluxReconciler Store} {c source deployment} (client : r.client = Store.client)
    (pair : FluxReconciler.pair c = .ok (source, deployment)) :
    Handles r.toReconciler c fun k => k = source.storeKey ∨ k = deployment.storeKey

/-- From the store on, removing, writing and looking agree on whether the component is there. -/
structure Reconciler.Agrees (r : Reconciler Store) (c : Component Store) (owned : StoreKey → Prop) (s : Store) : Prop where
  /-- Removing succeeds and touches nothing else. After it nothing is seen, and removing again deletes nothing. -/
  uninstall : ∃ t, (r.uninstall c).run s = (.ok (), t) ∧ s.Frame t owned ∧
    (∃ seen, (r.observe c).run t = (.ok seen, t) ∧ seen.present = false) ∧ (r.uninstall c).run t = (.ok (), t)
  install : ∀ t, (r.install c).run s = (.ok (), t) → ∃ seen, (r.observe c).run t = (.ok seen, t) ∧ seen.present = true
  update : ∀ t, (r.update c).run s = (.ok (), t) → ∃ seen, (r.observe c).run t = (.ok seen, t) ∧ seen.present = true

namespace ObjectReconciler
variable {r : ObjectReconciler Store} {c : Component Store} {v : ObjectView} {i : ObjectIdentity}

theorem agrees (hr : r.client = Store.client) (hview : view c = .ok (v, i)) (s : Store) :
    r.toReconciler.Agrees c (· = i.storeKey) s := by
  have ho := owns_of_view hview
  have look := fun t => run_observe (s := t) hr ho
  have written : ∀ t, (r.apply c).run s = (.ok (), t) → ∃ seen, (r.observe c).run t = (.ok seen, t) ∧ seen.present = true := by
    intro t h
    obtain ⟨x, s', hrun, hupserts⟩ := run_apply (s := s) hr ho
    obtain ⟨hx, rfl⟩ := Prod.mk.inj (hrun.symm.trans h)
    obtain ⟨u, rfl, -⟩ := map_eq_ok.1 hx
    obtain ⟨seen, hseen, hpresent⟩ := look s'
    exact ⟨seen, hseen, hpresent.2 hupserts.shows⟩
  refine ⟨?_, written, written⟩
  obtain ⟨t, ht, hframe, hgone⟩ := Store.run_discard i.resource i.key s
  obtain ⟨seen, hseen, hpresent⟩ := look t
  refine ⟨t, (run_uninstall_eq hr (view_eq_ok ho) _).trans ht, hframe, ⟨seen, hseen, ?_⟩, ?_⟩
  · exact Bool.eq_false_iff.2 fun h => hgone (hpresent.1 h)
  · exact (run_uninstall_eq hr (view_eq_ok ho) _).trans (Store.run_discard_unshown hgone)

end ObjectReconciler

namespace FluxReconciler
variable {r : FluxReconciler Store} {c : Component Store} {source deployment : Flux.Manifest} {s : Store}

theorem agrees (hr : r.client = Store.client) (hpair : pair c = .ok (source, deployment)) (hs : s.Ordered) :
    r.toReconciler.Agrees c (fun k => k = source.storeKey ∨ k = deployment.storeKey) s := by
  have written : ∀ t, (r.apply c).run s = (.ok (), t) → ∃ seen, (r.observe c).run t = (.ok seen, t) ∧ seen.present = true := by
    intro t h
    obtain ⟨hsource, hdeployment⟩ := apply_loads hr hpair hs h
    obtain ⟨_, ha⟩ := run_observeHalf_loads hsource
    obtain ⟨_, hb⟩ := run_observeHalf_loads hdeployment
    exact ⟨_, run_observe_of_halves hr hpair ha hb, rfl⟩
  refine ⟨?_, written, written⟩
  obtain ⟨t, ht, hframe, hgone⟩ := Store.run_discard deployment.resource deployment.key s
  obtain ⟨u, hu, hframe', hgone'⟩ := Store.run_discard source.resource source.key t
  have hgone'' : ¬ u.Shows deployment.storeKey := Store.not_shows_of_discard hframe' hgone' hgone
  have ha := run_observeHalf_unshown hgone'
  have hb := run_observeHalf_unshown hgone''
  refine ⟨u, run_uninstall_of_halves hr hpair ht hu, ?_, ⟨_, run_observe_of_halves hr hpair ha hb, rfl⟩, ?_⟩
  · exact (hframe.mono fun _ => .inr).trans (hframe'.mono fun _ => .inl)
  · exact run_uninstall_of_halves hr hpair (Store.run_discard_unshown hgone'') (Store.run_discard_unshown hgone')

end FluxReconciler

/-- **Removal and presence agree** for both strategies, from every store: also where types are not served, only one half of a
pair is there, or both halves are one object. -/
theorem Reconciler.Handles.removal_agrees {r : Reconciler Store} {c : Component Store} {owned : StoreKey → Prop} (h : r.Handles c owned)
    {s : Store} (hs : s.Ordered) : r.Agrees c owned s := by
  cases h with
  | object client view => exact ObjectReconciler.agrees client view s
  | pair client pair => exact FluxReconciler.agrees client pair hs

namespace Sample

/-- A cluster with the repository of the site but not what is deployed from it, which serves no secrets. -/
def halfway : Store := { repositories with unserved := ["Secret"] }

def webPair : Component Store := { web with flux := some { source := .ok repository, deployment := .ok deployed } }

theorem halfway_ordered : halfway.Ordered := by
  intro k o ho
  by_cases hk : k = repository.storeKey
  · subst hk
    obtain rfl := Option.some.inj (stored_paused.symm.trans ho)
    rintro _ ⟨⟩
    exact List.pairwise_cons.2 ⟨fun e he => by rw [List.mem_singleton.1 he]; decide, List.pairwise_singleton ..⟩
  · have hnone : halfway.objects.get? k = none := SortedMap.get?_insert_of_ne _ hk _
    cases hnone.symm.trans ho

/-- Half of a pair is removed, and an object of a type that is not served counts as removed. -/
theorem removal_agrees_halfway : halfway.Ordered ∧
    flux.toReconciler.Agrees webPair (fun k => k = repository.storeKey ∨ k = deployed.storeKey) halfway ∧
    (ObjectReconciler.mk Store.client {} .empty).toReconciler.Agrees (component "Secret" (.ok creds)) (· = creds.storeKey)
      halfway :=
  ⟨halfway_ordered, Reconciler.Handles.removal_agrees (.pair rfl rfl) halfway_ordered,
    Reconciler.Handles.removal_agrees (.object rfl rfl) halfway_ordered⟩

/-- The half that is there is found and deleted, and then both are written. -/
example : ((flux.observe webPair).run halfway).1.map (·.present) = .ok true ∧
    ((flux.uninstall webPair).run halfway).2.deletes = 1 ∧ ((flux.apply webPair).run halfway).1 = .ok () ∧
    ((flux.apply webPair).run halfway).2.writes = 2 := by decide +kernel

end Sample

end Converge
