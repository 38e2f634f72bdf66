import Converge.Proofs.LocalPasses
import Converge.Proofs.Settling

/-!
# Passes that are taken again

* `Drives.either`: a turn does nothing to the state, or what installing or uninstalling the component does.
* `Engine.Steady` : the components of an engine own different objects and make of them what they make at once.
* `Engine.reconcile_settles`: from the second pass on nothing is written, and every pass is like the second one.
-/

namespace Converge

set_option autoImplicit false

/-- Labels that are stamped on an object again are there already. -/
theorem Ownership.stamp_stamp {σ : Type} (config : Config) (c : Component σ) (o : Object) :
    stamp config c (stamp config c o) = stamp config c o := by
  have hlabels : (o.metadata.labelMap.insertAll (entries config c)).insertAll (entries config c) =
      o.metadata.labelMap.insertAll (entries config c) := SortedMap.insertAll_insertAll ..
  unfold stamp
  exact congrArg (fun labels => { o with metadata := { o.metadata with labels := some labels } }) hlabels

namespace Engine

variable {τ : Type}

/-! ## What a turn does to the state -/

section
variable {config : Config} {registered : List (Component (Store × τ))} {r : Reconciler (Store × τ)} {c : Component (Store × τ)}
  (hr : r.Settles c) {p p' : Store × τ} {ending : Ending}
include hr

theorem Removes.either (h : Removes config r c p ending p') : p' = p ∨ p' = ((r.uninstall c).run p).2 := by
  cases h with
  | kept => exact .inl rfl
  | unprepared _ prepare => exact .inl (hr.preUninstall.eq_of_run prepare)
  | failed _ prepare act =>
    obtain rfl := hr.preUninstall.eq_of_run prepare
    exact .inr (congrArg Prod.snd act).symm
  | done _ prepare act =>
    obtain rfl := hr.preUninstall.eq_of_run prepare
    exact .inr (congrArg Prod.snd act).symm

theorem Installs.either (h : Installs r c p ending p') : p' = p ∨ p' = ((r.install c).run p).2 := by
  cases h with
  | unprepared prepare => exact .inl (hr.preInstall.eq_of_run prepare)
  | failed prepare act =>
    obtain rfl := hr.preInstall.eq_of_run prepare
    exact .inr (congrArg Prod.snd act).symm
  | done prepare act =>
    obtain rfl := hr.preInstall.eq_of_run prepare
    exact .inr (congrArg Prod.snd act).symm

theorem Updates.either (h : Updates r c p ending p') : p' = p ∨ p' = ((r.install c).run p).2 := by
  rw [← hr.update]
  cases h with
  | unprepared prepare => exact .inl (hr.preUpdate.eq_of_run prepare)
  | failed prepare act =>
    obtain rfl := hr.preUpdate.eq_of_run prepare
    exact .inr (congrArg Prod.snd act).symm
  | unobserved prepare act look =>
    obtain rfl := hr.preUpdate.eq_of_run prepare
    exact .inr ((hr.observe.eq_of_run look).trans (congrArg Prod.snd act).symm)
  | done prepare act look =>
    obtain rfl := hr.preUpdate.eq_of_run prepare
    exact .inr ((hr.observe.eq_of_run look).trans (congrArg Prod.snd act).symm)

/-- A turn does nothing to the state, or what one operation does, and which one it may be is up to the component alone. -/
theorem Drives.either (hc : c.Candid) (h : Drives config registered r c p ending p') :
    p' = p ∨ p' = ((if c.enabled then r.install c else r.uninstall c).run p).2 := by
  have hcheck := hc.passive.check
  cases h with
  | unobserved look => exact .inl (hr.observe.eq_of_run look)
  | disabled look => exact .inl (hr.observe.eq_of_run look)
  | removes look unwanted _ remove =>
    obtain rfl := hr.observe.eq_of_run look
    rw [unwanted]
    exact remove.either hr
  | unanswered look _ ask =>
    obtain rfl := hr.observe.eq_of_run look
    exact .inl (hcheck.eq_of_run ask)
  | refused look _ ask =>
    obtain rfl := hr.observe.eq_of_run look
    exact .inl (hcheck.eq_of_run ask)
  | unmet look _ ask =>
    obtain rfl := hr.observe.eq_of_run look
    exact .inl (hcheck.eq_of_run ask)
  | installs look may _ install =>
    obtain rfl := hr.observe.eq_of_run look
    obtain rfl := hcheck.eq_of_run may.installable
    rw [may.enabled]
    exact install.either hr
  | updates look may _ update =>
    obtain rfl := hr.observe.eq_of_run look
    obtain rfl := hcheck.eq_of_run may.installable
    rw [may.enabled]
    exact update.either hr

end

/-! ## Turns that settle -/

/-- The components own different objects, the halves of a pair among them, and every one makes of its objects at once what
it makes of them. -/
structure Steady (e : Engine (Store × τ)) : Prop where
  separate : e.Separate
  objects : ∀ r : ObjectReconciler (Store × τ), r.toReconciler ∈ e.reconcilers → ∀ c ∈ e.components,
    r.kinds.contains c.kind = true → ∀ v, c.object = some v → v.Steady r.config c
  halves : ∀ c ∈ e.components, ∀ source deployment, FluxReconciler.pair c = .ok (source, deployment) →
    source.storeKey ≠ deployment.storeKey

variable {e : Engine (Store × τ)}

theorem Steady.settles_route (h : e.Steady) {c : Component (Store × τ)} (hc : c ∈ e.components) {r : Reconciler (Store × τ)}
    (hroute : e.route c.kind = .ok r) : r.Settles c := by
  have candid := h.separate.candid c hc
  obtain ⟨hmem, hclaims⟩ := mem_of_route hroute
  obtain ⟨o, ho, rfl⟩ | ⟨f, hf, rfl⟩ := h.separate.onStore.reconcilers r hmem
  · rw [ObjectReconciler.claims_toReconciler] at hclaims
    exact ObjectReconciler.settles ho candid (h.objects o hmem c hc hclaims)
  · exact FluxReconciler.settles hf candid (h.halves c hc)

/-- A turn that is taken again changes nothing. -/
theorem Steady.settles_converge (h : e.Steady) {c : Component (Store × τ)} (hc : c ∈ e.components) : Settles (e.converge c) := by
  have hlocal := h.separate.onStore.local_converge (h.separate.candid c hc)
  have hturns := converge_turns e c
  cases hroute : e.route c.kind with
  | error message =>
    refine .of_still fun s x => ?_
    unfold converge
    rw [hroute]
    rfl
  | ok r =>
    have hr := h.settles_route hc hroute
    have ha : Settles (if c.enabled then r.install c else r.uninstall c).run := by
      split
      · exact hr.install
      · exact hr.uninstall
    refine .of_either hlocal ha fun p => ?_
    have hturn := hturns p
    generalize ((e.converge c).run p).1 = ending at hturn
    generalize ((e.converge c).run p).2 = p' at hturn ⊢
    cases hturn with
    | unrouted route => cases hroute.symm.trans route
    | routed route drive =>
      obtain rfl := Except.ok.inj (hroute.symm.trans route)
      rcases drive.either hr (h.separate.candid c hc) with hsame | hdone
      · exact .inl (congrArg Prod.fst hsame)
      · exact .inr (congrArg Prod.fst hdone)

/-! ## Passes -/

/-- Turns that change nothing one by one change nothing. -/
theorem OnStore.turns_still (h : e.OnStore) {cs : List (Component (Store × τ))} {s : Store}
    (still : ∀ c ∈ cs, ∀ x, ((e.converge c).run (s, x)).2.1 = s) (x : τ) : ((e.turns cs).run (s, x)).2.1 = s := by
  refine turns_induction (P := fun p => p.1 = s) e cs (fun c hc p hp => ?_) (s, x) rfl
  obtain ⟨t, y⟩ := p
  obtain rfl : t = s := hp
  exact (h.turn_eq c (t, y)).2.trans (still c hc y)

/-- After a pass every turn changes nothing. -/
theorem Steady.still (h : e.Steady) {s : Store} (hs : s.Ordered) (x : τ) {c : Component (Store × τ)} (hc : c ∈ e.components)
    (y : τ) : ((e.converge c).run ((e.reconcile.run (s, x)).2.1, y)).2.1 = (e.reconcile.run (s, x)).2.1 := by
  obtain ⟨honStore, candid, apart⟩ := h.separate
  obtain ⟨-, hstores, -⟩ := honStore.turns_alone candid apart (fun d _ => .refl d.Holds s) x x
  exact (honStore.local_converge (candid c hc)).still (hstores c hc) ((h.settles_converge hc).again x y hs)

end Engine

/-! ## Passes that note what they publish -/

namespace Engine

variable {e : Engine (Store × List Event)}

/-- What is published is noted beside the store. -/
def Notes (e : Engine (Store × List Event)) : Prop :=
  ∀ event s events, (e.publish event).run (s, events) = ((), s, events ++ [event])

theorem Notes.turns (h : e.Notes) {cs : List (Component (Store × List Event))}
    (hlocal : ∀ c ∈ cs, Local c.Holds (e.converge c)) (s : Store) (events : List Event) :
    ((e.turns cs).run (s, events)).2.2 =
      events ++ ((e.turns cs).run (s, events)).1.filterMap (·.event? e.config.eventAction) :=
  turns_logged (fun event p => congrArg (fun q => q.2.2) (h event p.1 p.2))
    (fun c hc p => (hlocal c hc).beside p.1 p.2) (s, events)

/-- **One pass settles everything.** Whatever the first pass went through, from the second one on nothing is written, and all
passes have the same outcomes and publish the same events. -/
theorem reconcile_settles (h : e.Steady) (notes : e.Notes) {s : Store} (hs : s.Ordered) (events : List Event) :
    ∃ first s' events' again published,
      e.reconcile.run (s, events) = (first, s', events') ∧
      e.reconcile.run (s', events') = (again, s', events' ++ published) ∧
      e.reconcile.run (s', events' ++ published) = (again, s', events' ++ published ++ published) := by
  obtain ⟨honStore, candid, apart⟩ := h.separate
  have hlocal : ∀ c ∈ e.components, Local c.Holds (e.converge c) := fun c hc => honStore.local_converge (candid c hc)
  obtain ⟨first, s', events', hfirst⟩ : ∃ first s' events', e.reconcile.run (s, events) = (first, s', events') := ⟨_, _, _, rfl⟩
  have hstill : ∀ c ∈ e.components, ∀ x, ((e.converge c).run (s', x)).2.1 = s' := by
    intro c hc x
    have hc' := h.still hs events hc x
    rw [hfirst] at hc'
    exact hc'
  -- a pass from there on, wherever the notes begin
  have hpass : ∀ x, e.reconcile.run (s', x) =
      (((e.turns e.components).run (s', events')).1, s',
        x ++ ((e.turns e.components).run (s', events')).1.filterMap (·.event? e.config.eventAction)) := by
    intro x
    have hsame : ((e.turns e.components).run (s', x)).1 = ((e.turns e.components).run (s', events')).1 := by
      rw [(honStore.turns_alone candid apart (fun d _ => .refl d.Holds s') x events').1,
        (honStore.turns_alone candid apart (fun d _ => .refl d.Holds s') events' events').1]
    have hnotes := Notes.turns notes hlocal s' x
    rw [hsame] at hnotes
    exact Prod.ext hsame (Prod.ext (honStore.turns_still hstill x) hnotes)
  exact ⟨first, s', events', _, _, hfirst, hpass events', hpass _⟩

end Engine

namespace Sample

/-- The credentials and the site, where what is published is noted. -/
def noted : Engine (Store × List Event) :=
  { platform [secret, site] with publish := fun event => modify fun p => (p.1, p.2 ++ [event]) }

theorem secret_steady {τ : Type} (config : Config) :
    ObjectView.Steady config (secret (τ := τ)) ⟨.ok creds, .ok, fun _ => .good⟩ := by
  refine ⟨fun o d ho hd => ?_, fun o d ho hd => ?_, fun o d ho hd => ?_⟩
  all_goals obtain rfl : Ownership.stamp config secret o = d := Except.ok.inj hd
  · exact congrArg Except.ok (Ownership.stamp_stamp config secret o)
  · rfl
  · exact ho

theorem noted_steady : noted.Steady := by
  refine ⟨⟨⟨(platform_onStore []).reconcilers, fun _ _ => rfl⟩, platform_separate.candid, platform_separate.apart⟩, ?_, ?_⟩
  · intro r _ c hc _ v hv
    rcases List.mem_cons.1 hc with rfl | hc
    · obtain rfl := Option.some.inj hv
      exact secret_steady r.config
    · obtain rfl := List.mem_singleton.1 hc
      cases hv
  · intro c hc source deployment hpair
    rcases List.mem_cons.1 hc with rfl | hc
    · cases hpair
    · obtain rfl := List.mem_singleton.1 hc
      obtain ⟨rfl, rfl⟩ := Prod.mk.inj (Except.ok.inj hpair)
      decide

/-- The platform is installed by the first of three passes. -/
theorem reconcile_settles_noted : ∃ first s events again published,
    noted.reconcile.run ({}, []) = (first, s, events) ∧ noted.reconcile.run (s, events) = (again, s, events ++ published) ∧
      noted.reconcile.run (s, events ++ published) = (again, s, events ++ published ++ published) := by
  have ordered : Store.Ordered {} := by
    intro k o ho
    rw [show ({} : Store).objects.get? k = none from rfl] at ho
    cases ho
  exact Engine.reconcile_settles noted_steady (fun _ _ _ => rfl) ordered []

end Sample

end Converge
