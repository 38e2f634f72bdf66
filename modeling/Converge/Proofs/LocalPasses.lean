import Converge.Proofs.FluxResults
import Converge.Proofs.LocalTurns
import Converge.Proofs.Sweeps

/-!
# Passes over components that own different objects

* `Engine.brief` : all that a turn gets to know of the first component of a kind. `Engine.converge_congr`: turns depend on
  the registered components through nothing else.
* `Engine.OnStore.turns_alone`: a pass treats every component as if its turn were the only one.
* `Engine.OnStore.turns_perm`: the order of the turns does not matter to the store.
* `Engine.reconcile_local`: what a component's result and its objects depend on, and what follows for engines with other
  components.
-/

namespace Converge

set_option autoImplicit false

namespace Engine

/-! ## What a turn gets to know of other components -/

section
variable {σ : Type}

/-- Whether the first component of a kind is wanted, and its name. -/
def brief (cs : List (Component σ)) (kind : ComponentKind) : Option (Bool × String) :=
  (firstOf cs kind).map fun c => (c.enabled, c.name)

variable {cs ds : List (Component σ)} {kind : ComponentKind}

theorem dependencyFault_congr (h : brief cs kind = brief ds kind) : dependencyFault cs kind = dependencyFault ds kind := by
  unfold brief at h
  unfold dependencyFault
  cases hc : firstOf cs kind with
  | none =>
    cases hd : firstOf ds kind with
    | none => rfl
    | some d =>
      rw [hc, hd] at h
      cases h
  | some c =>
    cases hd : firstOf ds kind with
    | none =>
      rw [hc, hd] at h
      cases h
    | some d =>
      rw [hc, hd] at h
      obtain ⟨henabled, hname⟩ := Prod.mk.inj (Option.some.inj h)
      dsimp only
      rw [henabled, hname]

theorem findSome?_dependencyFault_congr {kinds : List ComponentKind} (h : ∀ kind ∈ kinds, brief cs kind = brief ds kind) :
    kinds.findSome? (dependencyFault cs) = kinds.findSome? (dependencyFault ds) := by
  induction kinds with
  | nil => rfl
  | cons kind kinds ih =>
    rw [List.findSome?_cons, List.findSome?_cons, dependencyFault_congr (h kind List.mem_cons_self),
      ih fun other hother => h other (List.mem_cons_of_mem _ hother)]

/-- A turn depends on nothing but the reconcilers, the configuration and the briefs of what its component needs. -/
theorem converge_congr {e e' : Engine σ} (reconcilers : e'.reconcilers = e.reconcilers) (config : e'.config = e.config)
    {c : Component σ} (briefs : ∀ kind ∈ c.dependencies, brief e'.components kind = brief e.components kind) :
    e'.converge c = e.converge c := by
  have hroute : e'.route c.kind = e.route c.kind := by
    unfold route claimants
    rw [reconcilers]
  unfold converge drive
  rw [hroute, config, findSome?_dependencyFault_congr briefs]

/-- The order within each kind decides which component is the first. -/
theorem brief_of_filter (h : ds.filter (·.kind == kind) = cs.filter (·.kind == kind)) : brief ds kind = brief cs kind := by
  unfold brief firstOf
  rw [← List.head?_filter, ← List.head?_filter, h]

/-- A component in place of another of the same kind, name and wantedness is as good as that one. -/
theorem brief_set {n : Nat} {c c' : Component σ} (hc : cs[n]? = some c) (samekind : c'.kind = c.kind)
    (samename : c'.name = c.name) (sameenabled : c'.enabled = c.enabled) (kind : ComponentKind) :
    brief (cs.set n c') kind = brief cs kind := by
  unfold brief firstOf
  induction cs generalizing n with
  | nil => rfl
  | cons d cs ih =>
    cases n with
    | zero =>
      obtain rfl : d = c := Option.some.inj hc
      rw [List.set_cons_zero, List.find?_cons, List.find?_cons, samekind]
      split
      · rw [Option.map_some, Option.map_some, samename, sameenabled]
      · rfl
    | succ n =>
      rw [List.set_cons_succ, List.find?_cons, List.find?_cons]
      split
      · rfl
      · exact ih hc

end

/-! ## Turns that leave each other alone -/

variable {τ : Type} {e e' : Engine (Store × τ)} {cs ds : List (Component (Store × τ))}

open Store (Agree Frame)

namespace OnStore
variable (h : e.OnStore)
include h

/-- Publishing is all that a turn does besides. -/
theorem turn_eq (c : Component (Store × τ)) (p : Store × τ) :
    ((e.turn c).run p).1 = outcomeOf c ((e.converge c).run p).1 ∧ ((e.turn c).run p).2.1 = ((e.converge c).run p).2.1 := by
  rw [turn_run]
  refine ⟨rfl, ?_⟩
  unfold announce
  cases (outcomeOf c ((e.converge c).run p).1).event? e.config.eventAction with
  | none => rfl
  | some event => exact h.publish event _

/-- **Every component fares as if its turn were the only one**, in any store that holds the same of its objects. -/
theorem turns_alone (candid : ∀ c ∈ cs, c.Candid) (apart : Component.Apart cs) {s t : Store}
    (agree : ∀ c ∈ cs, Agree c.Holds s t) (x y : τ) :
    ((e.turns cs).run (s, x)).1 = cs.map (fun c => outcomeOf c ((e.converge c).run (t, y)).1) ∧
      (∀ c ∈ cs, Agree c.Holds ((e.turns cs).run (s, x)).2.1 ((e.converge c).run (t, y)).2.1) ∧
      Frame s ((e.turns cs).run (s, x)).2.1 fun k => ∃ c ∈ cs, c.Holds k := by
  induction cs generalizing s x with
  | nil => exact ⟨rfl, fun c hc => absurd hc List.not_mem_nil, .refl s _⟩
  | cons c cs ih =>
    obtain ⟨hlater, hapart⟩ := List.pairwise_cons.1 apart
    have hlocal := h.local_converge (candid c List.mem_cons_self)
    have hc := agree c List.mem_cons_self
    obtain ⟨houtcome, hstore⟩ := h.turn_eq c (s, x)
    obtain ⟨s₁, x₁, hs₁⟩ : ∃ s₁ x₁, ((e.turn c).run (s, x)).2 = (s₁, x₁) := ⟨_, _, rfl⟩
    have hframe : Frame s s₁ c.Holds := by
      have hmine := hlocal.frame s x
      rw [← hstore, hs₁] at hmine
      exact hmine
    have hmine : Agree c.Holds s₁ ((e.converge c).run (t, y)).2.1 := by
      have hecho := (hlocal.echo x y hc).agree
      rw [← hstore, hs₁] at hecho
      exact hecho
    -- the first turn leaves the objects of the others alone, and they leave those of the first
    have hothers : ∀ d ∈ cs, Agree d.Holds s₁ t := by
      intro d hd
      have hsame : Agree d.Holds s₁ s := hframe.agree fun k hk hck => hlater d hd k hck hk
      exact hsame.trans (agree d (List.mem_cons_of_mem _ hd))
    obtain ⟨houtcomes, hstores, hrest⟩ := ih (fun d hd => candid d (List.mem_cons_of_mem _ hd)) hapart hothers x₁
    rw [turns_cons_run, hs₁]
    refine ⟨?_, ?_, ?_⟩
    · rw [List.map_cons, houtcomes, houtcome, hlocal.answer x y hc]
    · intro d hd
      rcases List.mem_cons.1 hd with rfl | hd
      · refine Agree.trans (hrest.agree fun k hk hother => ?_) hmine
        obtain ⟨d', hd', hk'⟩ := hother
        exact hlater d' hd' k hk hk'
      · exact hstores d hd
    · refine (hframe.mono fun k hk => ⟨c, List.mem_cons_self, hk⟩).trans (hrest.mono ?_)
      rintro k ⟨d, hd, hk⟩
      exact ⟨d, List.mem_cons_of_mem _ hd, hk⟩

/-- What is beside the store does not matter to it, nor who publishes what. -/
theorem turn_store (h' : e'.OnStore) {c : Component (Store × τ)} (hc : c.Candid) (same : e'.converge c = e.converge c)
    {p q : Store × τ} (hpq : p.1 = q.1) : ((e'.turn c).run p).2.1 = ((e.turn c).run q).2.1 := by
  obtain ⟨s, x⟩ := p
  obtain ⟨t, y⟩ := q
  obtain rfl : s = t := hpq
  rw [(h'.turn_eq c _).2, (h.turn_eq c _).2, same]
  exact (h.local_converge hc).store_eq s x y

theorem turns_store (h' : e'.OnStore) (candid : ∀ c ∈ cs, c.Candid) (same : ∀ c ∈ cs, e'.converge c = e.converge c)
    {p q : Store × τ} (hpq : p.1 = q.1) : ((e'.turns cs).run p).2.1 = ((e.turns cs).run q).2.1 := by
  induction cs generalizing p q with
  | nil => exact hpq
  | cons c cs ih =>
    have hfirst := h.turn_store h' (candid c List.mem_cons_self) (same c List.mem_cons_self) hpq
    rw [turns_cons_run, turns_cons_run]
    exact ih (fun d hd => candid d (List.mem_cons_of_mem _ hd)) (fun d hd => same d (List.mem_cons_of_mem _ hd)) hfirst

/-- **The order of the turns does not matter to the store**, nor to its counts. -/
theorem turns_perm (hperm : ds.Perm cs) (candid : ∀ c ∈ cs, c.Candid) (apart : Component.Apart cs) {p q : Store × τ}
    (hpq : p.1 = q.1) : ((e.turns ds).run p).2.1 = ((e.turns cs).run q).2.1 := by
  induction hperm generalizing p q with
  | nil => exact hpq
  | @cons c ds cs _ ih =>
    obtain ⟨-, hapart⟩ := List.pairwise_cons.1 apart
    rw [turns_cons_run, turns_cons_run]
    exact ih (fun d hd => candid d (List.mem_cons_of_mem _ hd)) hapart (h.turn_store h (candid c List.mem_cons_self) rfl hpq)
  | swap d c cs =>
    obtain ⟨hfirst, -⟩ := List.pairwise_cons.1 apart
    have hd := h.local_converge (candid d List.mem_cons_self)
    have hc := h.local_converge (candid c (List.mem_cons_of_mem _ List.mem_cons_self))
    have hrest : ∀ b ∈ cs, b.Candid := fun b hb => candid b (List.mem_cons_of_mem _ (List.mem_cons_of_mem _ hb))
    obtain ⟨s, x⟩ := p
    obtain ⟨t, y⟩ := q
    obtain rfl : s = t := hpq
    rw [turns_cons_run, turns_cons_run, turns_cons_run, turns_cons_run]
    refine h.turns_store h hrest (fun _ _ => rfl) ?_
    rw [(h.turn_eq d _).2, (h.turn_eq c _).2]
    refine hc.comm hd (fun k hk hk' => hfirst c List.mem_cons_self k hk' hk) (p := (s, x)) (q := (s, y)) rfl ?_ ?_
    · exact (h.turn_eq c (s, x)).2
    · exact (h.turn_eq d (s, y)).2
  | @trans ds es cs hde hec ih ih' =>
    have hcandid : ∀ c ∈ es, c.Candid := fun c hmem => candid c (hec.subset hmem)
    exact (ih hcandid (apart.perm hec) hpq).trans (ih' candid apart rfl)

end OnStore

/-! ## What a component's result and its objects depend on -/

/-- The reconcilers work on the store, and the components are candid and own different objects. -/
structure Separate (e : Engine (Store × τ)) : Prop where
  onStore : e.OnStore
  candid : ∀ c ∈ e.components, c.Candid
  apart : Component.Apart e.components

/-- At the places `n` and `n'` of two passes the same component came to the same result, and has the same objects in the end. -/
def SameFor (c : Component (Store × τ)) (n n' : Nat) (p p' : List (Outcome (Store × τ)) × Store × τ) : Prop :=
  (∃ ending, p.1[n]? = some (outcomeOf c ending) ∧ p'.1[n']? = some (outcomeOf c ending)) ∧
    ∀ k, c.Holds k → p'.2.1.objects.get? k = p.2.1.objects.get? k

theorem Separate.sameFor (h : e.Separate) (h' : e'.Separate) {c : Component (Store × τ)} (same : e'.converge c = e.converge c)
    {n n' : Nat} (hc : e.components[n]? = some c) (hc' : e'.components[n']? = some c) {s s' : Store} (agree : Agree c.Holds s' s)
    (x x' : τ) : SameFor c n n' (e.reconcile.run (s, x)) (e'.reconcile.run (s', x')) := by
  have hmem := List.mem_of_getElem? hc
  have hlocal := h.onStore.local_converge (h.candid c hmem)
  obtain ⟨houtcomes, hstores, -⟩ := h.onStore.turns_alone h.candid h.apart (fun d _ => .refl d.Holds s) x x
  obtain ⟨houtcomes', hstores', -⟩ := h'.onStore.turns_alone h'.candid h'.apart (fun d _ => .refl d.Holds s') x' x'
  have hstore := hstores c hmem
  have hstore' := hstores' c (List.mem_of_getElem? hc')
  rw [same] at hstore'
  refine ⟨⟨((e.converge c).run (s, x)).1, ?_, ?_⟩, fun k hk => ?_⟩
  · show ((e.turns e.components).run (s, x)).1[n]? = _
    rw [houtcomes, List.getElem?_map, hc]
    rfl
  · show ((e'.turns e'.components).run (s', x')).1[n']? = _
    rw [houtcomes', List.getElem?_map, hc', ← hlocal.answer x' x agree, ← same]
    rfl
  · exact (hstore'.entry k hk).trans (((hlocal.echo x' x agree).agree.entry k hk).trans (hstore.entry k hk).symm)

/-- **A pass is local, and its order does not matter.** What a component comes to, and its objects, are determined by what
the store held of them and by the briefs of what it needs. So components may change places between those of other kinds, and
one may give way to another of the same kind, name and wantedness, whatever that one does to its own objects. -/
theorem reconcile_local (h : e.Separate) (h' : e'.Separate) (reconcilers : e'.reconcilers = e.reconcilers)
    (config : e'.config = e.config) :
    (∀ (s s' : Store) (x x' : τ) (n n' : Nat) (c : Component (Store × τ)), e.components[n]? = some c →
      e'.components[n']? = some c → (∀ kind ∈ c.dependencies, brief e'.components kind = brief e.components kind) →
      Agree c.Holds s' s → SameFor c n n' (e.reconcile.run (s, x)) (e'.reconcile.run (s', x'))) ∧
    (e'.components.Perm e.components →
      (∀ kind, e'.components.filter (·.kind == kind) = e.components.filter (·.kind == kind)) → ∀ (s : Store) (x x' : τ),
        (∃ result : Component (Store × τ) → Ending,
          (e.reconcile.run (s, x)).1 = e.components.map (fun c => outcomeOf c (result c)) ∧
          (e'.reconcile.run (s, x')).1 = e'.components.map (fun c => outcomeOf c (result c))) ∧
        (e'.reconcile.run (s, x')).2.1 = (e.reconcile.run (s, x)).2.1) ∧
    (∀ (n : Nat) (c c' : Component (Store × τ)), e.components[n]? = some c → e'.components = e.components.set n c' →
      c'.kind = c.kind → c'.name = c.name → c'.enabled = c.enabled →
      ∀ (s : Store) (x x' : τ) (m : Nat) (d : Component (Store × τ)), m ≠ n → e.components[m]? = some d →
        SameFor d m m (e.reconcile.run (s, x)) (e'.reconcile.run (s, x'))) := by
  refine ⟨?_, ?_, ?_⟩
  · intro s s' x x' n n' c hc hc' briefs agree
    exact h.sameFor h' (converge_congr reconcilers config briefs) hc hc' agree x x'
  · intro hperm horder s x x'
    have same : ∀ c, e'.converge c = e.converge c := fun c =>
      converge_congr reconcilers config fun kind _ => brief_of_filter (horder kind)
    refine ⟨⟨fun c => ((e.converge c).run (s, x)).1, ?_, ?_⟩, ?_⟩
    · exact (h.onStore.turns_alone h.candid h.apart (fun d _ => .refl d.Holds s) x x).1
    · have houtcomes := (h'.onStore.turns_alone h'.candid h'.apart (fun d _ => .refl d.Holds s) x' x).1
      simp only [same] at houtcomes
      exact houtcomes
    · have hstore : ((e'.turns e'.components).run (s, x')).2.1 = ((e.turns e'.components).run (s, x)).2.1 :=
        h.onStore.turns_store h'.onStore h'.candid (fun c _ => same c) rfl
      exact hstore.trans (h.onStore.turns_perm hperm h.candid h.apart rfl)
  · intro n c c' hc hset samekind samename sameenabled s x x' m d hne hd
    have hd' : e'.components[m]? = some d := by
      rw [hset, List.getElem?_set_ne hne.symm]
      exact hd
    have briefs : ∀ kind ∈ d.dependencies, brief e'.components kind = brief e.components kind := by
      intro kind _
      rw [hset]
      exact brief_set hc samekind samename sameenabled kind
    exact h.sameFor h' (converge_congr reconcilers config briefs) hd hd' (.refl _ s) x x'

end Engine

namespace Sample

variable {τ : Type}

/-- The credentials, as a component. -/
def secret : Component (Store × τ) where
  name := "Creds"
  kind := "Secret"
  enabled := true
  object := some { identity := .ok creds, shape := .ok, health := fun _ => .good }

def deployed : Flux.Manifest where
  kind := .kustomization
  item := { metadata := { name := some "web", ns? := some "apps" } }

/-- The repository and what is deployed from it, as a component. -/
def site : Component (Store × τ) where
  name := "Site"
  kind := "Site"
  enabled := true
  flux := some { source := .ok repository, deployment := .ok deployed }

def platform (components : List (Component (Store × τ))) : Engine (Store × τ) where
  config := {}
  components
  reconcilers := [
    (ObjectReconciler.mk (Store.client.beside τ) {} .empty |>.withKind "Secret").toReconciler,
    (FluxReconciler.managed (Store.client.beside τ) {} |>.withKind "Site").toReconciler]

theorem platform_onStore (cs : List (Component (Store × τ))) : (platform cs).OnStore := by
  refine ⟨?_, fun _ _ => rfl⟩
  intro r hr
  rcases List.mem_cons.1 hr with rfl | hr
  · exact .inl ⟨_, rfl, rfl⟩
  · obtain rfl := List.mem_singleton.1 hr
    exact .inr ⟨_, rfl, rfl⟩

theorem secret_candid : (secret (τ := τ)).Candid := ⟨fun phase => by cases phase <;> rfl, _, fun _ => rfl⟩

theorem site_candid : (site (τ := τ)).Candid := ⟨fun phase => by cases phase <;> rfl, _, fun _ => rfl⟩

theorem holds_secret {k : StoreKey} (hk : (secret (τ := τ)).Holds k) : k = creds.storeKey := by
  rcases hk with ⟨i, hi, rfl⟩ | ⟨source, deployment, hpair, -⟩
  · rw [← Option.some.inj hi]
  · cases hpair

theorem holds_site {k : StoreKey} (hk : (site (τ := τ)).Holds k) : k = repository.storeKey ∨ k = deployed.storeKey := by
  rcases hk with ⟨i, hi, -⟩ | ⟨source, deployment, hpair, hk⟩
  · cases hi
  · obtain ⟨rfl, rfl⟩ := Prod.mk.inj (Except.ok.inj hpair)
    exact hk

theorem platform_separate : (platform (τ := τ) [secret, site]).Separate := by
  refine ⟨platform_onStore _, ?_, ?_⟩
  · intro c hc
    rcases List.mem_cons.1 hc with rfl | hc
    · exact secret_candid
    · obtain rfl := List.mem_singleton.1 hc
      exact site_candid
  · refine List.pairwise_cons.2 ⟨fun c hc k hsecret hsite => ?_, List.pairwise_singleton ..⟩
    obtain rfl := List.mem_singleton.1 hc
    obtain rfl := holds_secret hsecret
    rcases holds_site hsite with hk | hk <;> revert hk <;> decide

/-- Credentials and a site are installed alike in either order. -/
theorem reconcile_local_swapped : ((platform [site, secret]).reconcile.run ({}, ())).2.1 =
    ((platform [secret, site]).reconcile.run ({}, ())).2.1 ∧
      ((platform [secret, site]).reconcile.run ({}, ())).2.1.creates = 3 := by
  have hswap : [site, secret].Perm ([secret, site] : List (Component (Store × Unit))) := .swap ..
  have hseparate : (platform (τ := Unit) [site, secret]).Separate :=
    ⟨platform_onStore _, fun c hc => platform_separate.candid c (hswap.subset hc), platform_separate.apart.perm hswap⟩
  obtain ⟨-, hperm, -⟩ := Engine.reconcile_local platform_separate hseparate rfl rfl
  have horder : ∀ kind, [site, secret].filter (·.kind == kind) =
      ([secret, site] : List (Component (Store × Unit))).filter (·.kind == kind) := by
    intro kind
    by_cases hkind : "Site" = kind
    · subst hkind
      rfl
    · have hsite : ((site : Component (Store × Unit)).kind == kind) = false := beq_false_of_ne hkind
      simp [List.filter_cons, hsite]
  exact ⟨(hperm hswap horder {} () ()).2, by decide +kernel⟩

end Sample

end Converge
