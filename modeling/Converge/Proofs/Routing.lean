import Converge.Proofs.Sweeps
import Mathlib.Data.List.Count
import Mathlib.Data.List.Nodup

/-!
# Routing by the number of claims

Claims are counted twice: kind by kind over all registrations, and reconciler by reconciler for the kind of one component.

* `get?_claimCounts`: the count of a kind is the number of the registrations that claim it. `mem_ambiguousKinds_iff`: a kind is
  ambiguous iff two claim it. `route_eq`: a route hangs on the same number.
* `Drives.ne_reconcilerNotFound`: no turn that is routed ends as one that is not.
* `claimCounts_perm`, `route_perm`, `reconcile_congr`: the order of the registrations counts for none of this.
* `RoutesByClaims` : how the registrations decide the turns of a pass; `routes_by_claims`: they do.
-/

namespace Converge

set_option autoImplicit false

variable {σ : Type}

namespace Engine

/-! ## Two counts -/

/-- Counting keys one after the other comes to counting each key. -/
theorem get?_foldl_count (ks : List ComponentKind) (m : SortedMap ComponentKind Nat) (k : ComponentKind) :
    (ks.foldl (fun counts k => counts.insert k ((counts.get? k).getD 0 + 1)) m).get? k =
      if k ∈ ks then some ((m.get? k).getD 0 + ks.count k) else m.get? k := by
  induction ks generalizing m with
  | nil => rfl
  | cons k' ks ih =>
    rw [List.foldl_cons, ih]
    by_cases hk : k = k'
    · subst hk
      rw [SortedMap.get?_insert_self, Option.getD_some, List.count_cons_self, if_pos List.mem_cons_self]
      split
      · rw [Nat.add_assoc, Nat.add_comm 1]
      · rename_i hnot
        rw [List.count_eq_zero.mpr hnot]
    · rw [SortedMap.get?_insert_of_ne _ hk, List.count_cons_of_ne (Ne.symm hk)]
      simp only [List.mem_cons, hk, false_or]

theorem claims_iff {r : Reconciler σ} {kind : ComponentKind} : r.claims kind = true ↔ kind ∈ r.kinds.keys := by
  unfold Reconciler.claims SortedMap.contains SortedMap.keys
  rw [Option.isSome_iff_ne_none, Ne, SortedMap.get?, Assoc.get?_eq_none_iff, Classical.not_not]

/-- A reconciler names a kind once, or not at all. -/
theorem count_keys (r : Reconciler σ) (kind : ComponentKind) :
    r.kinds.keys.count kind = if r.claims kind then 1 else 0 := by
  rw [r.kinds.nodup_keys.count]
  simp only [claims_iff]

theorem count_flatMap_keys (rs : List (Reconciler σ)) (kind : ComponentKind) :
    (rs.flatMap (·.kinds.keys)).count kind = rs.countP (·.claims kind) := by
  induction rs with
  | nil => rfl
  | cons r rs ih => rw [List.flatMap_cons, List.count_append, ih, count_keys, List.countP_cons, Nat.add_comm]

/-- **Both counts agree**: the count of a kind is the number of the registrations that claim it. -/
theorem get?_claimCounts (e : Engine σ) (kind : ComponentKind) : e.claimCounts.get? kind =
    if e.reconcilers.countP (·.claims kind) = 0 then none else some (e.reconcilers.countP (·.claims kind)) := by
  unfold claimCounts
  rw [get?_foldl_count, SortedMap.get?_empty, Option.getD_none, Nat.zero_add, count_flatMap_keys]
  have there : kind ∈ e.reconcilers.flatMap (·.kinds.keys) ↔ e.reconcilers.countP (·.claims kind) ≠ 0 := by
    rw [← count_flatMap_keys, Ne, List.count_eq_zero, Classical.not_not]
  simp only [there, ite_not]

theorem mem_ambiguousKinds_iff {e : Engine σ} {kind : ComponentKind} :
    kind ∈ e.ambiguousKinds ↔ 2 ≤ e.reconcilers.countP (·.claims kind) := by
  have counted : kind ∈ e.ambiguousKinds ↔ ∃ n, e.claimCounts.get? kind = some n ∧ 1 < n := by
    unfold ambiguousKinds
    simp only [List.mem_map, List.mem_filter, decide_eq_true_eq]
    constructor
    · rintro ⟨⟨kind, n⟩, ⟨hn, many⟩, rfl⟩
      exact ⟨n, (e.claimCounts.mem_entries_iff kind n).mp hn, many⟩
    · rintro ⟨n, hn, many⟩
      exact ⟨(kind, n), ⟨(e.claimCounts.mem_entries_iff kind n).mpr hn, many⟩, rfl⟩
  rw [counted, get?_claimCounts]
  split
  · rename_i none
    rw [none]
    simp only [reduceCtorEq, false_and, exists_false, Nat.not_le_of_lt Nat.two_pos]
  · simp only [Option.some.injEq, exists_eq_left']
    exact Iff.rfl

/-- Why there is no route, by the number of claims. -/
def unrouted (kind : ComponentKind) (claims : Nat) : String :=
  if claims = 0 then "no reconciler registered for kind " ++ kind
  else "ambiguous reconciler for kind " ++ kind ++ ": claimed by " ++ toString claims ++ " reconcilers"

theorem route_eq (e : Engine σ) (kind : ComponentKind) : e.route kind =
    match e.claimants kind with
    | [r] => .ok r
    | rs => .error (unrouted kind rs.length) := by
  unfold route
  rcases e.claimants kind with _ | ⟨r, _ | ⟨r', rs⟩⟩ <;> rfl

theorem route_of_countP_ne {e : Engine σ} {kind : ComponentKind} (h : e.reconcilers.countP (·.claims kind) ≠ 1) :
    e.route kind = .error (unrouted kind (e.reconcilers.countP (·.claims kind))) := by
  rw [← length_claimants] at h ⊢
  rw [route_eq]
  split
  · rename_i one
    rw [one] at h
    exact absurd rfl h
  · rfl

theorem countP_eq_zero_iff {rs : List (Reconciler σ)} {kind : ComponentKind} :
    rs.countP (·.claims kind) = 0 ↔ ∀ r ∈ rs, r.claims kind = false := by
  simp only [List.countP_eq_zero, Bool.not_eq_true]

/-- Not exactly one claims a kind: two do, or none. -/
theorem countP_ne_one_iff {e : Engine σ} {kind : ComponentKind} : e.reconcilers.countP (·.claims kind) ≠ 1 ↔
    kind ∈ e.ambiguousKinds ∨ ∀ r ∈ e.reconcilers, r.claims kind = false := by
  rw [mem_ambiguousKinds_iff, ← countP_eq_zero_iff]
  omega

/-! ## Turns that are routed -/

section
variable {config : Config} {registered : List (Component σ)} {r : Reconciler σ} {c : Component σ} {s s' : σ} {ending : Ending}

theorem Removes.ne_reconcilerNotFound (h : Removes config r c s ending s') : ending.1 ≠ .reconcilerNotFound := by
  cases h <;> exact nofun

theorem Installs.ne_reconcilerNotFound (h : Installs r c s ending s') : ending.1 ≠ .reconcilerNotFound := by
  cases h <;> exact nofun

theorem Updates.ne_reconcilerNotFound (h : Updates r c s ending s') : ending.1 ≠ .reconcilerNotFound := by
  cases h with
  | done => dsimp only; split <;> exact nofun
  | _ => exact nofun

/-- No turn that is routed ends as one that is not. -/
theorem Drives.ne_reconcilerNotFound (h : Drives config registered r c s ending s') : ending.1 ≠ .reconcilerNotFound := by
  cases h with
  | removes _ _ _ remove => exact remove.ne_reconcilerNotFound
  | installs _ _ _ install => exact install.ne_reconcilerNotFound
  | updates _ _ _ update => exact update.ne_reconcilerNotFound
  | _ => exact nofun

end

/-- Every outcome of a pass is that of a turn. -/
theorem exists_turn_of_mem {e : Engine σ} {cs : List (Component σ)} {s : σ} {o : Outcome σ} (h : o ∈ ((e.turns cs).run s).1) :
    ∃ c s', o = outcomeOf c ((e.converge c).run s').1 := by
  obtain ⟨n, hn⟩ := List.mem_iff_getElem?.mp h
  rw [getElem?_turns, Option.map_eq_some_iff] at hn
  obtain ⟨c, -, rfl⟩ := hn
  rw [turn_run]
  exact ⟨c, _, rfl⟩

/-! ## The order of the registrations -/

theorem claimCounts_perm {e e' : Engine σ} (h : e.reconcilers.Perm e'.reconcilers) : e.claimCounts = e'.claimCounts := by
  refine SortedMap.ext_get? fun kind => ?_
  rw [get?_claimCounts, get?_claimCounts, h.countP_eq]

theorem route_perm {e e' : Engine σ} (h : e.reconcilers.Perm e'.reconcilers) (kind : ComponentKind) :
    e.route kind = e'.route kind := by
  have claimants : (e.claimants kind).Perm (e'.claimants kind) := h.filter _
  by_cases one : e.reconcilers.countP (·.claims kind) = 1
  · rw [← length_claimants, List.length_eq_one_iff] at one
    obtain ⟨r, hr⟩ := one
    rw [hr] at claimants
    rw [route_eq_ok.mpr hr, route_eq_ok.mpr claimants.symm.eq_singleton]
  · rw [route_of_countP_ne one, h.countP_eq]
    rw [h.countP_eq] at one
    rw [route_of_countP_ne one]

/-- A pass hangs on the routes alone, not on the reconcilers besides. -/
theorem reconcile_congr {e : Engine σ} {rs : List (Reconciler σ)}
    (routes : ∀ kind, ({ e with reconcilers := rs } : Engine σ).route kind = e.route kind) :
    ({ e with reconcilers := rs } : Engine σ).reconcile = e.reconcile := by
  have converges : ∀ c, ({ e with reconcilers := rs } : Engine σ).converge c = e.converge c := by
    intro c
    unfold converge
    rw [routes c.kind]
  have turns : ∀ cs, ({ e with reconcilers := rs } : Engine σ).turns cs = e.turns cs := by
    intro cs
    induction cs with
    | nil => rfl
    | cons c cs ih =>
      unfold Engine.turns turn
      rw [ih, converges c]
  exact turns e.components

theorem foldl_registerReconciler (e : Engine σ) (rs : List (Reconciler σ)) :
    rs.foldl registerReconciler e = { e with reconcilers := e.reconcilers ++ rs } := by
  induction rs generalizing e with
  | nil => rw [List.append_nil]; rfl
  | cons r rs ih => rw [List.foldl_cons, ih, registerReconciler, List.append_assoc]; rfl

/-! ## Passes -/

/-- How the registrations of an engine decide the turns of its passes. -/
structure RoutesByClaims (e : Engine σ) (registered : List (Reconciler σ)) : Prop where
  ambiguous : ∀ kind, kind ∈ e.ambiguousKinds ↔ 2 ≤ registered.countP (·.claims kind)
  reported : ∀ s, (e.reconcile.run s).1.map (·.component) = e.components
  /-- There is no route iff two registrations claim the kind, or none. -/
  unrouted : ∀ s, ∀ o ∈ (e.reconcile.run s).1, o.status = .reconcilerNotFound ↔
    o.component.kind ∈ e.ambiguousKinds ∨ ∀ r ∈ registered, r.claims o.component.kind = false
  unclaimed : ∀ s, ∀ o ∈ (e.reconcile.run s).1, (∀ r ∈ registered, r.claims o.component.kind = false) →
    o.message = "no reconciler registered for kind " ++ o.component.kind
  contested : ∀ s, ∀ o ∈ (e.reconcile.run s).1, o.component.kind ∈ e.ambiguousKinds →
    o.message = "ambiguous reconciler for kind " ++ o.component.kind ++ ": claimed by " ++
      toString (registered.countP (·.claims o.component.kind)) ++ " reconcilers"
  /-- Any other component is driven by the one that claims its kind, from where the turns before it ended. -/
  driven : ∀ s n c, e.components[n]? = some c → c.kind ∉ e.ambiguousKinds → (∃ r ∈ registered, r.claims c.kind = true) →
    ∃ r ending s', registered.filter (·.claims c.kind) = [r] ∧
      Drives e.config e.components r c ((e.turns (e.components.take n)).run s).2 ending s' ∧
      (e.reconcile.run s).1[n]? = some (outcomeOf c ending)

/-- A turn goes to the one registration that claims the kind, or ends where it began. -/
theorem converge_by_claims (e : Engine σ) (c : Component σ) (s : σ) :
    (e.reconcilers.countP (·.claims c.kind) ≠ 1 ∧
      (e.converge c).run s = ((.reconcilerNotFound, unrouted c.kind (e.reconcilers.countP (·.claims c.kind))), s)) ∨
    ∃ r, e.reconcilers.filter (·.claims c.kind) = [r] ∧
      Drives e.config e.components r c s ((e.converge c).run s).1 ((e.converge c).run s).2 := by
  by_cases one : e.reconcilers.countP (·.claims c.kind) = 1
  · rw [← length_claimants, List.length_eq_one_iff] at one
    obtain ⟨r, hr⟩ := one
    rw [converge_run_routed (route_eq_ok.mpr hr)]
    exact .inr ⟨r, hr, drive_drives e.config e.components r c s⟩
  · refine .inl ⟨one, ?_⟩
    unfold converge
    rw [route_of_countP_ne one]
    rfl

theorem converge_reconcilerNotFound_iff {e : Engine σ} {c : Component σ} {s : σ} :
    ((e.converge c).run s).1.1 = .reconcilerNotFound ↔ e.reconcilers.countP (·.claims c.kind) ≠ 1 := by
  rcases converge_by_claims e c s with ⟨several, hend⟩ | ⟨r, hr, drive⟩
  · rw [hend]
    exact ⟨fun _ => several, fun _ => rfl⟩
  · have one : e.reconcilers.countP (·.claims c.kind) = 1 := by
      rw [List.countP_eq_length_filter, hr]
      rfl
    exact ⟨fun h => absurd h drive.ne_reconcilerNotFound, fun h => absurd one h⟩

theorem converge_message {e : Engine σ} {c : Component σ} (h : e.reconcilers.countP (·.claims c.kind) ≠ 1) (s : σ) :
    ((e.converge c).run s).1.2 = unrouted c.kind (e.reconcilers.countP (·.claims c.kind)) := by
  rcases converge_by_claims e c s with ⟨-, hend⟩ | ⟨r, hr, -⟩
  · rw [hend]
  · rw [List.countP_eq_length_filter, hr] at h
    exact absurd rfl h

theorem converge_unclaimed {e : Engine σ} {c : Component σ} (none : ∀ r ∈ e.reconcilers, r.claims c.kind = false) (s : σ) :
    ((e.converge c).run s).1.2 = "no reconciler registered for kind " ++ c.kind := by
  rw [converge_message (countP_ne_one_iff.mpr (.inr none)), countP_eq_zero_iff.mpr none]
  rfl

theorem converge_contested {e : Engine σ} {c : Component σ} (many : c.kind ∈ e.ambiguousKinds) (s : σ) :
    ((e.converge c).run s).1.2 = "ambiguous reconciler for kind " ++ c.kind ++ ": claimed by " ++
      toString (e.reconcilers.countP (·.claims c.kind)) ++ " reconcilers" := by
  have two : 2 ≤ e.reconcilers.countP (·.claims c.kind) := mem_ambiguousKinds_iff.mp many
  rw [converge_message (countP_ne_one_iff.mpr (.inl many)), unrouted, if_neg (by omega)]

/-- The registrations of an engine decide the turns of its passes. -/
theorem routesByClaims (e : Engine σ) : RoutesByClaims e e.reconcilers := by
  refine ⟨fun _ => mem_ambiguousKinds_iff, components_of_turns e e.components, ?unrouted, ?unclaimed, ?contested, ?driven⟩
  case unrouted =>
    intro s o ho
    obtain ⟨c, s', rfl⟩ := exists_turn_of_mem ho
    exact converge_reconcilerNotFound_iff.trans countP_ne_one_iff
  case unclaimed =>
    intro s o ho none
    obtain ⟨c, s', rfl⟩ := exists_turn_of_mem ho
    exact converge_unclaimed (c := c) none s'
  case contested =>
    intro s o ho many
    obtain ⟨c, s', rfl⟩ := exists_turn_of_mem ho
    exact converge_contested (c := c) many s'
  case driven =>
    intro s n c hc clear claimed
    rcases converge_by_claims e c ((e.turns (e.components.take n)).run s).2 with ⟨several, -⟩ | ⟨r, hr, drive⟩
    · obtain ⟨r, hm, hr⟩ := claimed
      rcases countP_ne_one_iff.mp several with many | none
      · exact absurd many clear
      · exact absurd hr (Bool.eq_false_iff.mp (none r hm))
    · refine ⟨r, _, _, hr, drive, ?_⟩
      show ((e.turns e.components).run s).1[n]? = _
      rw [getElem?_turns, hc, Option.map_some, turn_run]

end Engine

/-! ## A sample: three registrations, of two reconcilers -/

namespace Sample

/-- A reconciler of objects that claims some kinds. -/
def clerk (kinds : List ComponentKind) : Reconciler Store :=
  (kinds.foldl ObjectReconciler.withKind ⟨Store.client, {}, .empty⟩).toReconciler

/-- One of the reconcilers is registered twice. -/
def clerks : List (Reconciler Store) := [clerk ["New", "Old"], clerk ["New", "Lone"], clerk ["New", "Old"]]

def office : Engine Store where
  config := {}
  components := [component "New" (.ok creds), component "Lone" (.ok creds), component "Gone" (.ok creds)]

/-- A reconciler that is registered twice claims its kinds twice. -/
example : (clerks.foldl Engine.registerReconciler office).ambiguousKinds = ["New", "Old"] ∧
    ((clerks.foldl Engine.registerReconciler office).reconcile.run (store "New")).1.map (fun o => (o.status, o.message)) =
      [(.reconcilerNotFound, "ambiguous reconciler for kind New: claimed by 3 reconcilers"),
        (.healthy, ""),
        (.reconcilerNotFound, "no reconciler registered for kind Gone")] := by decide +kernel

end Sample

end Converge
