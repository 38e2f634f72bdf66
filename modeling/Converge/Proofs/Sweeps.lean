import Converge.Proofs.Orphans

/-!
# Passes that look for orphans first

* `Engine.sweep` registers what the detectors find and takes every turn; `Engine.swept` is the state after some of the
  turns.
* `standing_has_iff`: a component that is reported as present has its object when the pass ends, unless a detector of another
  kind found it when the pass began.
* `swept_loses_iff`: when a component cannot name its object, and which objects such a pass deletes.
-/

namespace Converge

set_option autoImplicit false

/-- No two of the components own the same object. -/
def Component.Distinct {σ : Type} (cs : List (Component σ)) : Prop := cs.Pairwise fun a b => a.sameObject b = false

theorem Component.Distinct.not_names {σ : Type} {cs : List (Component σ)} (h : Distinct cs) {n m : Nat} {c d : Component σ}
    (hc : cs[n]? = some c) (hd : cs[m]? = some d) (hnm : n ≠ m) {k : StoreKey} (hk : c.Names k) : ¬ d.Names k := by
  intro hdk
  obtain ⟨i, hi, rfl⟩ := hk
  obtain ⟨j, hj, hji⟩ := hdk
  obtain ⟨hn, rfl⟩ := List.getElem?_eq_some_iff.mp hc
  obtain ⟨hm, rfl⟩ := List.getElem?_eq_some_iff.mp hd
  rw [Distinct, List.pairwise_iff_getElem] at h
  rcases Nat.lt_or_gt_of_ne hnm with hlt | hlt
  · have hs := (sameObject_iff (a := cs[n]) hj).mpr ⟨i, hi, hji.symm⟩
    rw [h n m hn hm hlt] at hs
    cases hs
  · have hs := (sameObject_iff (a := cs[m]) hi).mpr ⟨j, hj, hji⟩
    rw [h m n hm hn hlt] at hs
    cases hs

/-! ## A sample: credentials that an earlier pass left -/

namespace Sample

def secrets : Resource := .ofGroup "" "v1" "Secret" "secrets"

def creds : ObjectIdentity := ⟨secrets, ⟨some "apps", "creds"⟩⟩

/-- The credentials as a component of a kind, which may not be able to name them. -/
def component (kind : ComponentKind) (identity : Except Error ObjectIdentity) : Component Store where
  name := "Creds"
  kind
  enabled := true
  object := some { identity, shape := .ok, health := fun _ => .good }

/-- A detector for each of some kinds. -/
def watches (kinds : List ComponentKind) : Watches :=
  .ofList (kinds.map fun kind => (kind, some { config := {}, kind, resource := secrets }))

def engine (components : List (Component Store)) (kinds : List ComponentKind) : Engine Store where
  config := {}
  components
  reconcilers := [(ObjectReconciler.watching {} (watches kinds)).toReconciler]

/-- The credentials, labelled as of a kind. -/
def store (kind : ComponentKind) : Store where
  objects := .ofList [(creds.storeKey, Ownership.stamp {} (component kind (.ok creds)) creds.shell)]

/-- The credentials as a component that cannot name them. -/
def nameless : Component Store := component "Old" (.error (.internal "namespace unknown" "unknown"))

/-- The credentials, once of an old kind, configured as of a new one. -/
def renamed : Engine Store := engine [component "New" (.ok creds)] ["New", "Old"]

theorem drivenBy (cs : List (Component Store)) (kinds : List ComponentKind) :
    (engine cs kinds).DrivenBy (.watching {} (watches kinds)) :=
  ⟨rfl, rfl, fun _ _ => rfl⟩

theorem passive (kind : ComponentKind) (identity : Except Error ObjectIdentity) : (component kind identity).Passive :=
  ⟨fun phase => by cases phase <;> rfl, fun _ => rfl⟩

end Sample

namespace Engine
variable {σ : Type}

/-- Registers what the detectors find and takes every turn: the answer of the registration, and the outcomes. -/
def sweep (e : Engine σ) : StateM σ (Except Error Nat × List (Outcome σ)) := do
  let (e', answer) ← e.registerOrphans
  return (answer, ← e'.reconcile)

/-- The state of such a pass after so many turns. -/
def swept (e : Engine σ) (s : σ) (n : Nat) : σ :=
  match e.registerOrphans.run s with
  | ((e', _), s') => ((e'.turns (e'.components.take n)).run s').2

section
variable {e e' : Engine σ} {answer : Except Error Nat} {s s' : σ}

theorem run_sweep (h : e.registerOrphans.run s = ((e', answer), s')) :
    e.sweep.run s = ((answer, ((e'.turns e'.components).run s').1), ((e'.turns e'.components).run s').2) := by
  unfold sweep
  rw [StateT.run_bind, h]
  rfl

theorem swept_eq (h : e.registerOrphans.run s = ((e', answer), s')) (n : Nat) :
    e.swept s n = ((e'.turns (e'.components.take n)).run s').2 := by
  unfold swept
  rw [h]

/-- The first turns are those of the configured components. -/
theorem swept_of_le {cs : List (Component σ)} (h : e.registerOrphans.run s = ((e.register cs, answer), s')) {n : Nat}
    (hn : n ≤ e.components.length) : e.swept s n = (((e.register cs).turns (e.components.take n)).run s').2 := by
  rw [swept_eq h]
  change ((turns _ ((e.components ++ cs).take n)).run s').2 = _
  rw [List.take_append_of_le_length hn]

/-- The other turns are those of the orphans. -/
theorem swept_add {cs : List (Component σ)} (h : e.registerOrphans.run s = ((e.register cs, answer), s')) (n : Nat) :
    e.swept s (e.components.length + n) =
      (((e.register cs).turns (cs.take n)).run (e.swept s e.components.length)).2 := by
  rw [swept_of_le h (Nat.le_refl _), swept_eq h, List.take_length]
  change ((turns _ ((e.components ++ cs).take _)).run s').2 = _
  rw [List.take_length_add_append, turns_append_run]

end

/-- The outcome of a turn is that of its component, from where the turns before it ended. -/
theorem getElem?_turns (e : Engine σ) (cs : List (Component σ)) (s : σ) (n : Nat) :
    ((e.turns cs).run s).1[n]? = cs[n]?.map fun c => ((e.turn c).run ((e.turns (cs.take n)).run s).2).1 := by
  induction cs generalizing s n with
  | nil => rfl
  | cons c cs ih =>
    rw [turns_cons_run]
    cases n with
    | zero => rfl
    | succ n =>
      rw [List.getElem?_cons_succ, List.getElem?_cons_succ, ih, List.take_succ_cons]
      rfl

theorem turns_take_succ_run (e : Engine σ) {cs : List (Component σ)} {n : Nat} {c : Component σ} (hc : cs[n]? = some c)
    (s : σ) : ((e.turns (cs.take (n + 1))).run s).2 = ((e.turn c).run ((e.turns (cs.take n)).run s).2).2 := by
  rw [List.take_add_one, hc, turns_append_run]
  rfl

theorem turns_split_run (e : Engine σ) (cs : List (Component σ)) (n : Nat) (s : σ) :
    ((e.turns cs).run s).2 = ((e.turns (cs.drop n)).run ((e.turns (cs.take n)).run s).2).2 := by
  conv => lhs; rw [← List.take_append_drop n cs, turns_append_run]

/-! ## What is reported as present -/

namespace DrivenBy
variable {e : Engine Store} {r : ObjectReconciler Store} (h : e.DrivenBy r) {cs : List (Component Store)} {n : Nat}
  {c : Component Store} {k : StoreKey}
include h

/-- What becomes of an object that only one of the components names is up to the turn of that one. -/
theorem own_turn (hp : ∀ c ∈ cs, c.Passive) (distinct : Component.Distinct cs) (hc : cs[n]? = some c) (hk : c.Names k)
    (s : Store) : ∃ t, t = ((e.turns (cs.take n)).run s).2 ∧ Store.Frame s t (· ≠ k) ∧
      ((e.turns cs).run s).1[n]? = some ((e.turn c).run t).1 ∧
      Store.Frame ((e.turn c).run t).2 ((e.turns cs).run s).2 (· ≠ k) := by
  refine ⟨_, rfl, ?_, ?_, ?_⟩
  · refine (h.turns_frame (fun d hd => hp d (List.mem_of_mem_take hd)) s).mono ?_
    rintro k' ⟨d, hd, hdk⟩ rfl
    obtain ⟨m, hm⟩ := List.mem_iff_getElem?.mp hd
    have hmn : m < n := Nat.lt_of_lt_of_le (List.getElem?_eq_some_iff.mp hm).1 (List.length_take_le ..)
    rw [List.getElem?_take_of_lt hmn] at hm
    exact distinct.not_names hc hm (by omega) hk hdk
  · rw [getElem?_turns, hc]
    rfl
  · rw [turns_split_run e cs (n + 1), turns_take_succ_run e hc]
    refine (h.turns_frame (fun d hd => hp d (List.mem_of_mem_drop hd)) _).mono ?_
    rintro k' ⟨d, hd, hdk⟩ rfl
    obtain ⟨m, hm⟩ := List.mem_iff_getElem?.mp hd
    rw [List.getElem?_drop] at hm
    exact distinct.not_names hc hm (by omega) hk hdk

/-- What a turn reports as present is there when all turns are taken, if no other component of them names it. -/
theorem shows_of_standing (hp : ∀ c ∈ cs, c.Passive) (distinct : Component.Distinct cs) (hc : cs[n]? = some c) {s : Store}
    {o : Outcome Store} (ho : ((e.turns cs).run s).1[n]? = some o) (standing : o.status.standing = true)
    {i : ObjectIdentity} (hi : c.identity? = some i) : ((e.turns cs).run s).2.Shows i.storeKey := by
  obtain ⟨t, -, -, ht, later⟩ := h.own_turn hp distinct hc ⟨i, hi, rfl⟩ s
  obtain rfl := Option.some.inj (ht.symm.trans ho)
  obtain ⟨v, hv⟩ := Component.identity?_eq_some.mp hi
  have there : ((e.turn c).run t).2.Shows i.storeKey := by
    cases hk : r.kinds.contains c.kind with
    | false =>
      rw [(h.turn_unclaimed hk t).1] at standing
      cases standing
    | true => exact (h.turn_objectTurn hk hv (hp c (List.mem_of_getElem? hc)) t).shows_of_standing standing
  refine ⟨?_, (later.has fun hn => hn rfl).mpr there.2⟩
  rw [later.unserved]
  exact there.1

end DrivenBy

/-- An object that a component names is an orphan only to the detector of another kind. -/
theorem orphaned_iff_of_distinct {ws : Watches} {cs : List (Component Store)} (distinct : Component.Distinct cs) {n : Nat}
    {c : Component Store} (hc : cs[n]? = some c) {k : StoreKey} (hk : c.Names k) (s : Store) : Orphaned ws cs s k ↔
      Readable ws.entries s ∧
        ∃ kind w, (kind, some w) ∈ ws.entries ∧ kind ≠ c.kind ∧ ws.contains w.kind = true ∧ w.Finds s k := by
  have only : ∀ kind, (∀ d ∈ cs, d.kind = kind → ¬ d.Names k) ↔ kind ≠ c.kind := by
    intro kind
    constructor
    · rintro hno rfl
      exact hno c (List.mem_of_getElem? hc) rfl hk
    · rintro hne d hd rfl hdk
      obtain ⟨m, hm⟩ := List.mem_iff_getElem?.mp hd
      by_cases hnm : n = m
      · subst hnm
        exact hne (congrArg _ (Option.some.inj (hm.symm.trans hc)))
      · exact distinct.not_names hc hm hnm hk hdk
  refine and_congr_right fun _ => exists_congr fun kind => exists_congr fun w => and_congr_right fun _ => ?_
  rw [only kind]
  exact ⟨fun ⟨hw, hf, hne⟩ => ⟨hne, hw, hf⟩, fun ⟨hne, hw, hf⟩ => ⟨hw, hf, hne⟩⟩

/-- **What a pass reports as present is there when it ends, unless a detector of another kind found it.** -/
theorem standing_has_iff {e : Engine Store} {config : Config} {ws : Watches} (h : e.DrivenBy (.watching config ws))
    (hp : ∀ c ∈ e.components, c.Passive) (distinct : Component.Distinct e.components) (s : Store) {n : Nat}
    {c : Component Store} {o : Outcome Store} (hc : e.components[n]? = some c) (ho : (e.sweep.run s).1.2[n]? = some o)
    (standing : o.status.standing = true) {i : ObjectIdentity} (hi : c.identity? = some i) :
    (e.sweep.run s).2.Has i.storeKey ↔
      ¬ (Readable ws.entries s ∧ ∃ kind w, (kind, some w) ∈ ws.entries ∧ kind ≠ c.kind ∧
        ws.contains w.kind = true ∧ w.Finds s i.storeKey) := by
  obtain ⟨xs, answer, hreg, -, hkeys⟩ := h.exists_registered s
  have h' := h.register (xs.map Orphan.component)
  rw [← orphaned_iff_of_distinct distinct hc ⟨i, hi, rfl⟩ s, ← hkeys, run_sweep hreg]
  rw [run_sweep hreg] at ho
  change ((turns _ (e.components ++ xs.map Orphan.component)).run s).1[n]? = some o at ho
  change ((turns _ (e.components ++ xs.map Orphan.component)).run s).2.Has i.storeKey ↔ _
  rw [turns_append_run] at ho ⊢
  have hn : n < ((turns (e.register (xs.map Orphan.component)) e.components).run s).1.length := by
    have hl := congrArg List.length (components_of_turns (e.register (xs.map Orphan.component)) e.components s)
    rw [List.length_map] at hl
    rw [hl]
    exact (List.getElem?_eq_some_iff.mp hc).1
  rw [List.getElem?_append_left hn] at ho
  have there := h'.shows_of_standing hp distinct hc ho standing hi
  dsimp only
  rw [h'.orphans_has]
  exact ⟨fun hx hf => hx.2 ⟨there.1, hf⟩, fun hx => ⟨there.2, fun hf => hx hf.2⟩⟩

section
open Sample

theorem renamed_stands : ∃ o, (renamed.sweep.run (store "Old")).1.2[0]? = some o ∧ o.status.standing = true :=
  ⟨_, List.getElem?_eq_getElem (by decide +kernel), by decide +kernel⟩

theorem renamed_loses : ¬ (renamed.sweep.run (store "Old")).2.Has creds.storeKey := by decide +kernel

/-- The credentials, of a new kind, are found by the detector of the old one. -/
theorem standing_has_iff_renamed : ∃ kind w, (kind, some w) ∈ (watches ["New", "Old"]).entries ∧ kind ≠ "New" ∧
    w.Finds (store "Old") creds.storeKey := by
  obtain ⟨o, ho, standing⟩ := renamed_stands
  have h := standing_has_iff (drivenBy _ _) (List.forall_mem_singleton.mpr (passive _ _)) (List.pairwise_singleton _ _)
    (store "Old") (n := 0) rfl ho standing rfl
  obtain ⟨-, kind, w, hw, hne, -, hf⟩ := Classical.not_not.mp (mt h.mpr renamed_loses)
  exact ⟨kind, w, hw, hne, hf⟩

/-- A component that is reported as present may lose its object in the same pass: one of a new kind does, to the detector
of the old one. -/
theorem not_standing_has : ¬ ∀ (e : Engine Store) (config : Config) (ws : Watches), e.DrivenBy (.watching config ws) →
    (∀ c ∈ e.components, c.Passive ∧ ∃ i, c.identity? = some i) → Component.Distinct e.components →
    ∀ (s : Store) (n : Nat) (c : Component Store) (o : Outcome Store) (i : ObjectIdentity), e.components[n]? = some c →
      (e.sweep.run s).1.2[n]? = some o → o.status.standing = true → c.identity? = some i →
      (e.sweep.run s).2.Has i.storeKey := by
  intro claim
  obtain ⟨o, ho, standing⟩ := renamed_stands
  exact renamed_loses (claim renamed {} _ (drivenBy _ _) (List.forall_mem_singleton.mpr ⟨passive _ _, _, rfl⟩)
    (List.pairwise_singleton _ _) (store "Old") 0 _ o _ rfl ho standing rfl)

end

/-! ## What a pass deletes -/

/-- The turn of the component is to remove the object under the key. -/
structure GivesUp (e : Engine Store) (r : ObjectReconciler Store) (c : Component Store) (k : StoreKey) : Prop where
  unwanted : c.enabled = false
  unkept : (c.keep && e.config.honorKeep) = false
  claimed : r.kinds.contains c.kind = true
  names : c.Names k

namespace DrivenBy

section
variable {e : Engine Store} {r : ObjectReconciler Store} (h : e.DrivenBy r)
include h

/-- A turn deletes an object of a type that is served exactly if the component is to give it up. -/
theorem turn_has_iff {c : Component Store} (hp : c.Passive) {s : Store} {k : StoreKey} (hs : s.Has k) :
    ((e.turn c).run s).2.Has k ↔ ¬ (k.kind ∉ s.unserved ∧ e.GivesUp r c k) := by
  have frame := h.turn_frame hp s
  by_cases hk : c.Names k
  case neg => exact ⟨fun _ hg => hk hg.2.names, fun _ => (frame.has hk).mpr hs⟩
  by_cases hc : r.kinds.contains c.kind = true
  case neg =>
    rw [(h.turn_unclaimed (Bool.eq_false_iff.mpr hc) s).2]
    exact ⟨fun _ hg => hc hg.2.claimed, fun _ => hs⟩
  have hn := hk
  obtain ⟨i, hi, rfl⟩ := hk
  obtain ⟨v, ho⟩ := Component.identity?_eq_some.mp hi
  have ht := h.turn_objectTurn hc ho hp s
  cases he : c.enabled with
  | true =>
    refine ⟨fun _ hg => ?_, fun _ => (ht.has_of_wanted he).mpr (.inl hs)⟩
    cases he.symm.trans hg.2.unwanted
  | false =>
    rw [ht.has_of_unwanted he]
    constructor
    · rintro ⟨-, unserved | kept⟩ hg
      · exact hg.1 unserved
      · cases kept.symm.trans hg.2.unkept
    · intro hg
      refine ⟨hs, ?_⟩
      by_cases served : i.storeKey.kind ∈ s.unserved
      · exact .inl served
      · refine .inr (Bool.not_eq_false _ ▸ fun unkept => ?_)
        exact hg ⟨served, he, unkept, hc, hn⟩

/-- Turns delete an object of a type that is served exactly if one of the components is to give it up. -/
theorem turns_lose_iff {cs : List (Component Store)} (hp : ∀ c ∈ cs, c.Passive) {s : Store} {k : StoreKey} (hs : s.Has k) :
    (∃ n ≤ cs.length, ¬ ((e.turns (cs.take n)).run s).2.Has k) ↔ k.kind ∉ s.unserved ∧ ∃ c ∈ cs, e.GivesUp r c k := by
  induction cs generalizing s with
  | nil =>
    refine ⟨fun ⟨n, _, hn⟩ => ?_, fun ⟨_, c, hc, _⟩ => nomatch hc⟩
    rw [List.take_nil] at hn
    exact absurd hs hn
  | cons c cs ih =>
    have hc := h.turn_has_iff (hp c List.mem_cons_self) hs
    have frame := h.turn_frame (hp c List.mem_cons_self) s
    by_cases ht : ((e.turn c).run s).2.Has k
    case neg =>
      -- the first turn deletes it
      refine ⟨fun _ => ?_, fun _ => ⟨1, by simp, ht⟩⟩
      obtain ⟨served, hg⟩ := Classical.not_not.mp (mt hc.mpr ht)
      exact ⟨served, c, List.mem_cons_self, hg⟩
    have ih := ih (fun d hd => hp d (List.mem_cons_of_mem _ hd)) ht
    rw [frame.unserved] at ih
    constructor
    · rintro ⟨n, hn, hlost⟩
      cases n with
      | zero => exact absurd hs hlost
      | succ n =>
        obtain ⟨served, d, hd, hg⟩ := ih.mp ⟨n, Nat.le_of_succ_le_succ hn, hlost⟩
        exact ⟨served, d, List.mem_cons_of_mem _ hd, hg⟩
    · rintro ⟨served, d, hd, hg⟩
      rcases List.mem_cons.mp hd with rfl | hd
      · exact absurd ⟨served, hg⟩ (hc.mp ht)
      · obtain ⟨n, hn, hlost⟩ := ih.mpr ⟨served, d, hd, hg⟩
        exact ⟨n + 1, Nat.succ_le_succ hn, hlost⟩

end

section
variable {e : Engine Store} {config : Config} {ws : Watches} (h : e.DrivenBy (.watching config ws)) {s : Store} {k : StoreKey}
  {c : Component Store}
include h

/-- A pass deletes an object in the turns of the configured components, or because it is an orphan. -/
theorem swept_loses_iff : (∃ n, ¬ (e.swept s n).Has k) ↔
    (∃ n ≤ e.components.length, ¬ (e.swept s n).Has k) ∨
      (Orphaned ws e.components s k ∧ k.kind ∉ (e.swept s e.components.length).unserved) := by
  obtain ⟨xs, answer, hreg, -, hkeys⟩ := h.exists_registered s
  have h' := h.register (xs.map Orphan.component)
  have after : ∀ m, e.swept s (e.components.length + m) =
      (((e.register (xs.map Orphan.component)).turns ((xs.take m).map Orphan.component)).run
        (e.swept s e.components.length)).2 := by
    intro m
    rw [swept_add hreg, List.map_take]
  constructor
  · rintro ⟨n, hn⟩
    rcases Nat.le_total n e.components.length with hle | hle
    · exact .inl ⟨n, hle, hn⟩
    · obtain ⟨m, rfl⟩ := Nat.exists_eq_add_of_le hle
      by_cases there : (e.swept s e.components.length).Has k
      case neg => exact .inl ⟨_, Nat.le_refl _, there⟩
      rw [after, h'.orphans_has] at hn
      obtain ⟨served, x, hx, hk⟩ := Classical.not_not.mp fun hno => hn ⟨there, hno⟩
      exact .inr ⟨(hkeys k).mp ⟨x, List.mem_of_mem_take hx, hk⟩, served⟩
  · rintro (⟨n, -, hn⟩ | ⟨orphaned, served⟩)
    · exact ⟨n, hn⟩
    · refine ⟨e.components.length + xs.length, fun hlast => ?_⟩
      rw [after, List.take_length, h'.orphans_has] at hlast
      exact hlast.2 ⟨served, (hkeys k).mpr orphaned⟩

/-- If no component runs a hook, a pass deletes the orphans and what the components are to give up. -/
theorem swept_loses_iff_of_passive (hp : ∀ c ∈ e.components, c.Passive) (hs : s.Has k) : (∃ n, ¬ (e.swept s n).Has k) ↔
    k.kind ∉ s.unserved ∧
      (Orphaned ws e.components s k ∨ ∃ c ∈ e.components, e.GivesUp (.watching config ws) c k) := by
  rw [h.swept_loses_iff]
  obtain ⟨xs, answer, hreg, -, -⟩ := h.exists_registered s
  have h' := h.register (xs.map Orphan.component)
  have own : (∃ n ≤ e.components.length, ¬ (e.swept s n).Has k) ↔
      k.kind ∉ s.unserved ∧ ∃ c ∈ e.components, e.GivesUp (.watching config ws) c k := by
    have hl := h'.turns_lose_iff hp hs
    constructor
    · rintro ⟨n, hn, hlost⟩
      rw [swept_of_le hreg hn] at hlost
      obtain ⟨served, c, hc, hg⟩ := hl.mp ⟨n, hn, hlost⟩
      exact ⟨served, c, hc, hg.unwanted, hg.unkept, hg.claimed, hg.names⟩
    · rintro ⟨served, c, hc, hg⟩
      obtain ⟨n, hn, hlost⟩ := hl.mpr ⟨served, c, hc, hg.unwanted, hg.unkept, hg.claimed, hg.names⟩
      exact ⟨n, hn, by rw [swept_of_le hreg hn]; exact hlost⟩
  have unserved : (e.swept s e.components.length).unserved = s.unserved := by
    rw [swept_of_le hreg (Nat.le_refl _), List.take_length]
    exact (h'.turns_frame hp s).unserved
  rw [own, unserved]
  constructor
  · rintro (⟨served, hg⟩ | ⟨orphaned, served⟩)
    · exact ⟨served, .inr hg⟩
    · exact ⟨served, .inl orphaned⟩
  · rintro ⟨served, orphaned | hg⟩
    · exact .inr ⟨orphaned, served⟩
    · exact .inl ⟨served, hg⟩

/-- The turn of a component that cannot name its object reports that and does nothing. -/
theorem swept_unnamed (claimed : ws.contains c.kind = true) {n : Nat} (hc : e.components[n]? = some c) {x : Error}
    (hx : ObjectReconciler.view c = .error x) (s : Store) :
    (e.sweep.run s).1.2[n]? = some ⟨c, .observationFailed, x.message⟩ ∧ e.swept s (n + 1) = e.swept s n := by
  obtain ⟨xs, answer, hreg, -, -⟩ := h.exists_registered s
  have h' := h.register (xs.map Orphan.component)
  have hc' : (e.register (xs.map Orphan.component)).components[n]? = some c := by
    change (e.components ++ xs.map Orphan.component)[n]? = some c
    rw [List.getElem?_append_left (List.getElem?_eq_some_iff.mp hc).1, hc]
  have turn := h'.turn_unnamed (c := c) ((ObjectReconciler.watching_contains config ws c.kind).trans claimed) hx
  refine ⟨?_, ?_⟩
  · rw [run_sweep hreg]
    dsimp only
    rw [getElem?_turns, hc', Option.map_some, turn]
  · rw [swept_eq hreg, swept_eq hreg, turns_take_succ_run _ hc', turn]

end

end DrivenBy

/-- **A component that cannot name its object reports this and does nothing, but its object is not safe.** An object is
deleted in the turns of the configured components, or because a detector finds it and no component of its kind that can
name its object names this one. If no component runs a hook, the former are those that are to give it up. -/
theorem unnamed_loses_iff {e : Engine Store} {config : Config} {ws : Watches} (h : e.DrivenBy (.watching config ws))
    {n : Nat} {c : Component Store} (hc : e.components[n]? = some c) (claimed : ws.contains c.kind = true) {v : ObjectView}
    (hv : c.object = some v) {x : Error} (hx : v.identity = .error x) (s : Store) :
    (e.sweep.run s).1.2[n]? = some ⟨c, .observationFailed, x.message⟩ ∧
    e.swept s (n + 1) = e.swept s n ∧
    ((∃ m, (e.sweep.run s).1.1 = .ok m) ↔ Readable ws.entries s) ∧
    (∀ k, (∃ m, ¬ (e.swept s m).Has k) ↔
      (∃ m ≤ e.components.length, ¬ (e.swept s m).Has k) ∨
        (Orphaned ws e.components s k ∧ k.kind ∉ (e.swept s e.components.length).unserved)) ∧
    ((∀ d ∈ e.components, d.Passive) → ∀ k, s.Has k →
      ((∃ m, ¬ (e.swept s m).Has k) ↔ k.kind ∉ s.unserved ∧
        (Orphaned ws e.components s k ∨ ∃ d ∈ e.components, e.GivesUp (.watching config ws) d k))) := by
  obtain ⟨outcome, still⟩ := h.swept_unnamed claimed hc (ObjectReconciler.view_eq_error hv hx) s
  refine ⟨outcome, still, ?_, fun k => h.swept_loses_iff, fun hp k hs => h.swept_loses_iff_of_passive hp hs⟩
  obtain ⟨xs, answer, hreg, hanswer, -⟩ := h.exists_registered s
  rw [run_sweep hreg]
  exact hanswer

section
open Sample

/-- Credentials that cannot be named: this is reported. -/
theorem unnamed_loses_iff_nameless : ((engine [nameless] ["Old"]).sweep.run (store "Old")).1.2[0]? =
    some ⟨nameless, .observationFailed, (Error.internal "namespace unknown" "unknown").message⟩ :=
  (unnamed_loses_iff (drivenBy [nameless] ["Old"]) (n := 0) rfl (by decide +kernel) rfl rfl (store "Old")).1

/-- A component that cannot name its object may lose it: the detector of its kind takes the object for an orphan. -/
theorem not_unnamed_keeps : ¬ ∀ (e : Engine Store) (config : Config) (ws : Watches), e.DrivenBy (.watching config ws) →
    ∀ (s : Store) (c : Component Store) (v : ObjectView) (x : Error), c ∈ e.components → c.object = some v →
      v.identity = .error x → ∀ (k : StoreKey) (o : Object), s.objects.get? k = some o →
      (∀ l ∈ Ownership.entries config c, o.label? l.1 = some l.2) → ∀ n, (e.swept s n).Has k := by
  intro claim
  have there := claim _ _ _ (drivenBy [nameless] ["Old"]) (store "Old") nameless _ _ (List.mem_singleton_self _) rfl rfl
    creds.storeKey _ rfl (by decide +kernel) 2
  revert there
  decide +kernel

end

end Engine

end Converge
