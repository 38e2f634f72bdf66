import Converge.Proofs.Searches
import Converge.Rehearsal.World

/-!
# Registering orphans again

* `Engine.Steadfast` : a detector keeps failing, or finds by what is configured, the less of it the more there is.
  `Reconciler.Sighted.steadfast`: the detectors that go by ownership labels are so.
* `Engine.registered_succ`: after the first call every call registers the same again. `Recollects` : with detectors by ownership
  labels that is what `Reconciler.Sighted.crossed` leaves, so nothing if each detector is claimed for its own kind.
* `Engine.registered_of_ne`: a detector that is claimed for another kind than its own finds its orphans again and again.
-/

namespace Converge

set_option autoImplicit false

namespace Engine
variable {σ : Type}

/-! ## Detectors that answer by what is configured -/

/-- The detector leaves the state alone and finds by what is configured: the more there is, the less, and the same whatever its
order. -/
structure Searches (find : List (Component σ) → Act σ (List (Component σ))) (s : σ)
    (search : List (Component σ) → List (Component σ)) : Prop where
  finds : ∀ configured, (find configured).run s = (.ok (search configured), s)
  fewer : ∀ {configured configured'}, configured ⊆ configured' → search configured' ⊆ search configured
  same : ∀ {configured configured'}, configured ⊆ configured' → configured' ⊆ configured →
    search configured' = search configured

/-- The detector leaves the state alone, and fails whatever is configured, or finds by what is configured. -/
def Steadfast (find : List (Component σ) → Act σ (List (Component σ))) (s : σ) : Prop :=
  (∀ configured, ∃ x, (find configured).run s = (.error x, s)) ∨ ∃ search, Searches find s search

/-- What a detector finds, which is nothing if it fails. -/
def yield (find : List (Component σ) → Act σ (List (Component σ))) (configured : List (Component σ)) (s : σ) :
    List (Component σ) := ((find configured).run s).1.toOption.getD []

section
variable {find : List (Component σ) → Act σ (List (Component σ))} {configured cs : List (Component σ)} {s s' : σ} {x : Error}

theorem yield_of_ok (h : (find configured).run s = (.ok cs, s')) : yield find configured s = cs := by
  unfold yield
  rw [h]
  rfl

theorem yield_of_error (h : (find configured).run s = (.error x, s')) : yield find configured s = [] := by
  unfold yield
  rw [h]
  rfl

end

namespace Steadfast
variable {find : List (Component σ) → Act σ (List (Component σ))} {s : σ} (h : Steadfast find s)
  {configured configured' : List (Component σ)}
include h

theorem still (configured : List (Component σ)) : (find configured).run s = (((find configured).run s).1, s) := by
  rcases h with fails | ⟨search, searches⟩
  · obtain ⟨x, hx⟩ := fails configured
    rw [hx]
  · rw [searches.finds]

/-- It fails always or never. -/
theorem ok_iff (configured configured' : List (Component σ)) :
    (∃ cs, ((find configured').run s).1 = .ok cs) ↔ ∃ cs, ((find configured).run s).1 = .ok cs := by
  rcases h with fails | ⟨search, searches⟩
  · obtain ⟨x, hx⟩ := fails configured
    obtain ⟨y, hy⟩ := fails configured'
    rw [hx, hy]
    exact ⟨nofun, nofun⟩
  · rw [searches.finds, searches.finds]
    exact ⟨fun _ => ⟨_, rfl⟩, fun _ => ⟨_, rfl⟩⟩

theorem fewer (more : configured ⊆ configured') : yield find configured' s ⊆ yield find configured s := by
  rcases h with fails | ⟨search, searches⟩
  · obtain ⟨x, hx⟩ := fails configured'
    rw [yield_of_error hx]
    exact List.nil_subset _
  · rw [yield_of_ok (searches.finds _), yield_of_ok (searches.finds _)]
    exact searches.fewer more

theorem same (more : configured ⊆ configured') (less : configured' ⊆ configured) :
    yield find configured' s = yield find configured s := by
  rcases h with fails | ⟨search, searches⟩
  · obtain ⟨x, hx⟩ := fails configured
    obtain ⟨y, hy⟩ := fails configured'
    rw [yield_of_error hx, yield_of_error hy]
  · rw [yield_of_ok (searches.finds _), yield_of_ok (searches.finds _)]
    exact searches.same more less

end Steadfast

section
variable {rs : List (Reconciler σ)} {s : σ} (steadfast : ∀ r ∈ rs, ∀ find, r.orphans = some find → Steadfast find s)
include steadfast

/-- Detectors that leave the state alone answer each for itself. -/
theorem run_answers (configured : List (Component σ)) : (answers configured rs).run s =
    ((rs.filterMap (·.orphans)).map fun find => ((find configured).run s).1, s) := by
  induction rs with
  | nil => rfl
  | cons r rs ih =>
    have rest := ih fun r' hr' => steadfast r' (List.mem_cons_of_mem _ hr')
    cases hr : r.orphans with
    | none =>
      rw [answers_cons_none rs configured hr, rest, List.filterMap_cons, hr]
    | some find =>
      have still : (find configured).run.run s = _ := (steadfast r List.mem_cons_self find hr).still configured
      rw [run_answers_cons rs configured s hr, still, rest, List.filterMap_cons, hr]
      rfl

theorem found_answers (configured : List (Component σ)) : found ((answers configured rs).run s).1 =
    (rs.filterMap (·.orphans)).flatMap fun find => yield find configured s := by
  rw [run_answers steadfast]
  exact List.flatMap_map ..

theorem steadfast_of_mem {find : List (Component σ) → Act σ (List (Component σ))} (hf : find ∈ rs.filterMap (·.orphans)) :
    Steadfast find s := by
  obtain ⟨r, hr, hf⟩ := List.mem_filterMap.mp hf
  exact steadfast r hr find hf

variable {configured configured' : List (Component σ)}

theorem found_fewer (more : configured ⊆ configured') :
    found ((answers configured' rs).run s).1 ⊆ found ((answers configured rs).run s).1 := by
  rw [found_answers steadfast, found_answers steadfast]
  intro c hc
  obtain ⟨find, hf, hc⟩ := List.mem_flatMap.mp hc
  exact List.mem_flatMap.mpr ⟨find, hf, (steadfast_of_mem steadfast hf).fewer more hc⟩

theorem found_same (more : configured ⊆ configured') (less : configured' ⊆ configured) :
    found ((answers configured' rs).run s).1 = found ((answers configured rs).run s).1 := by
  rw [found_answers steadfast, found_answers steadfast]
  exact List.flatMap_congr fun find hf => (steadfast_of_mem steadfast hf).same more less

/-- Whoever failed fails again, and nobody else. -/
theorem answers_ok_iff (configured configured' : List (Component σ)) :
    (∀ a ∈ ((answers configured' rs).run s).1, ∃ cs, a = .ok cs) ↔ ∀ a ∈ ((answers configured rs).run s).1, ∃ cs, a = .ok cs := by
  rw [run_answers steadfast, run_answers steadfast, List.forall_mem_map, List.forall_mem_map]
  exact forall₂_congr fun find hf => (steadfast_of_mem steadfast hf).ok_iff _ _

end

/-! ## Over and over -/

/-- The engine and the state after orphans were registered this often. -/
def registered (e : Engine σ) (s : σ) : Nat → Engine σ × σ
  | 0 => (e, s)
  | n + 1 => (((registered e s n).1.registerOrphans.run (registered e s n).2).1.1,
      ((registered e s n).1.registerOrphans.run (registered e s n).2).2)

/-- What is found besides the components of an engine. -/
def finding (e : Engine σ) (s : σ) : List (Component σ) := found ((answers e.components e.reconcilers).run s).1

theorem registered_register (e : Engine σ) (s : σ) : (e.registerOrphans.run s).1.1 = e.register (finding e s) :=
  (collects_registerOrphans e s).registered

section
variable {e : Engine σ} {s : σ} (steadfast : ∀ r ∈ e.reconcilers, ∀ find, r.orphans = some find → Steadfast find s)
include steadfast

theorem registerOrphans_still : (e.registerOrphans.run s).2 = s := by
  rw [run_registerOrphans_eq]
  exact congrArg Prod.snd (run_answers steadfast e.components)

/-- Nothing is found with more components that was not found with fewer. -/
theorem finding_register (cs : List (Component σ)) : finding (e.register cs) s ⊆ finding e s :=
  found_fewer steadfast (List.subset_append_left _ _)

/-- Components that are there already change nothing. -/
theorem finding_register_of_subset {cs : List (Component σ)} (known : cs ⊆ e.components) : finding (e.register cs) s = finding e s :=
  found_same steadfast (List.subset_append_left _ _) (List.append_subset.mpr ⟨List.Subset.refl _, known⟩)

end

theorem register_register (e : Engine σ) (cs ds : List (Component σ)) : (e.register cs).register ds = e.register (cs ++ ds) := by
  unfold register
  rw [List.append_assoc]

theorem register_nil (e : Engine σ) : e.register [] = e := by
  unfold register
  rw [List.append_nil]

section
variable {e : Engine σ} {s : σ} (steadfast : ∀ r ∈ e.reconcilers, ∀ find, r.orphans = some find → Steadfast find s)
include steadfast

/-- What comes in again and again is there after the first call. -/
theorem replicate_known (n : Nat) :
    (List.replicate n (finding (e.register (finding e s)) s)).flatten ⊆ (e.register (finding e s)).components := by
  intro c hc
  obtain ⟨again, hagain, hc⟩ := List.mem_flatten.mp hc
  obtain rfl := List.eq_of_mem_replicate hagain
  exact List.mem_append_right _ (finding_register steadfast _ hc)

/-- **Every further call registers the same again.** What is found then was found by the first call as well, so that only
repetitions come in after it. -/
theorem registered_succ (n : Nat) : registered e s (n + 1) =
    ((e.register (finding e s)).register (List.replicate n (finding (e.register (finding e s)) s)).flatten, s) := by
  induction n with
  | zero =>
    rw [List.replicate_zero, List.flatten_nil, register_nil, ← registered_register]
    exact Prod.ext rfl (registerOrphans_still steadfast)
  | succ n ih =>
    have still := registerOrphans_still
      (e := (e.register (finding e s)).register (List.replicate n (finding (e.register (finding e s)) s)).flatten) steadfast
    unfold registered
    rw [ih, registered_register, still, finding_register_of_subset (e := e.register (finding e s)) steadfast
      (replicate_known steadfast n), register_register, List.replicate_succ', List.flatten_append, List.flatten_singleton]

/-- A further call succeeds iff the first one did, and counts what it registers again. -/
theorem registered_answers (n : Nat) :
    ((∃ m, (e.registerOrphans.run s).1.2 = .ok m) →
      ((registered e s (n + 1)).1.registerOrphans.run s).1.2 = .ok (finding (e.register (finding e s)) s).length) ∧
    ((∃ x, (e.registerOrphans.run s).1.2 = .error x) → ∃ x, ((registered e s (n + 1)).1.registerOrphans.run s).1.2 = .error x) := by
  have first := collects_registerOrphans e s
  have further := collects_registerOrphans (registered e s (n + 1)).1 s
  have again : finding (registered e s (n + 1)).1 s = finding (e.register (finding e s)) s := by
    rw [registered_succ steadfast]
    exact finding_register_of_subset (e := e.register (finding e s)) steadfast (replicate_known steadfast n)
  have answers : (∃ m, ((registered e s (n + 1)).1.registerOrphans.run s).1.2 = .ok m) ↔
      ∃ m, (e.registerOrphans.run s).1.2 = .ok m := by
    rw [further.succeeds, first.succeeds, registered_succ steadfast]
    exact answers_ok_iff steadfast _ _
  constructor
  · intro answered
    obtain ⟨m, hm⟩ := answers.mpr answered
    rw [hm, further.counts m hm, ← again]
    rfl
  · rintro ⟨x, hx⟩
    cases answer : ((registered e s (n + 1)).1.registerOrphans.run s).1.2 with
    | ok m =>
      obtain ⟨k, hk⟩ := answers.mp ⟨m, answer⟩
      cases hx.symm.trans hk
    | error y => exact ⟨y, rfl⟩

end

end Engine

/-! ## Detectors by ownership labels -/

namespace Watch
variable {σ : Type} {w : Watch} {kind : ComponentKind} {ws : List (ComponentKind × Option Watch)}
  {configured configured' : List (Component σ)} {s : Store}

theorem leftOver_fewer (more : configured ⊆ configured') : w.leftOver kind configured' s ⊆ w.leftOver kind configured s := by
  intro x hx
  obtain ⟨hc, unnamed⟩ := mem_leftOver.mp hx
  exact mem_leftOver.mpr ⟨hc, fun c hcs => unnamed c (more hcs)⟩

theorem leftOver_same (more : configured ⊆ configured') (less : configured' ⊆ configured) :
    w.leftOver kind configured' s = w.leftOver kind configured s := by
  refine List.filter_congr fun x _ => Bool.eq_iff_iff.mpr ?_
  rw [unnamed_iff, unnamed_iff]
  exact ⟨fun unnamed c hc => unnamed c (more hc), fun unnamed c hc => unnamed c (less hc)⟩

theorem found_fewer (more : configured ⊆ configured') : found configured' s ws ⊆ found configured s ws := by
  intro x hx
  obtain ⟨kind, w, hw, hl⟩ := mem_found.mp hx
  exact mem_found.mpr ⟨kind, w, hw, leftOver_fewer more hl⟩

theorem found_same (more : configured ⊆ configured') (less : configured' ⊆ configured) :
    found configured' s ws = found configured s ws := by
  refine List.flatMap_congr fun e _ => ?_
  obtain ⟨kind, w | w⟩ := e
  · rfl
  · exact leftOver_same more less

/-- Once all is configured that detectors found, only those find something that are claimed for another kind than their own. -/
theorem crossed_of_found (more : configured ⊆ configured') (known : (found configured s ws).map Orphan.component ⊆ configured')
    {x : Orphan} (hx : x ∈ found configured' s ws) :
    ∃ kind w, (kind, some w) ∈ ws ∧ w.kind ≠ kind ∧ x ∈ w.leftOver kind configured' s := by
  obtain ⟨kind, w, hw, hl⟩ := mem_found.mp hx
  refine ⟨kind, w, hw, fun own => ?_, hl⟩
  obtain ⟨hc, unnamed⟩ := mem_leftOver.mp hl
  obtain ⟨o, -, ho⟩ := mem_candidates.mp hc
  obtain ⟨key, -, rfl⟩ := orphan_eq_ok.mp ho
  exact unnamed _ (known (List.mem_map_of_mem (found_fewer more hx))) own (Orphan.owns _ |>.names_iff.mpr rfl)

/-- Orphans of other kinds do not count as configured. -/
theorem leftOver_append {xs : List Orphan} (other : ∀ x ∈ xs, x.kind ≠ kind) (configured : List (Component σ)) (s : Store) :
    w.leftOver kind (configured ++ xs.map Orphan.component) s = w.leftOver kind configured s := by
  have unseen : (xs.map Orphan.component : List (Component σ)).filter (fun c => c.kind == kind) = [] := by
    refine List.filter_eq_nil_iff.mpr fun c hc hk => ?_
    obtain ⟨x, hx, rfl⟩ := List.mem_map.mp hc
    exact other x hx (beq_iff_eq.mp hk)
  unfold leftOver
  rw [List.filter_append, unseen, List.append_nil]

/-- A detector that is claimed for another kind than its own finds its orphans again once they are configured. -/
theorem leftOver_of_ne (other : w.kind ≠ kind) (configured : List (Component σ)) (s : Store) :
    w.leftOver kind (configured ++ (w.leftOver kind configured s).map Orphan.component) s = w.leftOver kind configured s := by
  refine leftOver_append (fun x hx => ?_) configured s
  obtain ⟨o, -, ho⟩ := mem_candidates.mp (mem_leftOver.mp hx).1
  obtain ⟨key, -, rfl⟩ := orphan_eq_ok.mp ho
  exact other

end Watch

/-- The reconciler has no detector, or detectors by ownership labels, each of them claimed for a kind as it may be, or one that
keeps failing. -/
inductive Reconciler.Sighted (s : Store) (may : ComponentKind → Watch → Prop) : Reconciler Store → Prop
  | none {r : Reconciler Store} (h : r.orphans = none) : Sighted s may r
  | labels (config : Config) (claims : Claims) (h : ∀ kind w, (kind, some w) ∈ claims → may kind w) :
    Sighted s may (ObjectReconciler.claiming config claims).toReconciler
  | failing {r : Reconciler Store} {find : List (Component Store) → Act Store (List (Component Store))} (h : r.orphans = some find)
    (fails : ∀ configured, ∃ x, (find configured).run s = (.error x, s)) : Sighted s may r

namespace ObjectReconciler

theorem orphans_claiming {config : Config} {claims : Claims} {find : List (Component Store) → Act Store (List (Component Store))}
    (h : (claiming config claims).toReconciler.orphans = some find) :
    find = fun configured => detect Store.client configured (detectors claims.watches.entries) := by
  rw [claiming_eq_watching] at h
  unfold toReconciler at h
  dsimp only at h
  split at h
  · exact (Option.some.inj h).symm
  · cases h

theorem searches_detect {kinds : List (ComponentKind × Option Watch)} {s : Store} (readable : Readable kinds s) :
    Engine.Searches (fun configured => detect Store.client configured (detectors kinds)) s
      fun configured => (Watch.found configured s kinds).map Orphan.component where
  finds _ := run_detect readable
  fewer more := List.map_subset _ (Watch.found_fewer more)
  same more less := congrArg _ (Watch.found_same more less)

end ObjectReconciler

namespace Reconciler.Sighted
variable {s : Store} {may : ComponentKind → Watch → Prop} {r : Reconciler Store}
  {find : List (Component Store) → Act Store (List (Component Store))}

theorem steadfast (h : r.Sighted s may) (hf : r.orphans = some find) : Engine.Steadfast find s := by
  cases h with
  | none h => cases h.symm.trans hf
  | failing h fails =>
    cases h.symm.trans hf
    exact .inl fails
  | labels config claims =>
    obtain rfl := ObjectReconciler.orphans_claiming hf
    by_cases readable : Readable claims.watches.entries s
    · exact .inr ⟨_, ObjectReconciler.searches_detect readable⟩
    · exact .inl fun configured => ObjectReconciler.run_detect_unreadable configured readable

/-- What is found again, when all is configured that was found, was found by detectors that are claimed for another kind. -/
theorem crossed (h : r.Sighted s may) (hf : r.orphans = some find) {configured configured' : List (Component Store)}
    (more : configured ⊆ configured') (known : Engine.yield find configured s ⊆ configured') {c : Component Store}
    (hc : c ∈ Engine.yield find configured' s) :
    ∃ kind w x, may kind w ∧ w.kind ≠ kind ∧ x ∈ w.leftOver kind configured' s ∧ c = x.component := by
  cases h with
  | none h => cases h.symm.trans hf
  | failing h fails =>
    cases h.symm.trans hf
    obtain ⟨x, hx⟩ := fails configured'
    rw [Engine.yield_of_error hx] at hc
    cases hc
  | labels config claims allowed =>
    obtain rfl := ObjectReconciler.orphans_claiming hf
    by_cases readable : Readable claims.watches.entries s
    · have searches := ObjectReconciler.searches_detect readable
      rw [Engine.yield_of_ok (searches.finds _)] at known hc
      obtain ⟨x, hx, rfl⟩ := List.mem_map.mp hc
      obtain ⟨kind, w, hw, other, hl⟩ := Watch.crossed_of_found more known hx
      exact ⟨kind, w, x, allowed kind w (Claims.mem_of_mem_watches hw), other, hl, rfl⟩
    · obtain ⟨x, hx⟩ := ObjectReconciler.run_detect_unreadable configured' readable
      rw [Engine.yield_of_error hx] at hc
      cases hc

end Reconciler.Sighted

namespace Engine

/-- What comes of registering orphans again and again, with detectors by ownership labels and a store that nobody changes. -/
structure Recollects (e : Engine Store) (s : Store) (may : ComponentKind → Watch → Prop) (again : List (Component Store)) : Prop where
  /-- After the first call, every call registers the same again. -/
  registered : ∀ n, registered e s (n + 1) = ((e.registerOrphans.run s).1.1.register (List.replicate n again).flatten, s)
  /-- These are orphans of detectors that are claimed for another kind than their own, which no component of that kind names. -/
  crossed : ∀ c ∈ again, ∃ kind w x, may kind w ∧ w.kind ≠ kind ∧
    x ∈ w.leftOver kind (e.registerOrphans.run s).1.1.components s ∧ c = x.component
  /-- So it is nothing if each detector is claimed for its own kind. -/
  nothing : (∀ kind w, may kind w → w.kind = kind) → again = []
  counts : (∃ m, (e.registerOrphans.run s).1.2 = .ok m) → ∀ n,
    ((Engine.registered e s (n + 1)).1.registerOrphans.run s).1.2 = .ok again.length
  fails : (∃ x, (e.registerOrphans.run s).1.2 = .error x) → ∀ n,
    ∃ x, ((Engine.registered e s (n + 1)).1.registerOrphans.run s).1.2 = .error x

theorem recollects {e : Engine Store} {s : Store} {may : ComponentKind → Watch → Prop}
    (sighted : ∀ r ∈ e.reconcilers, r.Sighted s may) : Recollects e s may (finding (e.register (finding e s)) s) := by
  have steadfast : ∀ r ∈ e.reconcilers, ∀ find, r.orphans = some find → Steadfast find s := fun r hr find hf =>
    (sighted r hr).steadfast hf
  have crossed : ∀ c ∈ finding (e.register (finding e s)) s, ∃ kind w x, may kind w ∧ w.kind ≠ kind ∧
      x ∈ w.leftOver kind (e.register (finding e s)).components s ∧ c = x.component := by
    intro c hc
    have further : finding (e.register (finding e s)) s = _ := found_answers steadfast _
    rw [further] at hc
    obtain ⟨find, hf, hc⟩ := List.mem_flatMap.mp hc
    obtain ⟨r, hr, hf'⟩ := List.mem_filterMap.mp hf
    have known : yield find e.components s ⊆ (e.register (finding e s)).components := by
      have first : finding e s = _ := found_answers steadfast e.components
      refine fun d hd => List.mem_append_right _ ?_
      rw [first]
      exact List.mem_flatMap.mpr ⟨find, hf, hd⟩
    exact (sighted r hr).crossed hf' (List.subset_append_left _ _) known hc
  refine ⟨fun n => ?_, ?_, fun own => ?_, fun ok n => (registered_answers steadfast n).1 ok,
    fun error n => (registered_answers steadfast n).2 error⟩
  · rw [registered_register]
    exact registered_succ steadfast n
  · rw [registered_register]
    exact crossed
  · refine List.eq_nil_iff_forall_not_mem.mpr fun c hc => ?_
    obtain ⟨kind, w, x, allowed, other, -⟩ := crossed c hc
    exact other (own kind w allowed)

/-- **Registering orphans** registers what the detectors find that do not fail, and explains the failures of the others. With
detectors by ownership labels, and a store that nobody changes, every further call registers only what detectors find that are
claimed for another kind than their own. -/
theorem registerOrphans_collects :
    (∀ (σ : Type) (e : Engine σ) (s : σ), Collects e (e.registerOrphans.run s).1.1 (e.registerOrphans.run s).1.2
      ((answers e.components e.reconcilers).run s).1) ∧
    ∀ (e : Engine Store) (s : Store) (may : ComponentKind → Watch → Prop), (∀ r ∈ e.reconcilers, r.Sighted s may) →
      ∃ again, Recollects e s may again :=
  ⟨fun _ e s => collects_registerOrphans e s, fun _ _ _ sighted => ⟨_, recollects sighted⟩⟩

/-! ## A detector that is claimed for another kind -/

section
variable {e : Engine Store} {s : Store} {config : Config} {kind : ComponentKind} {w : Watch}
  (alone : e.reconcilers = [(ObjectReconciler.claiming config [(kind, some w)]).toReconciler])
  (readable : Readable [(kind, some w)] s)
include alone readable

theorem finding_alone (cs : List (Component Store)) :
    finding { e with components := cs } s = (w.leftOver kind cs s).map Orphan.component := by
  have kinds : (Claims.watches [(kind, some w)]).entries = [(kind, some w)] := rfl
  have searched : (detect cs e.reconcilers).run s = _ := run_detect_eq e.reconcilers cs s
  rw [alone, ObjectReconciler.claiming_eq_watching, ObjectReconciler.run_detect_watching, kinds,
    ObjectReconciler.run_detect readable, ← ObjectReconciler.claiming_eq_watching, ← alone] at searched
  have found : (Watch.found cs s [(kind, some w)]).map Orphan.component = finding { e with components := cs } s :=
    congrArg (fun ends => ends.1.1) searched
  rw [← found]
  unfold Watch.found
  rw [List.flatMap_singleton]
  rfl

/-- **A detector that is claimed for another kind than its own** finds all of its orphans at every call. -/
theorem registered_of_ne (other : w.kind ≠ kind) (n : Nat) : (registered e s n).1 =
    e.register (List.replicate n ((w.leftOver kind e.components s).map Orphan.component)).flatten := by
  have first : finding e s = _ := finding_alone alone readable e.components
  have again : finding (e.register (finding e s)) s = _ := finding_alone (e := e) alone readable (e.register (finding e s)).components
  have sighted : ∀ r ∈ e.reconcilers, r.Sighted s fun _ _ => True := by
    rw [alone]
    intro r hr
    exact List.mem_singleton.mp hr ▸ .labels config _ fun _ _ _ => trivial
  obtain _ | n := n
  · exact (register_nil e).symm
  · rw [registered_succ fun r hr find hf => (sighted r hr).steadfast hf, again, first]
    show (e.register _).register (List.replicate n ((w.leftOver kind (e.components ++ _) s).map _)).flatten = _
    rw [Watch.leftOver_of_ne other, register_register, List.replicate_succ, List.flatten_cons]

end

end Engine

/-! ## Samples: one detector fails, or looks for another kind, or fails only once -/

namespace Sample
open Rehearsal

/-- The credentials as of an old kind, and next to them a secret of a new kind whose name was taken away. -/
def drawer : Store where
  objects := .ofList [(creds.storeKey, old creds),
    (token.storeKey, Ownership.stamp {} (component "New" (.ok token)) { metadata := { ns? := some "apps" } })]

def claimant (kind : ComponentKind) : ObjectReconciler Store := .claiming {} [(kind, some ⟨{}, kind, secrets, none⟩)]

/-- Nothing is configured; each kind has a reconciler of its own. -/
def collectors : Engine Store where
  config := {}
  reconcilers := [(claimant "Old").toReconciler, (claimant "New").toReconciler]

theorem collectors_sighted : ∀ r ∈ collectors.reconcilers, r.Sighted drawer fun kind w => w.kind = kind := by
  have sighted : ∀ kind, (claimant kind).toReconciler.Sighted drawer fun kind w => w.kind = kind := by
    intro kind
    refine .labels {} _ fun k w hw => ?_
    cases List.mem_singleton.mp hw
    rfl
  intro r hr
  rcases List.mem_pair.mp hr with rfl | rfl <;> exact sighted _

/-- The new kind is claimed with a detector of the old one. -/
def crossed : Engine Store where
  config := {}
  reconcilers := [(ObjectReconciler.claiming {} [("New", some ⟨{}, "Old", secrets, none⟩)]).toReconciler]

/-- The old kind is claimed with its own detector, over a cluster whose calls may fail. -/
def overseer : Engine World where
  config := {}
  reconcilers := [((ObjectReconciler.mk World.client {} .empty).withDetector "Old" (.managedBy {} "Old" secrets)).toReconciler]

/-- A cluster with the credentials, of which one list fails. -/
def lapsing : World where
  store := holding creds (old creds)
  rules := [{ verb := .list, times := some 1, error := .internal "timeout" "unknown" }]

end Sample

namespace Engine
open Sample

/-- The credentials are registered once, however often the other detector fails. -/
theorem registerOrphans_collects_drawer : (registered collectors drawer 3).1.components.map (·.name) = ["Creds"] ∧
    (collectors.registerOrphans.run drawer).1.2.toOption = none ∧
    ((registered collectors drawer 3).1.registerOrphans.run drawer).1.2.toOption = none := by
  obtain ⟨again, recollects⟩ := registerOrphans_collects.2 collectors drawer _ collectors_sighted
  have failed : (collectors.registerOrphans.run drawer).1.2.toOption = none := by decide +kernel
  refine ⟨?_, failed, ?_⟩
  · rw [recollects.registered 2, recollects.nothing fun _ _ own => own]
    decide +kernel
  · have failure : ∃ x, (collectors.registerOrphans.run drawer).1.2 = .error x := by
      cases answer : (collectors.registerOrphans.run drawer).1.2 with
      | ok n =>
        rw [answer] at failed
        cases failed
      | error x => exact ⟨x, rfl⟩
    obtain ⟨x, hx⟩ := recollects.fails failure 2
    rw [hx]
    rfl

/-- A further call may register something, if a detector looks for another kind than it is claimed for, or failed before. -/
theorem not_registerOrphans_collects :
    (¬ ∀ (e : Engine Store) (s : Store), (∀ r ∈ e.reconcilers, r.Sighted s fun _ _ => True) → ∀ n,
      (registered e s (n + 1)).1.components.length = (registered e s 1).1.components.length) ∧
    ¬ ∀ (w : Rehearsal.World) (n : Nat), (registered overseer w (n + 1)).2.store = w.store →
      (registered overseer w (n + 1)).1.components.length = (registered overseer w 1).1.components.length := by
  constructor
  · intro all
    have filed : (holding creds (old creds)).Filed := filed_holding rfl
    have sighted : ∀ r ∈ crossed.reconcilers, r.Sighted (holding creds (old creds)) fun _ _ => True := by
      intro r hr
      exact List.mem_singleton.mp hr ▸ .labels {} _ fun _ _ _ => trivial
    have same := all crossed _ sighted 1
    rw [registered_of_ne rfl (filed.readable _) (by decide), registered_of_ne rfl (filed.readable _) (by decide)] at same
    revert same
    decide +kernel
  · intro all
    have same := all lapsing 1 rfl
    revert same
    decide +kernel

end Engine

end Converge
