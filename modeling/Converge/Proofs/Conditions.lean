import Converge.Proofs.Searches

/-!
# Conditions after a pass

The outcomes of a pass are reported as conditions, one put into the list after the other.

* `Condition.find?_setAll`: of the conditions of a type the last one put in stays.
* `Outcome.report` : the list after every outcome of a pass was reported; `exists_report`: the last outcome of a type is what the
  condition of the type says.
* `Reconciler.ByLabels` : a reconciler finds orphans by ownership labels only. `Engine.Strays` : a detector of such a reconciler lists
  an object and takes it for the orphan, which no component of the kind names; `Engine.exists_strays`: what is registered is so.
* `Engine.sweep_conditions`: the condition of a component says how its own turn ended, unless an orphan bears its name.
-/

namespace Converge

set_option autoImplicit false

variable {σ : Type}

/-! ## Putting conditions into a list -/

namespace Condition
variable {t : String}

/-- The condition as it takes the place of an older one: since the same time if the status is the same. -/
def replacing (c : Condition) : Option Condition → Condition
  | some old => if old.status = c.status then { c with lastTransitionTime := old.lastTransitionTime } else c
  | none => c

theorem find?_set {c : Condition} (h : c.type = t) (cs : List Condition) :
    (set c cs).find? (·.type = t) = some (c.replacing (cs.find? (·.type = t))) := by
  induction cs with
  | nil => exact List.find?_cons_of_pos (by simpa using h)
  | cons old rest ih =>
    unfold set
    by_cases hold : old.type = c.type
    · rw [if_pos hold, List.find?_cons_of_pos (a := old) (by simpa [← h] using hold), replacing]
      split
      all_goals exact List.find?_cons_of_pos (by simpa using h)
    · have hne : old.type ≠ t := h ▸ hold
      rw [if_neg hold, List.find?_cons_of_neg (by simpa using hne), List.find?_cons_of_neg (by simpa using hne), ih]

theorem find?_set_self {c : Condition} (h : c.type = t) (cs : List Condition) :
    ∃ time, (set c cs).find? (·.type = t) = some { c with lastTransitionTime := time } := by
  rw [find?_set h]
  cases cs.find? (·.type = t) with
  | none => exact ⟨c.lastTransitionTime, rfl⟩
  | some old =>
    rw [replacing]
    split
    · exact ⟨old.lastTransitionTime, rfl⟩
    · exact ⟨c.lastTransitionTime, rfl⟩

theorem find?_set_of_ne {c : Condition} (h : c.type ≠ t) (cs : List Condition) :
    (set c cs).find? (·.type = t) = cs.find? (·.type = t) := by
  induction cs with
  | nil => exact List.find?_cons_of_neg (by simpa using h)
  | cons old rest ih =>
    unfold set
    by_cases hold : old.type = c.type
    · have hne : old.type ≠ t := hold ▸ h
      rw [if_pos hold]
      split
      all_goals rw [List.find?_cons_of_neg (by simpa using h), List.find?_cons_of_neg (by simpa using hne)]
    · rw [if_neg hold, List.find?_cons, List.find?_cons, ih]

/-- The list with every condition put in, the first one first. -/
def setAll (ks cs : List Condition) : List Condition := ks.foldl (fun cs k => set k cs) cs

theorem find?_setAll_of_ne {ks : List Condition} (h : ∀ k ∈ ks, k.type ≠ t) (cs : List Condition) :
    (setAll ks cs).find? (·.type = t) = cs.find? (·.type = t) := by
  induction ks generalizing cs with
  | nil => rfl
  | cons k ks ih =>
    change (setAll ks (set k cs)).find? _ = _
    rw [ih fun k' hk' => h k' (List.mem_cons_of_mem _ hk'), find?_set_of_ne (h k List.mem_cons_self)]

/-- **The last one stays**, for the time that its status has been so. -/
theorem find?_setAll {k : Condition} (h : k.type = t) {later : List Condition} (other : ∀ k' ∈ later, k'.type ≠ t)
    (earlier cs : List Condition) :
    ∃ time, (setAll (earlier ++ k :: later) cs).find? (·.type = t) = some { k with lastTransitionTime := time } := by
  have split : setAll (earlier ++ k :: later) cs = setAll later (set k (setAll earlier cs)) := List.foldl_append
  rw [split, find?_setAll_of_ne other]
  exact find?_set_self h _

/-- The condition says how a turn ended. -/
structure Reports (k : Condition) (o : Outcome σ) : Prop where
  status : k.status = if o.isReady then .true else .false
  reason : k.reason = o.status.text
  message : k.message = o.message

end Condition

/-! ## Reporting outcomes -/

namespace Outcome

/-- The conditions after every outcome was reported, each at its own time. -/
def report (clock : Nat → Instant) (os : List (Outcome σ)) (initial : List Condition) : List Condition :=
  Condition.setAll (os.mapIdx fun n o => o.condition (clock n)) initial

theorem reports_condition (o : Outcome σ) (now time : Instant) :
    { o.condition now with lastTransitionTime := time : Condition }.Reports o := by
  obtain ⟨c, status, message⟩ := o
  cases status <;> exact ⟨rfl, rfl, rfl⟩

/-- The last outcome of a type is what the condition of the type says. -/
theorem exists_report {os : List (Outcome σ)} {earlier later : List (Component σ)} {c : Component σ}
    (components : os.map (·.component) = earlier ++ c :: later) (other : ∀ d ∈ later, d.conditionType ≠ c.conditionType)
    (clock : Nat → Instant) (initial : List Condition) :
    ∃ o k, os[earlier.length]? = some o ∧ o.component = c ∧
      (report clock os initial).find? (·.type = c.conditionType) = some k ∧ k.Reports o := by
  obtain ⟨before, rest, rfl, hbefore, hrest⟩ := List.map_eq_append_iff.1 components
  obtain ⟨o, after, rfl, rfl, rfl⟩ := List.map_eq_cons_iff.1 hrest
  have htypes : ∀ k ∈ after.mapIdx (fun n p => p.condition (clock (n + 1 + before.length))), k.type ≠ o.component.conditionType := by
    intro k hk
    obtain ⟨n, hn, rfl⟩ := List.mem_mapIdx.1 hk
    exact other _ (List.mem_map_of_mem (List.getElem_mem hn))
  obtain ⟨time, htime⟩ := Condition.find?_setAll (k := o.condition (clock (0 + before.length))) rfl htypes
    (before.mapIdx fun n p => p.condition (clock n)) initial
  refine ⟨o, _, ?_, rfl, ?_, o.reports_condition (clock (0 + before.length)) time⟩
  · rw [← hbefore, List.length_map, List.getElem?_append_right (Nat.le_refl _), Nat.sub_self]
    rfl
  · unfold report
    rw [List.mapIdx_append, List.mapIdx_cons]
    exact htime

end Outcome

/-! ## Detectors by ownership labels -/

/-- The reconciler looks for orphans by the ownership labels of kinds, in all namespaces or in one, or not at all. -/
inductive Reconciler.ByLabels : Reconciler σ → Prop
  | none {r : Reconciler σ} (h : r.orphans = none) : ByLabels r
  | labels {r : ObjectReconciler σ} (h : ∀ kind d, (kind, some d) ∈ r.kinds.entries → ∃ w : Watch, d = w.detector) :
    ByLabels r.toReconciler

/-- When kinds are searched from a state on, a detector lists an object that it takes for the orphan, and no configured component
of the kind names that. -/
inductive ObjectReconciler.Strays (client : Client σ) (configured : List (Component σ))
    (kinds : List (ComponentKind × Option (Detector σ))) (s : σ) (x : Orphan) : Prop
  | mk {pre kind others found s₁ s₂ objects o} {w : Watch} (claimed : kinds = pre ++ (kind, some w.detector) :: others)
    (reached : (detect client configured pre).run s = (.ok found, s₁))
    (lists : (client.list w.resource w.options).run s₁ = (.ok objects, s₂)) (listed : o ∈ objects) (taken : w.orphan o = .ok x)
    (unowned : ∀ c ∈ configured, c.kind = kind → ¬ c.Names x.identity.storeKey)

/-- When orphans are registered in a state, a detector lists an object that it takes for the orphan, and no configured component
of the kind names that. -/
inductive Engine.Strays (e : Engine σ) (s : σ) (x : Orphan) : Prop
  | mk {r : ObjectReconciler σ} {before after pre kind others found s₁ s₂ objects o} {w : Watch}
    (asks : e.Asks r.client s before r after pre kind w.detector others found s₁)
    (lists : (r.client.list w.resource w.options).run s₁ = (.ok objects, s₂)) (listed : o ∈ objects) (taken : w.orphan o = .ok x)
    (unowned : ∀ c ∈ e.components, c.kind = kind → ¬ c.Names x.identity.storeKey)

/-- What a detector leaves over are listed objects that no configured component of the kind names. -/
theorem Watch.exists_leftOver {w : Watch} {objects : List Object} {candidates : List (Component σ)}
    (h : w.detector.convert objects = .ok candidates) (kind : ComponentKind) (configured : List (Component σ)) :
    ∃ xs : List Orphan, w.detector.leftOver kind configured candidates = xs.map Orphan.component ∧
      ∀ x ∈ xs, (∃ o ∈ objects, w.orphan o = .ok x) ∧ ∀ c ∈ configured, c.kind = kind → ¬ c.Names x.identity.storeKey := by
  rw [w.detector_convert] at h
  by_cases named : ∀ o ∈ objects, ∃ key, o.key = .ok key
  case neg =>
    obtain ⟨x, hx⟩ := mapM_orphan_error (σ := σ) (w := w) named
    cases hx.symm.trans h
  obtain rfl := Except.ok.inj ((mapM_orphan_ok named).symm.trans h)
  refine ⟨(objects.filterMap fun o => (w.orphan o).toOption).filter fun x => !(configured.filter fun c => c.kind == kind).any
    fun c => c.sameObject (Orphan.component x : Component σ), ?_, fun x hx => ?_⟩
  · unfold Detector.leftOver
    rw [List.filter_map, w.detector_same]
    rfl
  · obtain ⟨hfound, unnamed⟩ := List.mem_filter.1 hx
    obtain ⟨o, listed, ho⟩ := List.mem_filterMap.1 hfound
    refine ⟨⟨o, listed, ?_⟩, unnamed_iff.1 unnamed⟩
    cases hox : w.orphan o with
    | error e =>
      rw [hox] at ho
      cases ho
    | ok y =>
      rw [hox] at ho
      exact congrArg Except.ok (Option.some.inj ho)

namespace ObjectReconciler
variable {client : Client σ} {configured : List (Component σ)} {kinds : List (ComponentKind × Option (Detector σ))}

/-- A search that succeeds went on to the other kinds, after it left over some of the candidates that the first detector took its
objects for. It left over none where there is no detector, or nothing to list. -/
theorem detect_cons_ok {kind : ComponentKind} {d? : Option (Detector σ)} {s s' : σ} {cs : List (Component σ)}
    (h : (detect client configured ((kind, d?) :: kinds)).run s = (.ok cs, s')) :
    ∃ first more s₁, (detect client configured kinds).run s₁ = (.ok more, s') ∧ cs = first ++ more ∧
      (∀ others, (detect client configured ((kind, d?) :: others)).run s =
        (((detect client configured others).run s₁).1.map (first ++ ·), ((detect client configured others).run s₁).2)) ∧
      (first = [] ∨ ∃ d objects candidates, d? = some d ∧ (client.list d.resource d.options).run s = (.ok objects, s₁) ∧
        d.convert objects = .ok candidates ∧ first = d.leftOver kind configured candidates) := by
  have passed : ∀ (others : List (ComponentKind × Option (Detector σ))) (t : σ), (detect client configured others).run t =
      (((detect client configured others).run t).1.map ([] ++ ·), ((detect client configured others).run t).2) := by
    intro others t
    rcases (detect client configured others).run t with ⟨x | os, t'⟩ <;> rfl
  cases d? with
  | none => exact ⟨[], cs, s, h, rfl, fun others => passed others s, .inl rfl⟩
  | some d =>
    rcases hlist : (client.list d.resource d.options).run s with ⟨x | objects, s₁⟩
    · rw [run_detect_unlisted hlist] at h
      split at h
      · rename_i unserved
        refine ⟨[], cs, s₁, h, rfl, fun others => ?_, .inl rfl⟩
        rw [run_detect_unlisted hlist, if_pos unserved]
        exact passed others s₁
      · cases h
    · rcases hconvert : d.convert objects with x | candidates
      · rw [run_detect_of_unfit hlist hconvert] at h
        cases h
      · rw [run_detect_of_ok hlist hconvert] at h
        rcases hrest : (detect client configured kinds).run s₁ with ⟨x | more, s₂⟩
        · rw [hrest] at h
          cases h
        · rw [hrest] at h
          obtain ⟨hcs, rfl⟩ := Prod.mk.inj h
          exact ⟨_, more, s₁, hrest, (Except.ok.inj hcs).symm, run_detect_of_ok hlist hconvert,
            .inr ⟨d, objects, candidates, rfl, hlist, hconvert, rfl⟩⟩

/-- What detection answers are orphans, whatever the cluster is like. -/
theorem exists_strays_of_detect (labels : ∀ kind d, (kind, some d) ∈ kinds → ∃ w : Watch, d = w.detector) {s s' : σ}
    {cs : List (Component σ)} (h : (detect client configured kinds).run s = (.ok cs, s')) :
    ∃ xs : List Orphan, cs = xs.map Orphan.component ∧ ∀ x ∈ xs, Strays client configured kinds s x := by
  induction kinds generalizing s cs with
  | nil =>
    obtain ⟨⟨⟩, -⟩ := Prod.mk.inj h
    exact ⟨[], rfl, fun x hx => nomatch hx⟩
  | cons entry rest ih =>
    obtain ⟨kind, d?⟩ := entry
    obtain ⟨first, more, s₁, hrest, rfl, goes, hfirst⟩ := detect_cons_ok h
    obtain ⟨ys, rfl, hys⟩ := ih (fun kind d hd => labels kind d (List.mem_cons_of_mem _ hd)) hrest
    have others : ∀ y ∈ ys, Strays client configured ((kind, d?) :: rest) s y := by
      intro y hy
      obtain @⟨pre, l, others, found, s₂, s₃, objects, o, w, claimed, reached, lists, listed, taken, unowned⟩ := hys y hy
      have reached' : (detect client configured ((kind, d?) :: pre)).run s = (.ok (first ++ found), s₂) := by
        rw [goes, reached]
        rfl
      exact .mk (congrArg ((kind, d?) :: ·) claimed) reached' lists listed taken unowned
    rcases hfirst with rfl | ⟨d, objects, candidates, rfl, lists, hconvert, rfl⟩
    · exact ⟨ys, rfl, others⟩
    · obtain ⟨w, rfl⟩ := labels kind d List.mem_cons_self
      obtain ⟨xs, hxs, hstrays⟩ := Watch.exists_leftOver hconvert kind configured
      rw [w.detector_resource, w.detector_options] at lists
      refine ⟨xs ++ ys, by rw [hxs, List.map_append], fun x hx => ?_⟩
      rcases List.mem_append.1 hx with hx | hx
      · obtain ⟨⟨o, listed, taken⟩, unowned⟩ := hstrays x hx
        exact .mk rfl (show (detect client configured []).run s = (.ok [], s) from rfl) lists listed taken unowned
      · exact others x hx

end ObjectReconciler

namespace Engine

/-- What a reconciler's own search answers are orphans. -/
theorem exists_strays_of_orphans {r : Reconciler σ} (labels : r.ByLabels)
    {find : List (Component σ) → Act σ (List (Component σ))} (horphans : r.orphans = some find) {configured : List (Component σ)}
    {s s' : σ} {cs : List (Component σ)} (h : (find configured).run s = (.ok cs, s')) :
    ∃ (r' : ObjectReconciler σ) (xs : List Orphan), r = r'.toReconciler ∧ cs = xs.map Orphan.component ∧
      ∀ x ∈ xs, ObjectReconciler.Strays r'.client configured r'.kinds.entries s x := by
  cases labels with
  | none hnone => cases hnone.symm.trans horphans
  | @labels r hkinds =>
    obtain rfl : (fun configured => ObjectReconciler.detect r.client configured r.kinds.entries) = find := by
      unfold ObjectReconciler.toReconciler at horphans
      dsimp only at horphans
      split at horphans
      · exact Option.some.inj horphans
      · cases horphans
    obtain ⟨xs, hcs, hxs⟩ := ObjectReconciler.exists_strays_of_detect hkinds h
    exact ⟨r, xs, rfl, hcs, hxs⟩

/-- The orphans of the reconcilers behind the first one are found in the state that it leaves. -/
theorem Strays.cons {e : Engine σ} {r : Reconciler σ} {rs : List (Reconciler σ)} {s : σ} {x : Orphan}
    (h : Strays { e with reconcilers := rs } ((answers e.components [r]).run s).2 x) :
    Strays { e with reconcilers := r :: rs } s x := by
  obtain @⟨r', before, after, pre, kind, others, found, s₁, s₂, objects, o, w, asks, lists, listed, taken, unowned⟩ := h
  obtain ⟨-, registered, claimed, reached⟩ := asks
  have passed : ((answers e.components (r :: before)).run s).2 =
      ((answers e.components before).run ((answers e.components [r]).run s).2).2 := by
    rw [← List.singleton_append, answers_append]
  exact .mk ⟨rfl, congrArg (r :: ·) registered, claimed, passed ▸ reached⟩ lists listed taken unowned

/-- What the first reconciler answers by itself are orphans of all of them. -/
theorem exists_strays_of_first (e : Engine σ) {r : Reconciler σ} (labels : r.ByLabels) (rs : List (Reconciler σ)) (s : σ) :
    ∃ xs : List Orphan, found ((answers e.components [r]).run s).1 = xs.map Orphan.component ∧
      ∀ x ∈ xs, Strays { e with reconcilers := r :: rs } s x := by
  cases horphans : r.orphans with
  | none =>
    rw [answers_cons_none [] e.components horphans]
    exact ⟨[], rfl, fun x hx => nomatch hx⟩
  | some find =>
    rw [run_answers_cons [] e.components s horphans]
    rcases hfind : (find e.components).run.run s with ⟨_ | cs, s'⟩
    · exact ⟨[], rfl, fun x hx => nomatch hx⟩
    · obtain ⟨r', xs, rfl, rfl, hxs⟩ := exists_strays_of_orphans labels horphans hfind
      refine ⟨xs, List.append_nil _, fun x hx => ?_⟩
      obtain @⟨pre, kind, others, found, s₁, s₂, objects, o, w, claimed, reached, lists, listed, taken, unowned⟩ := hxs x hx
      have asks : Asks { e with reconcilers := r'.toReconciler :: rs } r'.client s [] r' rs pre kind w.detector others found s₁ :=
        ⟨rfl, rfl, claimed, reached⟩
      exact .mk asks lists listed taken unowned

theorem exists_strays_of_answers {e : Engine σ} (labels : ∀ r ∈ e.reconcilers, r.ByLabels) (s : σ) : ∃ xs : List Orphan,
    found ((answers e.components e.reconcilers).run s).1 = xs.map Orphan.component ∧ ∀ x ∈ xs, e.Strays s x := by
  obtain ⟨config, components, rs, publish⟩ := e
  induction rs generalizing s with
  | nil => exact ⟨[], rfl, fun x hx => nomatch hx⟩
  | cons r rs ih =>
    obtain ⟨xs, hxs, own⟩ := exists_strays_of_first ⟨config, components, rs, publish⟩ (labels r List.mem_cons_self) rs s
    obtain ⟨ys, hys, later⟩ := ih ((answers components [r]).run s).2 fun r' hr' => labels r' (List.mem_cons_of_mem _ hr')
    have answered : found ((answers components (r :: rs)).run s).1 = found ((answers components [r]).run s).1 ++
        found ((answers components rs).run ((answers components [r]).run s).2).1 := by
      rw [← List.singleton_append, answers_append]
      exact List.flatMap_append
    dsimp only at hxs hys ⊢
    refine ⟨xs ++ ys, by rw [answered, hxs, hys, List.map_append], fun x hx => ?_⟩
    rcases List.mem_append.1 hx with hx | hx
    · exact own x hx
    · exact Strays.cons (e := ⟨config, components, rs, publish⟩) (later x hx)

/-- The components of a pass are the configured ones and then the orphans. -/
theorem exists_strays {e : Engine σ} (labels : ∀ r ∈ e.reconcilers, r.ByLabels) (s : σ) : ∃ xs : List Orphan,
    (e.sweep.run s).1.2.map (·.component) = e.components ++ xs.map Orphan.component ∧ ∀ x ∈ xs, e.Strays s x := by
  obtain ⟨xs, hfound, hstrays⟩ := exists_strays_of_answers labels s
  refine ⟨xs, ?_, hstrays⟩
  rw [run_sweep (run_registerOrphans_eq e s)]
  dsimp only
  rw [components_of_turns, hfound]
  rfl

end Engine

/-! ## Conditions of components and orphans -/

theorem Component.conditionType_of_external {c : Component σ} (h : c.visibility = .external) :
    c.conditionType = c.name ++ "Ready" := by
  unfold conditionType
  rw [h]

theorem Component.conditionType_ne {c d : Component σ} (hc : c.visibility = .external) (hd : d.visibility = .external)
    (h : d.name ≠ c.name) : d.conditionType ≠ c.conditionType := by
  rw [conditionType_of_external hc, conditionType_of_external hd]
  exact fun heq => h (String.append_left_inj _ |>.1 heq)

theorem exists_last {α : Type} {p : α → Prop} {as : List α} (h : ∃ a ∈ as, p a) :
    ∃ earlier a later, as = earlier ++ a :: later ∧ p a ∧ ∀ b ∈ later, ¬ p b := by
  induction as with
  | nil => exact nomatch h
  | cons a as ih =>
    by_cases hrest : ∃ b ∈ as, p b
    · obtain ⟨earlier, b, later, rfl, hb, hlater⟩ := ih hrest
      exact ⟨a :: earlier, b, later, rfl, hb, hlater⟩
    · obtain ⟨b, hb, hpb⟩ := h
      rcases List.mem_cons.1 hb with rfl | hb
      · exact ⟨[], b, as, rfl, hpb, fun b hb hpb => hrest ⟨b, hb, hpb⟩⟩
      · exact absurd ⟨b, hb, hpb⟩ hrest

namespace Engine
variable {e : Engine σ} {os : List (Outcome σ)} {xs : List Orphan} {n : Nat}

/-- The outcome that the condition of the configured component at a place says, when these orphans were registered. -/
inductive Speaks (e : Engine σ) (os : List (Outcome σ)) (xs : List Orphan) (n : Nat) (c : Component σ) (o : Outcome σ) : Prop
  /-- It is its own unless an orphan bears its name. -/
  | own (apart : ∀ x ∈ xs, x.name ≠ c.name) (taken : os[n]? = some o) (component : o.component = c)
  /-- Else it is that of the last such orphan. -/
  | orphan {earlier x later} (registered : xs = earlier ++ x :: later) (bears : x.name = c.name)
    (last : ∀ y ∈ later, y.name ≠ c.name) (taken : os[e.components.length + earlier.length]? = some o)
    (component : o.component = x.component)

section
variable (components : os.map (·.component) = e.components ++ xs.map Orphan.component)
  (external : ∀ c ∈ e.components, c.visibility = .external)
include components external

theorem speaks_orphan (hn : n < e.components.length) {earlier later : List Orphan} {x : Orphan}
    (registered : xs = earlier ++ x :: later) (bears : x.name = e.components[n].name)
    (last : ∀ y ∈ later, y.name ≠ e.components[n].name) (clock : Nat → Instant) (initial : List Condition) :
    ∃ o k, (Outcome.report clock os initial).find? (·.type = e.components[n].conditionType) = some k ∧ k.Reports o ∧
      Speaks e os xs n e.components[n] o := by
  have split : os.map (·.component) =
      (e.components ++ earlier.map Orphan.component) ++ x.component :: later.map Orphan.component := by
    rw [components, registered, List.map_append, List.map_cons, List.append_assoc]
  have same : (x.component : Component σ).conditionType = e.components[n].conditionType := by
    rw [Component.conditionType_of_external (external _ (List.getElem_mem hn)), ← bears]
    rfl
  have other : ∀ d ∈ (later.map Orphan.component : List (Component σ)), d.conditionType ≠ (x.component : Component σ).conditionType := by
    intro d hd
    obtain ⟨y, hy, rfl⟩ := List.mem_map.1 hd
    exact Component.conditionType_ne rfl rfl fun same => last y hy (Eq.trans same bears)
  obtain ⟨o, k, taken, component, hk, hreports⟩ := Outcome.exists_report split other clock initial
  rw [List.length_append, List.length_map] at taken
  exact ⟨o, k, same ▸ hk, hreports, .orphan registered bears last taken component⟩

theorem speaks_own (distinct : (e.components.map (·.name)).Nodup) (hn : n < e.components.length)
    (apart : ∀ x ∈ xs, x.name ≠ e.components[n].name) (clock : Nat → Instant) (initial : List Condition) :
    ∃ o k, (Outcome.report clock os initial).find? (·.type = e.components[n].conditionType) = some k ∧ k.Reports o ∧
      Speaks e os xs n e.components[n] o := by
  have configured : e.components = e.components.take n ++ e.components[n] :: e.components.drop (n + 1) := by
    rw [List.getElem_cons_drop, List.take_append_drop]
  have split : os.map (·.component) =
      e.components.take n ++ e.components[n] :: (e.components.drop (n + 1) ++ xs.map Orphan.component) := by
    rw [components, ← List.cons_append, ← List.append_assoc, ← configured]
  have external' := external _ (List.getElem_mem hn)
  have other : ∀ d ∈ e.components.drop (n + 1) ++ xs.map Orphan.component, d.conditionType ≠ e.components[n].conditionType := by
    intro d hd
    rcases List.mem_append.1 hd with hd | hd
    · rw [configured, List.map_append, List.map_cons] at distinct
      have fresh := (List.nodup_cons.1 (List.nodup_append.1 distinct).2.1).1
      have hname : d.name ≠ e.components[n].name := fun heq => fresh (heq ▸ List.mem_map_of_mem hd)
      exact Component.conditionType_ne external' (external d (List.mem_of_mem_drop hd)) hname
    · obtain ⟨x, hx, rfl⟩ := List.mem_map.1 hd
      exact Component.conditionType_ne external' rfl (apart x hx)
  obtain ⟨o, k, taken, component, hk, hreports⟩ := Outcome.exists_report split other clock initial
  rw [List.length_take, Nat.min_eq_left (Nat.le_of_lt hn)] at taken
  exact ⟨o, k, hk, hreports, .own apart taken component⟩

end

/-- **A component keeps its own condition unless an orphan bears its name.** After a pass the condition of a configured component
says how the component's own turn ended, if no orphan that was registered bears its name; else it says how the turn of the last
orphan of that name ended. Orphans bear the component label of their object, or without one its name. -/
theorem sweep_conditions (labels : ∀ r ∈ e.reconcilers, r.ByLabels) (external : ∀ c ∈ e.components, c.visibility = .external)
    (distinct : (e.components.map (·.name)).Nodup) (s : σ) (clock : Nat → Instant) (initial : List Condition) :
    ∃ xs : List Orphan, (e.sweep.run s).1.2.map (·.component) = e.components ++ xs.map Orphan.component ∧
      (∀ x ∈ xs, e.Strays s x) ∧
      ∀ (n : Nat) (c : Component σ), e.components[n]? = some c →
        ∃ o k, (Outcome.report clock (e.sweep.run s).1.2 initial).find? (·.type = c.name ++ "Ready") = some k ∧
          k.Reports o ∧ Speaks e (e.sweep.run s).1.2 xs n c o := by
  obtain ⟨xs, components, strays⟩ := exists_strays labels s
  refine ⟨xs, components, strays, fun n c hc => ?_⟩
  obtain ⟨hn, rfl⟩ := List.getElem?_eq_some_iff.1 hc
  rw [← Component.conditionType_of_external (external _ (List.getElem_mem hn))]
  by_cases bears : ∃ x ∈ xs, x.name = e.components[n].name
  · obtain ⟨earlier, x, later, registered, hx, last⟩ := exists_last bears
    exact speaks_orphan components external hn registered hx last clock initial
  · exact speaks_own components external distinct hn (fun x hx heq => bears ⟨x, hx, heq⟩) clock initial

end Engine

/-! ## A sample: credentials under another name -/

namespace Sample

/-- The credentials, which an earlier pass left under their old name, configured under a new one and not allowed there. -/
def relocated : Engine Store :=
  engine [{ component "Old" (.ok ⟨secrets, ⟨some "apps", "creds-2"⟩⟩) with installable := pure false }] ["Old"]

theorem relocated_byLabels : ∀ r ∈ relocated.reconcilers, r.ByLabels := by
  intro r hr
  obtain rfl := List.mem_singleton.1 hr
  refine .labels fun kind d hd => ?_
  obtain ⟨⟨kind', w⟩, -, he⟩ := List.mem_map.1 hd
  cases w with
  | none => cases he
  | some w => exact ⟨w, (Option.some.inj (Prod.mk.inj he).2).symm⟩

theorem relocated_external : ∀ c ∈ relocated.components, c.visibility = .external := by
  intro c hc
  obtain rfl := List.mem_singleton.1 hc
  rfl

/-- The old credentials are removed, and that is what the condition says. -/
theorem relocated_conditions : (relocated.sweep.run (store "Old")).1.2.map (·.status) = [.componentNotAllowed, .uninstalled] ∧
    Outcome.report (fun _ => ⟨0, 0⟩) (relocated.sweep.run (store "Old")).1.2 [] =
      [{ type := "CredsReady", status := .true, reason := "Uninstalled", message := "Creds has been uninstalled successfully." }] := by
  decide +kernel

theorem sweep_conditions_relocated : ∃ xs c o k, relocated.components[0]? = some c ∧ (∀ x ∈ xs, relocated.Strays (store "Old") x) ∧
    (Outcome.report (fun _ => ⟨0, 0⟩) (relocated.sweep.run (store "Old")).1.2 []).find? (·.type = "CredsReady") = some k ∧
    k.Reports o ∧ Engine.Speaks relocated (relocated.sweep.run (store "Old")).1.2 xs 0 c o := by
  obtain ⟨xs, -, strays, conditions⟩ := Engine.sweep_conditions relocated_byLabels relocated_external (by decide) (store "Old")
    (fun _ => ⟨0, 0⟩) []
  obtain ⟨o, k, hk, hreports, hspeaks⟩ := conditions 0 _ rfl
  exact ⟨xs, _, o, k, rfl, strays, hk, hreports, hspeaks⟩

/-- An orphan may take the place of a component in the conditions. -/
theorem not_sweep_conditions : ¬ ∀ (e : Engine Store) (s : Store) (clock : Nat → Instant) (initial : List Condition),
    (∀ r ∈ e.reconcilers, r.ByLabels) → (∀ c ∈ e.components, c.visibility = .external) → (e.components.map (·.name)).Nodup →
    ∀ (n : Nat) (c : Component Store) (own : Outcome Store), e.components[n]? = some c → (e.sweep.run s).1.2[n]? = some own →
      ∃ k ∈ Outcome.report clock (e.sweep.run s).1.2 initial, k.type = c.name ++ "Ready" ∧
        (k.status = .true ↔ own.isReady = true) ∧ k.reason = own.status.text := by
  intro h
  obtain ⟨statuses, conditions⟩ := relocated_conditions
  obtain ⟨own, rest, houtcomes, hown, -⟩ := List.map_eq_cons_iff.1 statuses
  have first : (relocated.sweep.run (store "Old")).1.2[0]? = some own := by
    rw [houtcomes]
    rfl
  obtain ⟨k, hk, -, -, hreason⟩ := h relocated (store "Old") (fun _ => ⟨0, 0⟩) [] relocated_byLabels relocated_external (by decide)
    0 _ own rfl first
  rw [conditions] at hk
  obtain rfl := List.mem_singleton.1 hk
  rw [hown] at hreason
  exact absurd hreason (by decide)

end Sample

end Converge
