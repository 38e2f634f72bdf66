import Converge.Proofs.ObjectTurns

/-!
# What detectors find

* `Watch` : what a detector by ownership labels goes by; `Watch.listed` are the objects that it is given, `Watch.Finds` says
  that one of a key is among them.
* `Watch.found` : the orphans that the detectors of some kinds come to; `mem_found`.
* `run_detect`: a reconciler of objects finds exactly these, or fails because a listed object has no name (`Readable`).
* `DrivenBy.run_registerOrphans`: registering orphans looks at the store and registers what is found.
* `DrivenBy.orphans_has`: the turns of orphans delete their objects, and nothing else.
-/

namespace Converge

set_option autoImplicit false

/-- What a detector by ownership labels goes by. -/
structure Watch where
  config : Config
  /-- The kind whose objects are looked for. -/
  kind : ComponentKind
  resource : Resource
  /-- None looks in all namespaces. -/
  ns? : Option String := none
deriving DecidableEq

/-- The claimed kinds, and how the orphans of each are found. -/
abbrev Watches : Type := SortedMap ComponentKind (Option Watch)

namespace Watch
variable {σ : Type}

/-- The detector. -/
def detector (w : Watch) : Detector σ :=
  match w.ns? with
  | none => .managedBy w.config w.kind w.resource
  | some ns => (Detector.managedBy w.config w.kind w.resource).inNamespace ns

/-- Which objects the detector lists. -/
def options (w : Watch) : ListOptions := { ns? := w.ns?, selector := some (w.config.kindSelector w.kind) }

theorem detector_options (w : Watch) : (w.detector : Detector σ).options = w.options := by
  unfold detector options
  cases w.ns? <;> rfl

theorem detector_resource (w : Watch) : (w.detector : Detector σ).resource = w.resource := by
  unfold detector
  cases w.ns? <;> rfl

theorem detector_same (w : Watch) : (w.detector : Detector σ).same = Component.sameObject := by
  unfold detector
  cases w.ns? <;> rfl

/-- Takes an object for an orphan; it must have a name. -/
def orphan (w : Watch) (o : Object) : Except Error Orphan :=
  Orphan.ofObject w.kind w.resource w.config.componentLabel o

theorem detector_convert (w : Watch) (objects : List Object) :
    (w.detector : Detector σ).convert objects = objects.mapM fun o => (w.orphan o).map Orphan.component := by
  unfold detector
  cases w.ns? <;> rfl

theorem orphan_eq_ok {w : Watch} {o : Object} {x : Orphan} : w.orphan o = .ok x ↔
    ∃ key, o.key = .ok key ∧ x = ⟨(o.label? w.config.componentLabel).getD key.name, w.kind, ⟨w.resource, key⟩⟩ := by
  unfold orphan Orphan.ofObject
  cases o.key with
  | error e => exact ⟨nofun, nofun⟩
  | ok key => exact ⟨fun h => ⟨key, rfl, (Except.ok.inj h).symm⟩, fun ⟨_, hk, hx⟩ => hx ▸ Except.ok.inj hk ▸ rfl⟩

/-- The objects that the detector is given; a type that is not served has none. -/
def listed (w : Watch) (s : Store) : List Object :=
  if s.Serves w.resource then (s.objects.entries.filter (Store.matching w.resource w.options)).map (·.2) else []

/-- The detector is given what is of its type and in its namespace, if it looks in one only, and meets its selector. -/
theorem matching_iff {w : Watch} {k : StoreKey} {o : Object} : Store.matching w.resource w.options (k, o) = true ↔
    k.apiVersion = w.resource.apiVersion ∧ k.kind = w.resource.kind ∧ (w.ns? = none ∨ k.key.ns? = w.ns?) ∧
      Selector.selects (w.config.kindSelector w.kind) o.metadata.labelMap = true := by
  unfold Store.matching options
  cases w.ns? <;> simp [and_assoc]

/-- An object with this key is among those that the detector is given. -/
def Finds (w : Watch) (s : Store) (k : StoreKey) : Prop :=
  ∃ o ∈ w.listed s, ∃ key, o.key = .ok key ∧ w.resource.storeKey key = k

/-- The orphans that the listed objects are taken for. -/
def candidates (w : Watch) (s : Store) : List Orphan := (w.listed s).filterMap fun o => (w.orphan o).toOption

theorem mem_candidates {w : Watch} {s : Store} {x : Orphan} :
    x ∈ w.candidates s ↔ ∃ o ∈ w.listed s, w.orphan o = .ok x := by
  unfold candidates
  rw [List.mem_filterMap]
  refine exists_congr fun o => and_congr_right fun _ => ?_
  cases w.orphan o with
  | error e => exact ⟨nofun, nofun⟩
  | ok y => exact ⟨fun h => congrArg _ (Option.some.inj h), fun h => congrArg _ (Except.ok.inj h)⟩

/-- The candidates that are no configured component of the kind. -/
def leftOver (w : Watch) (kind : ComponentKind) (configured : List (Component σ)) (s : Store) : List Orphan :=
  (w.candidates s).filter fun x => !(configured.filter fun c => c.kind == kind).any fun c =>
    c.sameObject (Orphan.component x : Component σ)

/-- The orphans that the detectors of some kinds come to, in the order of the kinds. -/
def found (configured : List (Component σ)) (s : Store) (kinds : List (ComponentKind × Option Watch)) : List Orphan :=
  kinds.flatMap fun e => (e.2.map fun w => w.leftOver e.1 configured s).getD []

theorem unnamed_iff {kind : ComponentKind} {configured : List (Component σ)} {x : Orphan} :
    (!(configured.filter fun c => c.kind == kind).any fun c => c.sameObject (Orphan.component x : Component σ)) = true ↔
      ∀ c ∈ configured, c.kind = kind → ¬ c.Names x.identity.storeKey := by
  rw [Bool.not_eq_true', List.any_eq_false]
  constructor
  · intro h c hc hk hn
    have hm : c ∈ configured.filter fun c => c.kind == kind := List.mem_filter.mpr ⟨hc, beq_iff_eq.mpr hk⟩
    exact h c hm ((Component.sameObject_iff (b := Orphan.component x) rfl).mpr hn)
  · intro h c hc hs
    obtain ⟨hm, hk⟩ := List.mem_filter.mp hc
    exact h c hm (beq_iff_eq.mp hk) ((Component.sameObject_iff (b := Orphan.component x) rfl).mp hs)

theorem mem_leftOver {w : Watch} {kind : ComponentKind} {configured : List (Component σ)} {s : Store} {x : Orphan} :
    x ∈ w.leftOver kind configured s ↔
      x ∈ w.candidates s ∧ ∀ c ∈ configured, c.kind = kind → ¬ c.Names x.identity.storeKey := by
  unfold leftOver
  rw [List.mem_filter, unnamed_iff]

theorem mem_found {configured : List (Component σ)} {s : Store} {kinds : List (ComponentKind × Option Watch)} {x : Orphan} :
    x ∈ found configured s kinds ↔ ∃ kind w, (kind, some w) ∈ kinds ∧ x ∈ w.leftOver kind configured s := by
  unfold found
  rw [List.mem_flatMap]
  constructor
  · rintro ⟨⟨kind, w | w⟩, he, hx⟩
    · cases hx
    · exact ⟨kind, w, he, hx⟩
  · rintro ⟨kind, w, he, hx⟩
    exact ⟨(kind, some w), he, hx⟩

end Watch

/-- Every listed object has a name. -/
def Readable (kinds : List (ComponentKind × Option Watch)) (s : Store) : Prop :=
  ∀ kind w, (kind, some w) ∈ kinds → ∀ o ∈ w.listed s, ∃ key, o.key = .ok key

namespace Readable
variable {kind : ComponentKind} {w : Watch} {rest : List (ComponentKind × Option Watch)} {s : Store}

theorem cons_none : Readable ((kind, none) :: rest) s ↔ Readable rest s := by
  constructor
  · exact fun h k w hw => h k w (List.mem_cons_of_mem _ hw)
  · intro h k w hw
    rcases List.mem_cons.mp hw with hw | hw
    · cases hw
    · exact h k w hw

theorem cons_some :
    Readable ((kind, some w) :: rest) s ↔ (∀ o ∈ w.listed s, ∃ key, o.key = .ok key) ∧ Readable rest s := by
  constructor
  · exact fun h => ⟨h kind w List.mem_cons_self, fun k w hw => h k w (List.mem_cons_of_mem _ hw)⟩
  · rintro ⟨h, hrest⟩ k w' hw
    rcases List.mem_cons.mp hw with hw | hw
    · cases hw
      exact h
    · exact hrest k w' hw

end Readable

/-! ## The detectors on a store -/

namespace Watch
variable {σ : Type} {w : Watch}

theorem mapM_orphan_ok {objects : List Object} (h : ∀ o ∈ objects, ∃ key, o.key = .ok key) :
    (objects.mapM fun o => (w.orphan o).map (Orphan.component (σ := σ))) =
      .ok ((objects.filterMap fun o => (w.orphan o).toOption).map Orphan.component) := by
  induction objects with
  | nil => rfl
  | cons o rest ih =>
    obtain ⟨key, hk⟩ := h o List.mem_cons_self
    have ho := orphan_eq_ok (w := w).mpr ⟨key, hk, rfl⟩
    rw [List.mapM_cons, ih fun o' ho' => h o' (List.mem_cons_of_mem _ ho'), ho, List.filterMap_cons, ho]
    rfl

theorem mapM_orphan_error {objects : List Object} (h : ¬ ∀ o ∈ objects, ∃ key, o.key = .ok key) :
    ∃ x, (objects.mapM fun o => (w.orphan o).map (Orphan.component (σ := σ))) = .error x := by
  induction objects with
  | nil => exact absurd (fun _ ho => nomatch ho) h
  | cons o rest ih =>
    rw [List.mapM_cons]
    cases ho : w.orphan o with
    | error x => exact ⟨x, rfl⟩
    | ok y =>
      obtain ⟨key, hk, _⟩ := orphan_eq_ok.mp ho
      obtain ⟨x, hx⟩ := ih fun hall => h fun o' ho' => by
        rcases List.mem_cons.mp ho' with rfl | ho'
        · exact ⟨key, hk⟩
        · exact hall o' ho'
      exact ⟨x, by rw [hx]; rfl⟩

theorem leftOver_component (kind : ComponentKind) (configured : List (Component σ)) (s : Store) :
    w.detector.leftOver kind configured ((w.candidates s).map Orphan.component) =
      (w.leftOver kind configured s).map Orphan.component := by
  unfold Detector.leftOver leftOver
  rw [List.filter_map, w.detector_same]
  rfl

end Watch

namespace ObjectReconciler

/-- The claimed kinds with their detectors. -/
def detectors (kinds : List (ComponentKind × Option Watch)) : List (ComponentKind × Option (Detector Store)) :=
  kinds.map fun e => (e.1, e.2.map Watch.detector)

section
variable {σ : Type} {client : Client σ} {configured : List (Component σ)} {kind : ComponentKind} {d : Detector σ} {s s' : σ}

/-- A detector whose objects can be listed goes before those of the other kinds. -/
theorem run_detect_listed {existing : List Object} (lists : (client.list d.resource d.options).run s = (.ok existing, s'))
    (others : List (ComponentKind × Option (Detector σ))) :
    (detect client configured ((kind, some d) :: others)).run s = (Act.ofExcept (d.convert existing) >>= fun candidates => do
      return d.leftOver kind configured candidates ++ (← detect client configured others)).run s' := by
  conv => lhs; unfold detect
  rw [Act.run_attempt_bind lists]

/-- A detector whose objects cannot be listed ends the search, or is passed over. -/
theorem run_detect_unlisted {x : Error} (fails : (client.list d.resource d.options).run s = (.error x, s'))
    (others : List (ComponentKind × Option (Detector σ))) :
    (detect client configured ((kind, some d) :: others)).run s =
      if x.isKindNotFound then (detect client configured others).run s' else (.error x, s') := by
  conv => lhs; unfold detect
  rw [Act.run_attempt_bind fails]
  cases hx : x.isKindNotFound <;> simp only [hx] <;> rfl

end

variable {configured : List (Component Store)} {kinds : List (ComponentKind × Option Watch)} {s : Store}

/-- The run of one detector before those of the other kinds, on a store. -/
theorem run_detect_cons (kind : ComponentKind) (w : Watch) (rest : List (ComponentKind × Option (Detector Store))) :
    (detect Store.client configured ((kind, some w.detector) :: rest)).run s =
      ((Act.ofExcept (w.detector.convert (w.listed s)) >>= fun candidates => do
        return w.detector.leftOver kind configured candidates ++ (← detect Store.client configured rest)).run s) := by
  unfold Watch.listed
  by_cases served : s.Serves w.resource
  · rw [run_detect_listed (Store.run_list (w.detector_resource ▸ served) _), if_pos served, w.detector_resource, w.detector_options]
  · rw [run_detect_unlisted (Store.run_list_unserved (w.detector_resource ▸ served) _), if_neg served, w.detector_convert]
    change (detect Store.client configured rest).run s = (do
      return ([] : List (Component Store)) ++ (← detect Store.client configured rest)).run s
    rw [run_bind_pure]
    rcases (detect Store.client configured rest).run s with ⟨x | os, s'⟩ <;> rfl

/-- Detection leaves the store alone and finds what is left over, if it can read what is listed. -/
theorem run_detect (h : Readable kinds s) :
    (detect Store.client configured (detectors kinds)).run s =
      (.ok ((Watch.found configured s kinds).map Orphan.component), s) := by
  induction kinds with
  | nil => rfl
  | cons e rest ih =>
    obtain ⟨kind, w | w⟩ := e
    · exact ih (Readable.cons_none.mp h)
    · obtain ⟨named, hrest⟩ := Readable.cons_some.mp h
      change (detect Store.client configured ((kind, some w.detector) :: detectors rest)).run s = _
      rw [run_detect_cons, w.detector_convert, Watch.mapM_orphan_ok named, run_bind_ok (Act.run_ofExcept _ s),
        run_bind_ok (ih hrest)]
      change (Except.ok (w.detector.leftOver kind configured ((w.candidates s).map Orphan.component) ++ _), s) = _
      rw [Watch.leftOver_component, ← List.map_append]
      rfl

/-- Detection fails if it cannot read what is listed. -/
theorem run_detect_unreadable (configured : List (Component Store)) (h : ¬ Readable kinds s) :
    ∃ x, (detect Store.client configured (detectors kinds)).run s = (.error x, s) := by
  induction kinds with
  | nil => exact absurd (fun _ _ hw => nomatch hw) h
  | cons e rest ih =>
    obtain ⟨kind, w | w⟩ := e
    · exact ih fun hr => h (Readable.cons_none.mpr hr)
    · change ∃ x, (detect Store.client configured ((kind, some w.detector) :: detectors rest)).run s = _
      rw [run_detect_cons, w.detector_convert]
      by_cases named : ∀ o ∈ w.listed s, ∃ key, o.key = .ok key
      · obtain ⟨x, hx⟩ := ih fun hr => h (Readable.cons_some.mpr ⟨named, hr⟩)
        refine ⟨x, ?_⟩
        rw [Watch.mapM_orphan_ok named, run_bind_ok (Act.run_ofExcept _ s), run_bind_error hx]
      · obtain ⟨x, hx⟩ := Watch.mapM_orphan_error (σ := Store) (w := w) named
        refine ⟨x, ?_⟩
        rw [hx, run_bind_error (Act.run_ofExcept _ s)]

/-- The reconciler on a store whose detectors go by ownership labels. -/
def watching (config : Config) (ws : Watches) : ObjectReconciler Store :=
  ⟨Store.client, config, ws.map fun w => w.map Watch.detector⟩

theorem watching_contains (config : Config) (ws : Watches) (kind : ComponentKind) :
    (watching config ws).kinds.contains kind = ws.contains kind :=
  SortedMap.contains_map ..

/-- The search for orphans, which a reconciler without detectors leaves out, comes to what its detectors find. -/
theorem run_detect_watching (config : Config) (ws : Watches) :
    (Engine.detect configured [(watching config ws).toReconciler]).run s =
      match (detect Store.client configured (detectors ws.entries)).run s with
      | (.ok os, s') => ((os, []), s')
      | (.error x, s') => (([], [x]), s') := by
  unfold Engine.detect toReconciler
  dsimp only
  by_cases some : ((watching config ws).kinds.entries.any fun e => e.2.isSome) = true
  · rw [if_pos some]
    dsimp only
    rw [StateT.run_bind]
    change (((detect Store.client configured (detectors ws.entries)).run s : Id _) >>= fun p => _) = _
    rcases hd : (detect Store.client configured (detectors ws.entries)).run s with ⟨x | os, s'⟩
    · rfl
    · change (((os ++ [], []), s') : (List (Component Store) × List Error) × Store) = _
      rw [List.append_nil]
  · rw [if_neg some]
    have nobody : ∀ kind w, (kind, Option.some w) ∉ ws.entries := by
      intro kind w hw
      refine some (List.any_eq_true.mpr ⟨(kind, Option.some w.detector), ?_, rfl⟩)
      exact List.mem_map.mpr ⟨(kind, Option.some w), hw, rfl⟩
    have nothing : Watch.found configured s ws.entries = [] := by
      refine List.eq_nil_iff_forall_not_mem.mpr fun x hx => ?_
      obtain ⟨kind, w, hw, _⟩ := Watch.mem_found.mp hx
      exact nobody kind w hw
    rw [run_detect fun kind w hw => absurd hw (nobody kind w), nothing]
    rfl

end ObjectReconciler

/-! ## Orphans in a pass -/

/-- The detectors take the object under the key for an orphan of a kind that is claimed. -/
def Orphaned (ws : Watches) (configured : List (Component Store)) (s : Store) (k : StoreKey) : Prop :=
  Readable ws.entries s ∧ ∃ kind w, (kind, some w) ∈ ws.entries ∧ ws.contains w.kind = true ∧ w.Finds s k ∧
    ∀ c ∈ configured, c.kind = kind → ¬ c.Names k

theorem Watch.exists_mem_found {ws : Watches} {configured : List (Component Store)} {s : Store} {k : StoreKey} :
    (∃ x ∈ Watch.found configured s ws.entries, x.identity.storeKey = k ∧ ws.contains x.kind = true) ↔
      ∃ kind w, (kind, some w) ∈ ws.entries ∧ ws.contains w.kind = true ∧ w.Finds s k ∧
        ∀ c ∈ configured, c.kind = kind → ¬ c.Names k := by
  constructor
  · rintro ⟨x, hx, rfl, hk⟩
    obtain ⟨kind, w, hw, hl⟩ := mem_found.mp hx
    obtain ⟨hc, hno⟩ := mem_leftOver.mp hl
    obtain ⟨o, ho, hox⟩ := mem_candidates.mp hc
    obtain ⟨key, hkey, rfl⟩ := orphan_eq_ok.mp hox
    exact ⟨kind, w, hw, hk, ⟨o, ho, key, hkey, rfl⟩, hno⟩
  · rintro ⟨kind, w, hw, hk, ⟨o, ho, key, hkey, rfl⟩, hno⟩
    have hox := orphan_eq_ok (w := w).mpr ⟨key, hkey, rfl⟩
    exact ⟨_, mem_found.mpr ⟨kind, w, hw, mem_leftOver.mpr ⟨mem_candidates.mpr ⟨o, ho, hox⟩, hno⟩⟩, rfl, hk⟩

namespace Orphan

theorem passive {σ : Type} (x : Orphan) : (x.component : Component σ).Passive :=
  ⟨fun phase => by cases phase <;> rfl, fun _ => rfl⟩

/-- Orphans meet no dependencies. -/
theorem dependenciesMet_append {σ : Type} (cs : List (Component σ)) (xs : List Orphan) (c : Component σ) :
    Engine.DependenciesMet (cs ++ xs.map component) c ↔ Engine.DependenciesMet cs c := by
  refine forall₂_congr fun kind _ => ?_
  simp only [← Engine.firstOf_eq_some]
  unfold Engine.firstOf
  rw [List.find?_append]
  cases hf : cs.find? (·.kind == kind) with
  | some d => exact Iff.rfl
  | none =>
    refine ⟨fun ⟨d, hd, he⟩ => ?_, fun ⟨d, hd, _⟩ => nomatch hd⟩
    obtain ⟨x, -, rfl⟩ := List.mem_map.mp (List.mem_of_find?_eq_some hd)
    cases he

theorem owns {σ : Type} (x : Orphan) : (x.component : Component σ).Owns ⟨.ok x.identity, .ok, fun _ => .good⟩ x.identity :=
  ⟨rfl, rfl⟩

end Orphan

namespace Engine.DrivenBy
variable {e : Engine Store} {r : ObjectReconciler Store}

theorem register (h : e.DrivenBy r) (cs : List (Component Store)) : (e.register cs).DrivenBy r :=
  ⟨h.reconcilers, h.client, h.discreet⟩

section
variable (h : e.DrivenBy r)
include h

/-- The turn of an orphan deletes its object, and nothing else. -/
theorem orphan_has (x : Orphan) (s : Store) (k : StoreKey) :
    (((e.turn x.component).run s).2.Has k ↔
      s.Has k ∧ ¬ (k.kind ∉ s.unserved ∧ x.identity.storeKey = k ∧ r.kinds.contains x.kind = true)) ∧
      ((e.turn x.component).run s).2.unserved = s.unserved := by
  cases hk : r.kinds.contains x.kind with
  | false =>
    rw [(h.turn_unclaimed hk s).2]
    exact ⟨⟨fun hs => ⟨hs, fun hx => Bool.false_ne_true hx.2.2⟩, And.left⟩, rfl⟩
  | true =>
    have ht := h.turn_objectTurn (c := x.component) hk x.owns x.passive s
    refine ⟨?_, ht.frame.unserved⟩
    by_cases hx : x.identity.storeKey = k
    · subst hx
      rw [ht.has_of_unwanted rfl]
      refine and_congr_right fun _ => ⟨fun hu hn => hn.1 (hu.resolve_right Bool.false_ne_true), fun hn => .inl ?_⟩
      exact Decidable.not_not.mp fun hu => hn ⟨hu, rfl, rfl⟩
    · rw [ht.frame.has (Ne.symm hx)]
      exact ⟨fun hs => ⟨hs, fun hn => hx hn.2.1⟩, And.left⟩

/-- The turns of orphans delete their objects, and nothing else. -/
theorem orphans_has (xs : List Orphan) (s : Store) (k : StoreKey) :
    ((e.turns (xs.map Orphan.component)).run s).2.Has k ↔
      s.Has k ∧ ¬ (k.kind ∉ s.unserved ∧ ∃ x ∈ xs, x.identity.storeKey = k ∧ r.kinds.contains x.kind = true) := by
  induction xs generalizing s with
  | nil => exact ⟨fun hs => ⟨hs, fun ⟨_, _, hx, _⟩ => nomatch hx⟩, And.left⟩
  | cons x xs ih =>
    obtain ⟨hx, hu⟩ := h.orphan_has x s k
    rw [List.map_cons, turns_cons_run]
    dsimp only
    rw [ih, hx, hu, and_assoc]
    simp only [List.mem_cons, exists_eq_or_imp, and_or_left, not_or]

/-- The turns of orphans that are there report them as uninstalled. -/
theorem orphans_uninstalled {xs : List Orphan} (once : (xs.map (·.identity.storeKey)).Nodup) {s : Store}
    (there : ∀ x ∈ xs, r.kinds.contains x.kind = true ∧ s.Shows x.identity.storeKey) :
    ∀ o ∈ ((e.turns (xs.map Orphan.component)).run s).1, o.status = .uninstalled := by
  induction xs generalizing s with
  | nil => exact fun o ho => nomatch ho
  | cons x xs ih =>
    obtain ⟨hx, once⟩ := List.nodup_cons.mp once
    obtain ⟨claimed, shows⟩ := there x List.mem_cons_self
    have ht := h.turn_objectTurn (c := x.component) claimed x.owns x.passive s
    intro o ho
    rw [List.map_cons, turns_cons_run] at ho
    rcases List.mem_cons.mp ho with rfl | ho
    · exact (ht.status_of_unwanted rfl).1 shows
    · refine ih once (fun y hy => ?_) o ho
      obtain ⟨hk, served, hs⟩ := there y (List.mem_cons_of_mem _ hy)
      have other : ¬ y.identity.storeKey = x.identity.storeKey := fun he => hx (List.mem_map.mpr ⟨y, hy, he⟩)
      exact ⟨hk, by rw [ht.frame.unserved]; exact served, (ht.frame.has other).mpr hs⟩

end

variable {config : Config} {ws : Watches} (h : e.DrivenBy (.watching config ws)) {s : Store}
include h

/-- Registering orphans looks at the store and registers what is found. -/
theorem run_registerOrphans (readable : Readable ws.entries s) :
    e.registerOrphans.run s = ((e.register ((Watch.found e.components s ws.entries).map Orphan.component),
      .ok (Watch.found e.components s ws.entries).length), s) := by
  unfold registerOrphans
  rw [h.reconcilers, StateT.run_bind, ObjectReconciler.run_detect_watching, ObjectReconciler.run_detect readable]
  change ((_, Except.ok (List.length (List.map _ _))), s) = _
  rw [List.length_map]

/-- Registering orphans that cannot be read registers none. -/
theorem run_registerOrphans_unreadable (unreadable : ¬ Readable ws.entries s) :
    ∃ x, e.registerOrphans.run s = ((e.register [], .error x), s) := by
  obtain ⟨x, hx⟩ := ObjectReconciler.run_detect_unreadable e.components unreadable
  unfold registerOrphans
  rw [h.reconcilers, StateT.run_bind, ObjectReconciler.run_detect_watching, hx]
  exact ⟨_, rfl⟩

/-- Registering orphans registers components for the orphaned keys, and those only. -/
theorem exists_registered (s : Store) : ∃ (xs : List Orphan) (answer : Except Error Nat),
    e.registerOrphans.run s = ((e.register (xs.map Orphan.component), answer), s) ∧
      ((∃ n, answer = .ok n) ↔ Readable ws.entries s) ∧
      ∀ k, (∃ x ∈ xs, x.identity.storeKey = k ∧ (ObjectReconciler.watching config ws).kinds.contains x.kind = true) ↔
        Orphaned ws e.components s k := by
  simp only [ObjectReconciler.watching_contains]
  by_cases readable : Readable ws.entries s
  · refine ⟨_, _, h.run_registerOrphans readable, ⟨fun _ => readable, fun _ => ⟨_, rfl⟩⟩, fun k => ?_⟩
    rw [Watch.exists_mem_found]
    exact ⟨fun hf => ⟨readable, hf⟩, And.right⟩
  · obtain ⟨x, hx⟩ := h.run_registerOrphans_unreadable readable
    refine ⟨[], _, hx, ⟨nofun, fun hr => absurd hr readable⟩, fun k => ⟨nofun, fun ho => absurd ho.1 readable⟩⟩

end Engine.DrivenBy

end Converge
