import Converge.Proofs.Selectors
import Converge.Proofs.Sweeps
import Mathlib.Data.List.Nodup

/-!
# Collecting what is not configured any more

* `Universe` : a family of objects, each with the kind of the component that owns it. `Component.Member` : a component of
  the family; `Engine.Within` : a pass over members of it.
* `Covers` : the detectors look for all of the family, with the labels that are stamped. `Fresh` : a store to start from.
* `Tidy` : the invariant of all passes: outside the family nothing changed, and every object of it carries its labels.
* `Tidy.mem_found_keys`, `Tidy.nodup_found`: in such a store detection finds exactly what is there and not configured, once.
* `Tidy.sweep`, `tidy_sweeps`: passes keep the invariant. `sweeps_collect`: what every pass of a run comes to.
-/

namespace Converge

set_option autoImplicit false

/-! ## Families of objects -/

/-- A family of objects: the kind of the component that owns the object of each key, none outside the family. -/
abbrev Universe : Type := StoreKey → Option ComponentKind

/-- The component is one of the family. -/
structure Component.Member (config : Config) (U : Universe) (c : Component Store) : Prop where
  passive : c.Passive
  owns : ∃ v i, c.Owns v i ∧ U i.storeKey = some c.kind ∧ v.Respects config

/-- The detectors look for the objects of the family by the labels of the configuration. -/
structure Covers (config : Config) (ws : Watches) (U : Universe) : Prop where
  sound : config.Sound
  watches : ∀ kind w, (kind, some w) ∈ ws.entries → w.config = config ∧ w.kind = kind ∧ w.ns? = none ∧ Plain kind
  covered : ∀ k kind, U k = some kind →
    ∃ w, (kind, some w) ∈ ws.entries ∧ w.resource.apiVersion = k.apiVersion ∧ w.resource.kind = k.kind

/-- A store to start from: it serves everything and holds nothing of the family and nothing that is managed. -/
structure Fresh (config : Config) (U : Universe) (s : Store) : Prop where
  served : s.unserved = []
  empty : ∀ k kind, U k = some kind → ¬ s.Has k
  unmanaged : ∀ k o, s.objects.get? k = some o → Selector.selects config.managedSelector o.metadata.labelMap = false

/-- The invariant of passes that start from a store: outside the family nothing changed, and every object of the family is
filed under its own key and carries the labels of its component. -/
structure Tidy (config : Config) (U : Universe) (s₀ s : Store) : Prop where
  served : s.unserved = []
  outside : ∀ k, U k = none → s.objects.get? k = s₀.objects.get? k
  inside : ∀ k kind o, U k = some kind → s.objects.get? k = some o → o.key = .ok k.key ∧ Ownership.Marks config kind o

theorem Fresh.tidy {config : Config} {U : Universe} {s : Store} (h : Fresh config U s) : Tidy config U s s :=
  ⟨h.served, fun _ _ => rfl, fun k kind o hU ho => absurd (Store.has_iff.mpr ⟨o, ho⟩) (h.empty k kind hU)⟩

theorem Covers.claimed {config : Config} {ws : Watches} {U : Universe} (h : Covers config ws U) {k : StoreKey}
    {kind : ComponentKind} (hU : U k = some kind) : (ObjectReconciler.watching config ws).kinds.contains kind = true := by
  obtain ⟨w, hw, -⟩ := h.covered k kind hU
  rw [ObjectReconciler.watching_contains]
  exact Option.isSome_iff_exists.mpr ⟨_, (ws.mem_entries_iff kind (some w)).mp hw⟩

theorem Component.Member.kind_of_names {config : Config} {U : Universe} {c : Component Store} (h : c.Member config U)
    {k : StoreKey} (hk : c.Names k) : U k = some c.kind := by
  obtain ⟨v, i, ho, hU, -⟩ := h.owns
  exact ho.names_iff.mp hk ▸ hU

/-! ## What detectors find in a tidy store -/

theorem Watch.matching_everywhere_iff {w : Watch} (hn : w.ns? = none) (k : StoreKey) (o : Object) :
    Store.matching w.resource w.options (k, o) = true ↔ k.apiVersion = w.resource.apiVersion ∧ k.kind = w.resource.kind ∧
      Selector.selects (w.config.kindSelector w.kind) o.metadata.labelMap = true := by
  rw [matching_iff, hn]
  simp only [true_or, true_and]

theorem Watch.listed_of_served {w : Watch} {s : Store} (h : s.unserved = []) :
    w.listed s = (s.objects.entries.filter (Store.matching w.resource w.options)).map (·.2) := by
  unfold Watch.listed
  rw [if_pos (Store.serves_of_nil h w.resource)]

section
variable {config : Config} {ws : Watches} {U : Universe} (hc : Covers config ws U) {s₀ s : Store} (h₀ : Fresh config U s₀)
  (h : Tidy config U s₀ s) {kind : ComponentKind} {w : Watch} (hw : (kind, some w) ∈ ws.entries)
include hc h₀ h hw

/-- What matches is an object of the family whose component is of the kind. -/
theorem Tidy.matching_iff {k : StoreKey} {o : Object} (ho : s.objects.get? k = some o) :
    Store.matching w.resource w.options (k, o) = true ↔
      k.apiVersion = w.resource.apiVersion ∧ k.kind = w.resource.kind ∧ U k = some kind := by
  obtain ⟨hconfig, hkind, hns, hplain⟩ := hc.watches kind w hw
  rw [Watch.matching_everywhere_iff hns, hconfig, hkind, Ownership.selects_kindSelector_iff (hc.sound.legible.reads hplain)]
  refine and_congr_right fun _ => and_congr_right fun _ => ⟨fun hm => ?_, fun hU => (h.inside k kind o hU ho).2⟩
  cases hU : U k with
  | none =>
    rw [h.outside k hU] at ho
    cases (h₀.unmanaged k o ho).symm.trans (hm.selected hc.sound)
  | some kind' =>
    obtain ⟨-, hm'⟩ := h.inside k kind' o hU ho
    exact hm'.kind.symm.trans hm.kind

/-- What is listed is filed under its own key, and of the family. -/
theorem Tidy.orphan_of_mem {e : StoreKey × Object}
    (he : e ∈ s.objects.entries.filter (Store.matching w.resource w.options)) :
    U e.1 = some kind ∧ s.Has e.1 ∧ ∃ x, w.orphan e.2 = .ok x ∧ x.identity.storeKey = e.1 ∧ x.kind = kind := by
  obtain ⟨k, o⟩ := e
  obtain ⟨hm, hmatch⟩ := List.mem_filter.mp he
  have ho := (s.objects.mem_entries_iff k o).mp hm
  obtain ⟨hapi, hkind, hU⟩ := (h.matching_iff hc h₀ hw ho).mp hmatch
  obtain ⟨hkey, -⟩ := h.inside k kind o hU ho
  refine ⟨hU, Store.has_iff.mpr ⟨o, ho⟩, _, Watch.orphan_eq_ok.mpr ⟨k.key, hkey, rfl⟩, ?_, (hc.watches kind w hw).2.1⟩
  change StoreKey.mk w.resource.apiVersion w.resource.kind k.key = k
  rw [← hapi, ← hkind]

theorem Tidy.named_of_listed : ∀ o ∈ w.listed s, ∃ key, o.key = .ok key := by
  intro o ho
  rw [Watch.listed_of_served h.served] at ho
  obtain ⟨e, he, rfl⟩ := List.mem_map.mp ho
  obtain ⟨-, -, x, hx, -⟩ := h.orphan_of_mem hc h₀ hw he
  obtain ⟨key, hkey, -⟩ := Watch.orphan_eq_ok.mp hx
  exact ⟨key, hkey⟩

/-- The candidates are the objects that are listed, in their order. -/
theorem Tidy.candidates_keys : (w.candidates s).map (·.identity.storeKey) =
    (s.objects.entries.filter (Store.matching w.resource w.options)).map (·.1) := by
  unfold Watch.candidates
  rw [Watch.listed_of_served h.served]
  have all := fun e he => h.orphan_of_mem hc h₀ hw (e := e) he
  generalize s.objects.entries.filter (Store.matching w.resource w.options) = l at all ⊢
  induction l with
  | nil => rfl
  | cons e l ih =>
    obtain ⟨-, -, x, hx, hk, -⟩ := all e List.mem_cons_self
    rw [List.map_cons, List.filterMap_cons, hx]
    change x.identity.storeKey :: _ = e.1 :: _
    rw [hk, ih fun e' he' => all e' (List.mem_cons_of_mem _ he')]

theorem Tidy.nodup_candidates : ((w.candidates s).map (·.identity.storeKey)).Nodup := by
  rw [h.candidates_keys hc h₀ hw]
  exact s.objects.nodup_keys.sublist (List.filter_sublist.map _)

/-- The candidates of a kind are the objects of the family whose components are of the kind. -/
theorem Tidy.mem_candidates_keys {k : StoreKey} : (∃ x ∈ w.candidates s, x.identity.storeKey = k) ↔
    s.Has k ∧ U k = some kind ∧ k.apiVersion = w.resource.apiVersion ∧ k.kind = w.resource.kind := by
  have keys := h.candidates_keys hc h₀ hw
  have mem : (∃ x ∈ w.candidates s, x.identity.storeKey = k) ↔
      k ∈ (w.candidates s).map (·.identity.storeKey) := List.mem_map.symm
  rw [mem, keys, List.mem_map]
  constructor
  · rintro ⟨e, he, rfl⟩
    obtain ⟨hU, hs, -⟩ := h.orphan_of_mem hc h₀ hw he
    obtain ⟨hm, hmatch⟩ := List.mem_filter.mp he
    obtain ⟨hapi, hkind, -⟩ := (h.matching_iff hc h₀ hw ((s.objects.mem_entries_iff _ _).mp hm)).mp hmatch
    exact ⟨hs, hU, hapi, hkind⟩
  · rintro ⟨hs, hU, hapi, hkind⟩
    obtain ⟨o, ho⟩ := Store.has_iff.mp hs
    exact ⟨(k, o), List.mem_filter.mpr ⟨(s.objects.mem_entries_iff k o).mpr ho,
      (h.matching_iff hc h₀ hw ho).mpr ⟨hapi, hkind, hU⟩⟩, rfl⟩

end

section
variable {config : Config} {ws : Watches} {U : Universe} (hc : Covers config ws U) {s₀ s : Store} (h₀ : Fresh config U s₀)
  (h : Tidy config U s₀ s)
include hc h₀ h

theorem Tidy.readable : Readable ws.entries s := fun _ _ hw => h.named_of_listed hc h₀ hw

theorem Tidy.kind_of_mem_found {cs : List (Component Store)} {x : Orphan} (hx : x ∈ Watch.found cs s ws.entries) :
    U x.identity.storeKey = some x.kind := by
  obtain ⟨kind, w, hw, hl⟩ := Watch.mem_found.mp hx
  obtain ⟨hcand, -⟩ := Watch.mem_leftOver.mp hl
  obtain ⟨-, hU, -⟩ := (h.mem_candidates_keys hc h₀ hw).mp ⟨x, hcand, rfl⟩
  obtain ⟨o, -, ho⟩ := Watch.mem_candidates.mp hcand
  obtain ⟨key, -, rfl⟩ := Watch.orphan_eq_ok.mp ho
  rw [hU]
  exact congrArg some (hc.watches kind w hw).2.1.symm

/-- Detection finds exactly the objects of the family that are there and not configured. -/
theorem Tidy.mem_found_keys {cs : List (Component Store)} (hm : ∀ c ∈ cs, c.Member config U) {k : StoreKey} :
    (∃ x ∈ Watch.found cs s ws.entries, x.identity.storeKey = k) ↔ s.Has k ∧ U k ≠ none ∧ ∀ c ∈ cs, ¬ c.Names k := by
  constructor
  · rintro ⟨x, hx, rfl⟩
    obtain ⟨kind, w, hw, hl⟩ := Watch.mem_found.mp hx
    obtain ⟨hcand, hno⟩ := Watch.mem_leftOver.mp hl
    obtain ⟨hs, hU, -⟩ := (h.mem_candidates_keys hc h₀ hw).mp ⟨x, hcand, rfl⟩
    refine ⟨hs, hU ▸ Option.some_ne_none _, fun c hcs hn => hno c hcs ?_ hn⟩
    exact Option.some.inj (((hm c hcs).kind_of_names hn).symm.trans hU)
  · rintro ⟨hs, hU, hno⟩
    obtain ⟨kind, hkind⟩ := Option.ne_none_iff_exists'.mp hU
    obtain ⟨w, hw, hapi, htype⟩ := hc.covered k kind hkind
    obtain ⟨x, hx, rfl⟩ := (h.mem_candidates_keys hc h₀ hw).mpr ⟨hs, hkind, hapi.symm, htype.symm⟩
    exact ⟨x, Watch.mem_found.mpr ⟨kind, w, hw, Watch.mem_leftOver.mpr ⟨hx, fun c hcs _ => hno c hcs⟩⟩, rfl⟩

/-- Detection finds each of them once. -/
theorem Tidy.nodup_found (cs : List (Component Store)) :
    ((Watch.found cs s ws.entries).map (·.identity.storeKey)).Nodup := by
  unfold Watch.found
  rw [List.map_flatMap, List.nodup_flatMap]
  constructor
  · rintro ⟨kind, w | w⟩ hw
    · exact List.nodup_nil
    · exact (h.nodup_candidates hc h₀ hw).sublist (List.filter_sublist.map _)
  · -- what is found for different kinds is owned by components of different kinds
    refine List.Pairwise.imp_of_mem ?_ (List.pairwise_map.mp ws.nodup_keys)
    rintro ⟨kind, w | w⟩ ⟨kind', w' | w'⟩ hw hw' hne k hk hk'
    · cases hk
    · cases hk
    · cases hk'
    obtain ⟨x, hx, rfl⟩ := List.mem_map.mp hk
    obtain ⟨y, hy, hxy⟩ := List.mem_map.mp hk'
    obtain ⟨-, hU, -⟩ := (h.mem_candidates_keys hc h₀ hw).mp ⟨x, (Watch.mem_leftOver.mp hx).1, rfl⟩
    obtain ⟨-, hU', -⟩ := (h.mem_candidates_keys hc h₀ hw').mp ⟨y, (Watch.mem_leftOver.mp hy).1, hxy⟩
    exact hne (Option.some.inj (hU.symm.trans hU'))

end

/-! ## Passes keep a store tidy -/

theorem Object.key_congr {o d : Object} (h : o.metadata = d.metadata) : o.key = d.key := by
  unfold key
  rw [h]

theorem Ownership.Marks.congr {config : Config} {kind : ComponentKind} {o d : Object} (hm : Marks config kind d)
    (h : o.metadata = d.metadata) : Marks config kind o := by
  have label : ∀ l, o.label? l = d.label? l := by
    intro l
    unfold Object.label?
    rw [h]
  obtain ⟨name, hn⟩ := hm.named
  exact ⟨(label _).trans hm.managed, ⟨name, (label _).trans hn⟩, (label _).trans hm.kind⟩

section
variable {config : Config} {ws : Watches} {U : Universe} (hc : Covers config ws U) {s₀ s : Store}
  (h : Tidy config U s₀ s) {e : Engine Store} (hd : e.DrivenBy (.watching config ws))

include h in
theorem Tidy.deleted {k : StoreKey} (hU : U k ≠ none) : Tidy config U s₀ (s.deleted k) := by
  refine ⟨h.served, fun k' hk' => ?_, fun k' kind o hk' ho => ?_⟩
  · rw [(s.frame_deleted k).entry k' fun he => hU (he ▸ hk'), h.outside k' hk']
  · by_cases he : k' = k
    · rw [he, Store.get?_deleted] at ho
      cases ho
    · rw [(s.frame_deleted k).entry k' he] at ho
      exact h.inside k' kind o hk' ho

include hc h hd in
/-- The turn of a component of the family keeps the store tidy. -/
theorem Tidy.turn {c : Component Store} (hm : c.Member config U) : Tidy config U s₀ ((e.turn c).run s).2 := by
  obtain ⟨v, i, ho, hU, hv⟩ := hm.owns
  have ht := hd.turn_objectTurn (hc.claimed hU) ho hm.passive s
  refine ⟨ht.frame.unserved.trans h.served, fun k hk => ?_, fun k kind o hk hko => ?_⟩
  · have other : ¬ k = i.storeKey := by
      rintro rfl
      cases hk.symm.trans hU
    rw [ht.frame.entry k other, h.outside k hk]
  · by_cases he : k = i.storeKey
    case neg =>
      rw [ht.frame.entry k he] at hko
      exact h.inside k kind o hk hko
    subst he
    rcases ht.written hko with hko | ⟨o', d, -, made, named, same⟩
    · exact h.inside _ kind o hk hko
    · obtain rfl := Option.some.inj (hU.symm.trans hk)
      have hmarks := (Ownership.marks_stamp hc.sound.valid c o').shaped hv made
      exact ⟨(Object.key_congr same).trans named, hmarks.congr same⟩

include h hd in
/-- The turn of an orphan of the family keeps the store tidy. -/
theorem Tidy.turn_orphan {x : Orphan} (hU : U x.identity.storeKey ≠ none) :
    Tidy config U s₀ ((e.turn x.component).run s).2 := by
  cases hk : (ObjectReconciler.watching config ws).kinds.contains x.kind with
  | false =>
    rw [(hd.turn_unclaimed hk s).2]
    exact h
  | true =>
    rcases (hd.turn_objectTurn (c := x.component) hk x.owns x.passive s).eq_of_unwanted rfl with hs | hs
    · rw [hs]
      exact h
    · rw [hs]
      exact h.deleted hU

end

/-! ## Runs of passes -/

namespace Engine

structure Within (config : Config) (ws : Watches) (U : Universe) (e : Engine Store) : Prop where
  driven : e.DrivenBy (.watching config ws)
  members : ∀ c ∈ e.components, c.Member config U
  distinct : Component.Distinct e.components

/-- The store after passes that look for orphans first. -/
def sweeps (es : List (Engine Store)) (s : Store) : Store := es.foldl (fun s e => (e.sweep.run s).2) s

end Engine

/-- What it takes to be installed in a pass. -/
theorem Engine.Within.installable_iff {config : Config} {ws : Watches} {U : Universe} {e e' : Engine Store}
    (he : e.Within config ws U) {xs : List Orphan} {n : Nat} {c : Component Store} {v : ObjectView}
    {i : ObjectIdentity} (hn : e.components[n]? = some c) (hv : c.Owns v i)
    (hcomponents : e'.components = e.components ++ xs.map Orphan.component) {s t : Store} (served : t.unserved = [])
    (same : t.Has i.storeKey ↔ s.Has i.storeKey) : e'.Installable (.watching config ws) c v i t ↔
      ¬ s.Has i.storeKey ∧ (c.installable.run t).1 = .ok true ∧ Engine.DependenciesMet e.components c ∧
        ∃ d, v.shape (Ownership.stamp config c i.shell) = .ok d := by
  obtain ⟨w, j, hw, -, respects⟩ := (he.members c (List.mem_of_getElem? hn)).owns
  obtain rfl : v = w := Option.some.inj (hv.object.symm.trans hw.object)
  constructor
  · rintro ⟨-, gone, check, dependencies, d, made, -⟩
    rw [hcomponents, Orphan.dependenciesMet_append] at dependencies
    exact ⟨fun hs => gone (same.mpr hs), check, dependencies, d, made⟩
  · rintro ⟨gone, check, dependencies, d, made⟩
    refine ⟨Store.serves_of_nil served _, fun ht => gone (same.mp ht), check, ?_, d, made, ?_⟩
    · rw [hcomponents, Orphan.dependenciesMet_append]
      exact dependencies
    · rw [respects.key made, Ownership.key_stamp]
      exact Object.key_shell ..

/-- What a pass over a store comes to, in a run that started from another one. -/
structure Collected (config : Config) (U : Universe) (e : Engine Store) (s₀ s : Store) : Prop where
  /-- Outside the family nothing has changed since the start. -/
  outside : ∀ k, U k = none → (e.sweep.run s).2.objects.get? k = s₀.objects.get? k
  /-- Of the family nothing is there that is not configured. -/
  unconfigured : ∀ k, U k ≠ none → (∀ c ∈ e.components, ¬ c.Names k) → ¬ (e.sweep.run s).2.Has k
  /-- A wanted component has its object if it had it before or is installed, and it is installed if it did not have it, may be
  installed when its turn comes, has what it needs and can make the object. -/
  wanted : ∀ (n : Nat) (c : Component Store) (v : ObjectView) (i : ObjectIdentity), e.components[n]? = some c →
    c.Owns v i → c.enabled = true → ∃ o, (e.sweep.run s).1.2[n]? = some o ∧
      ((e.sweep.run s).2.Has i.storeKey ↔ s.Has i.storeKey ∨ o.status = .installed) ∧
      (o.status = .installed ↔ ¬ s.Has i.storeKey ∧ (c.installable.run (e.swept s n)).1 = .ok true ∧
        Engine.DependenciesMet e.components c ∧ ∃ d, v.shape (Ownership.stamp config c i.shell) = .ok d)
  /-- An unwanted component has its object if it had it before and keeps it; it is reported accordingly. -/
  unwanted : ∀ (n : Nat) (c : Component Store) (v : ObjectView) (i : ObjectIdentity), e.components[n]? = some c →
    c.Owns v i → c.enabled = false → ∃ o, (e.sweep.run s).1.2[n]? = some o ∧
      o.status = (if s.Has i.storeKey then .uninstalled else .disabled) ∧
      ((e.sweep.run s).2.Has i.storeKey ↔ s.Has i.storeKey ∧ (c.keep && e.config.honorKeep) = true)
  /-- What is there of the family carries the labels of its component. -/
  marked : ∀ k kind o, U k = some kind → (e.sweep.run s).2.objects.get? k = some o →
    o.key = .ok k.key ∧ Ownership.Marks config kind o
  /-- What was there and is not configured was registered, each once, and nothing else; it is reported as uninstalled. -/
  registered : ∃ xs : List Orphan, (e.sweep.run s).1.1 = .ok xs.length ∧ (xs.map (·.identity.storeKey)).Nodup ∧
    (∀ k, (∃ x ∈ xs, x.identity.storeKey = k) ↔ s.Has k ∧ U k ≠ none ∧ ∀ c ∈ e.components, ¬ c.Names k) ∧
    (e.sweep.run s).1.2.map (·.component) = e.components ++ xs.map Orphan.component ∧
    ∀ o ∈ (e.sweep.run s).1.2.drop e.components.length, o.status = .uninstalled

section
variable {config : Config} {ws : Watches} {U : Universe} (hc : Covers config ws U) {s₀ s : Store} (h₀ : Fresh config U s₀)
  (h : Tidy config U s₀ s) {e : Engine Store} (he : e.Within config ws U)
include hc h₀ h he

open Engine

/-- The run of a pass: the turns of the components, then those of the orphans. -/
theorem Tidy.run_sweep : ∃ (e' : Engine Store) (xs : List Orphan), xs = Watch.found e.components s ws.entries ∧
    e'.DrivenBy (.watching config ws) ∧ e'.config = e.config ∧ e'.components = e.components ++ xs.map Orphan.component ∧
    (∀ n ≤ e.components.length, e.swept s n = ((e'.turns (e.components.take n)).run s).2) ∧
    e.sweep.run s = ((.ok xs.length, ((e'.turns e.components).run s).1 ++
      ((e'.turns (xs.map Orphan.component)).run ((e'.turns e.components).run s).2).1),
      ((e'.turns (xs.map Orphan.component)).run ((e'.turns e.components).run s).2).2) := by
  have hreg := he.driven.run_registerOrphans (h.readable hc h₀)
  refine ⟨_, _, rfl, he.driven.register ((Watch.found e.components s ws.entries).map Orphan.component), rfl, rfl,
    fun n hn => swept_of_le hreg hn, ?_⟩
  rw [Engine.run_sweep hreg]
  change ((_, ((turns _ (e.components ++ _)).run s).1), ((turns _ (e.components ++ _)).run s).2) = _
  rw [turns_append_run]

/-- A pass keeps the store tidy. -/
theorem Tidy.sweep : Tidy config U s₀ (e.sweep.run s).2 := by
  obtain ⟨e', xs, hxs, hd, -, -, -, hrun⟩ := h.run_sweep hc h₀ he
  rw [hrun]
  have own : Tidy config U s₀ ((e'.turns e.components).run s).2 :=
    turns_induction e' e.components (fun c hmem t ht => ht.turn hc hd (he.members c hmem)) s h
  refine turns_induction e' _ (fun c hmem t ht => ?_) _ own
  obtain ⟨x, hx, rfl⟩ := List.mem_map.mp hmem
  have hU := h.kind_of_mem_found hc h₀ (hxs ▸ hx)
  exact ht.turn_orphan hd (hU ▸ Option.some_ne_none _)

/-- What becomes of the object of a configured component is up to its turn. -/
theorem Tidy.own_turn {n : Nat} {c : Component Store} {v : ObjectView} {i : ObjectIdentity} (hn : e.components[n]? = some c)
    (hv : c.Owns v i) : ∃ (e' : Engine Store) (xs : List Orphan) (o : Outcome Store) (s' : Store), e'.config = e.config ∧
      e'.components = e.components ++ xs.map Orphan.component ∧ (e.swept s n).unserved = [] ∧
      ((e.swept s n).Has i.storeKey ↔ s.Has i.storeKey) ∧
      ObjectTurn e' (.watching config ws) c v i (e.swept s n) o.status s' ∧ (e.sweep.run s).1.2[n]? = some o ∧
      ((e.sweep.run s).2.Has i.storeKey ↔ s'.Has i.storeKey) := by
  obtain ⟨e', xs, hxs, hd, hconfig, hcomponents, hswept, hrun⟩ := h.run_sweep hc h₀ he
  have hmem := List.mem_of_getElem? hn
  have hnames : c.Names i.storeKey := hv.names_iff.mpr rfl
  have passive := fun d hd => (he.members d hd).passive
  obtain ⟨t, ht, before, ho, after⟩ := hd.own_turn passive he.distinct hn hnames s
  obtain rfl := (hswept n (Nat.le_of_lt (List.getElem?_eq_some_iff.mp hn).1)).trans ht.symm
  have claimed := hc.claimed ((he.members c hmem).kind_of_names hnames)
  refine ⟨e', xs, _, _, hconfig, hcomponents, before.unserved.trans h.served, before.has fun hne => hne rfl,
    hd.turn_objectTurn claimed hv (passive c hmem) _, ?_, ?_⟩
  · rw [hrun]
    dsimp only
    rw [List.getElem?_append_left (List.getElem?_eq_some_iff.mp ho).1, ho]
  · rw [hrun, ← after.has fun hne => hne rfl]
    -- detection did not find the object of a configured component
    refine (hd.turns_frame (fun d hd => ?_) _).has fun ⟨d, hd, hk⟩ => ?_
    · obtain ⟨x, -, rfl⟩ := List.mem_map.mp hd
      exact x.passive
    · obtain ⟨x, hx, rfl⟩ := List.mem_map.mp hd
      have found := (h.mem_found_keys hc h₀ he.members).mp ⟨x, hxs ▸ hx, x.owns.names_iff.mp hk⟩
      exact found.2.2 c hmem hnames

theorem Tidy.unconfigured {k : StoreKey} (hU : U k ≠ none) (hno : ∀ c ∈ e.components, ¬ c.Names k) :
    ¬ (e.sweep.run s).2.Has k := by
  obtain ⟨e', xs, hxs, hd, -, -, -, hrun⟩ := h.run_sweep hc h₀ he
  have frame := hd.turns_frame (fun c hmem => (he.members c hmem).passive) s
  have same := frame.has fun ⟨c, hmem, hk⟩ => hno c hmem hk
  rw [hrun]
  dsimp only
  rw [hd.orphans_has, same]
  rintro ⟨hs, hleft⟩
  obtain ⟨x, hx, rfl⟩ := (h.mem_found_keys hc h₀ he.members).mpr ⟨hs, hU, hno⟩
  have served := Store.serves_of_nil (frame.unserved.trans h.served) x.identity.resource
  exact hleft ⟨served, x, hxs ▸ hx, rfl, hc.claimed (h.kind_of_mem_found hc h₀ hx)⟩

theorem Tidy.registered : ∃ xs : List Orphan, (e.sweep.run s).1.1 = .ok xs.length ∧
    (xs.map (·.identity.storeKey)).Nodup ∧
    (∀ k, (∃ x ∈ xs, x.identity.storeKey = k) ↔ s.Has k ∧ U k ≠ none ∧ ∀ c ∈ e.components, ¬ c.Names k) ∧
    (e.sweep.run s).1.2.map (·.component) = e.components ++ xs.map Orphan.component ∧
    ∀ o ∈ (e.sweep.run s).1.2.drop e.components.length, o.status = .uninstalled := by
  obtain ⟨e', xs, hxs, hd, -, -, -, hrun⟩ := h.run_sweep hc h₀ he
  have once : (xs.map (·.identity.storeKey)).Nodup := hxs ▸ h.nodup_found hc h₀ e.components
  have frame := hd.turns_frame (fun c hmem => (he.members c hmem).passive) s
  have own := components_of_turns e' e.components s
  have length : ((e'.turns e.components).run s).1.length = e.components.length := by
    rw [← congrArg List.length own, List.length_map]
  refine ⟨xs, by rw [hrun], once, fun k => hxs ▸ h.mem_found_keys hc h₀ he.members, ?_, ?_⟩
  · rw [hrun]
    dsimp only
    rw [List.map_append, own, components_of_turns]
  · rw [hrun]
    dsimp only
    rw [List.drop_left' length]
    refine hd.orphans_uninstalled once fun x hx => ?_
    obtain ⟨hs, -, hno⟩ := (h.mem_found_keys hc h₀ he.members).mp ⟨x, hxs ▸ hx, rfl⟩
    have claimed := hc.claimed (h.kind_of_mem_found hc h₀ (hxs ▸ hx))
    have served := Store.serves_of_nil (frame.unserved.trans h.served) x.identity.resource
    exact ⟨claimed, served, (frame.has fun ⟨c, hmem, hk⟩ => hno c hmem hk).mpr hs⟩

/-- A pass over a tidy store collects exactly what is not configured. -/
theorem Tidy.collected : Collected config U e s₀ s := by
  have tidy := h.sweep hc h₀ he
  refine ⟨tidy.outside, fun k hU hno => ?_, fun n c v i hn hv wanted => ?_, fun n c v i hn hv unwanted => ?_,
    tidy.inside, ?_⟩
  · exact h.unconfigured hc h₀ he hU hno
  · obtain ⟨e', xs, o, s', -, hcomponents, served, hs, ht, ho, hs'⟩ := h.own_turn hc h₀ he hn hv
    have able := he.installable_iff hn hv hcomponents served hs
    refine ⟨o, ho, ?_, ?_⟩
    · rw [hs', ht.has_of_wanted wanted, ht.installed_iff wanted, hs]
    · rw [ht.installed_iff wanted, able]
  · obtain ⟨e', xs, o, s', hconfig, -, served, hs, ht, ho, hs'⟩ := h.own_turn hc h₀ he hn hv
    have shows : (e.swept s n).Shows i.storeKey ↔ s.Has i.storeKey := by
      unfold Store.Shows
      rw [hs]
      exact ⟨And.right, fun hk => ⟨Store.serves_of_nil served i.resource, hk⟩⟩
    obtain ⟨there, gone⟩ := ht.status_of_unwanted unwanted
    rw [shows] at there gone
    refine ⟨o, ho, ?_, ?_⟩
    · split
      · exact there ‹_›
      · exact gone ‹_›
    · rw [hs', ht.has_of_unwanted unwanted, hs, served, hconfig]
      simp
  · exact h.registered hc h₀ he

end

section
variable {config : Config} {ws : Watches} {U : Universe} (hc : Covers config ws U) {s₀ : Store} (h₀ : Fresh config U s₀)
include hc h₀

theorem tidy_sweeps {es : List (Engine Store)} (hes : ∀ e ∈ es, e.Within config ws U) {s : Store}
    (h : Tidy config U s₀ s) : Tidy config U s₀ (Engine.sweeps es s) := by
  induction es generalizing s with
  | nil => exact h
  | cons e es ih =>
    exact ih (fun e' he' => hes e' (List.mem_cons_of_mem _ he')) (h.sweep hc h₀ (hes e List.mem_cons_self))

/-- **Garbage collection is exact over whole runs.** After any passes over components of a family, the next pass leaves of
the family what is configured and wanted or kept, and leaves everything else as it was at the start. -/
theorem sweeps_collect {es : List (Engine Store)} (hes : ∀ e ∈ es, e.Within config ws U) {e : Engine Store}
    (he : e.Within config ws U) : Collected config U e s₀ (Engine.sweeps es s₀) :=
  (tidy_sweeps hc h₀ hes h₀.tidy).collected hc h₀ he

end

namespace Sample

def family : Universe := fun k => if k = creds.storeKey then some "Old" else none

theorem covers : Covers {} (watches ["Old"]) family := by
  have entries : (watches ["Old"]).entries = [("Old", some { config := {}, kind := "Old", resource := secrets })] := by
    decide +kernel
  refine ⟨⟨rfl, by decide +kernel, by decide +kernel, by decide +kernel⟩, fun kind w hw => ?_, fun k kind hk => ?_⟩
  · rw [entries, List.mem_singleton] at hw
    cases hw
    exact ⟨rfl, rfl, rfl, by decide +kernel⟩
  · unfold family at hk
    split at hk
    · rename_i hkey
      cases hk
      subst hkey
      exact ⟨_, by rw [entries]; exact List.mem_singleton_self _, rfl, rfl⟩
    · cases hk

theorem fresh : Fresh {} family {} := by
  refine ⟨rfl, fun _ _ _ => Bool.false_ne_true, fun k o ho => ?_⟩
  rw [show ({} : Store).objects.get? k = none from rfl] at ho
  cases ho

theorem within : (engine [component "Old" (.ok creds)] ["Old"]).Within {} (watches ["Old"]) family := by
  have respects : ObjectView.Respects {} ⟨.ok creds, .ok, fun _ => .good⟩ := by
    refine ⟨?_, ?_, ?_⟩ <;> (rintro o d ⟨⟩; intros; rfl)
  refine ⟨drivenBy _ _, List.forall_mem_singleton.mpr ⟨passive _ _, _, creds, ⟨rfl, rfl⟩, ?_, respects⟩,
    List.pairwise_singleton _ _⟩
  exact if_pos rfl

theorem within_nil : (engine [] ["Old"]).Within {} (watches ["Old"]) family :=
  ⟨drivenBy _ _, fun _ hc => absurd hc List.not_mem_nil, .nil⟩

/-- Credentials that were installed are collected when they are not configured any more. -/
theorem sweeps_collect_creds :
    (Engine.sweeps [engine [component "Old" (.ok creds)] ["Old"]] {}).Has creds.storeKey ∧
      ¬ ((engine [] ["Old"]).sweep.run (Engine.sweeps [engine [component "Old" (.ok creds)] ["Old"]] {})).2.Has
        creds.storeKey := by
  have collected := sweeps_collect covers fresh (List.forall_mem_singleton.mpr within) within_nil
  refine ⟨by decide +kernel, collected.unconfigured creds.storeKey ?_ fun _ hc => absurd hc List.not_mem_nil⟩
  unfold family
  rw [if_pos rfl]
  exact Option.some_ne_none _

end Sample

end Converge
