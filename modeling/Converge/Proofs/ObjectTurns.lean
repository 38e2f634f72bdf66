import Converge.Proofs.StoreEffects
import Converge.Proofs.Turns
import Converge.Reconciler.Objects

/-!
# Turns of components that own one object

* `Component.Owns`, `Component.Names` : which object a component owns. `Component.Passive` : it runs no hook, and its
  check changes nothing.
* `observe_eq`, `uninstall_eq`: looking and removing through the answers of a cluster; `run_observe`, `run_uninstall`, `run_apply`:
  what the reconciler does to a store.
* `ObjectTurn` : all that the turn of such a component can do to a store, with the status it ends with;
  `ObjectTurn.frame`, `ObjectTurn.has_of_wanted`, `ObjectTurn.has_of_unwanted`, `ObjectTurn.written`.
* `Engine.DrivenBy` : one such reconciler on a store drives everything; `DrivenBy.turn_objectTurn`,
  `DrivenBy.turn_unclaimed`, `DrivenBy.turn_unnamed`: the turns there are; `DrivenBy.turns_frame`: a pass leaves alone what
  none of its components names.
-/

namespace Converge

set_option autoImplicit false

/-! ## What a component owns -/

namespace Component
variable {σ : Type}

/-- The component owns this object. -/
structure Owns (c : Component σ) (v : ObjectView) (i : ObjectIdentity) : Prop where
  object : c.object = some v
  identity : v.identity = .ok i

/-- The component owns the object under a key, and can name it. -/
def Names (c : Component σ) (k : StoreKey) : Prop := ∃ i, c.identity? = some i ∧ i.storeKey = k

/-- The component runs no hook, and its check changes nothing. -/
structure Passive (c : Component σ) : Prop where
  hooks : ∀ phase, c.hooks.get phase = none
  check : c.installable.Quiet

theorem identity?_eq_some {c : Component σ} {i : ObjectIdentity} : c.identity? = some i ↔ ∃ v, c.Owns v i := by
  unfold identity?
  cases h : c.object with
  | none => exact ⟨nofun, fun ⟨v, hv⟩ => nomatch h.symm.trans hv.object⟩
  | some v =>
    change v.identity.toOption = some i ↔ _
    cases hx : v.identity with
    | error x =>
      refine ⟨nofun, fun ⟨w, hw⟩ => ?_⟩
      obtain rfl : v = w := Option.some.inj (h.symm.trans hw.object)
      exact nomatch hx.symm.trans hw.identity
    | ok j =>
      refine ⟨fun hj => ⟨v, h, hx.trans (congrArg _ (Option.some.inj hj))⟩, fun ⟨w, hw⟩ => ?_⟩
      obtain rfl : v = w := Option.some.inj (h.symm.trans hw.object)
      exact congrArg some (Except.ok.inj (hx.symm.trans hw.identity))

theorem Owns.identity? {c : Component σ} {v : ObjectView} {i : ObjectIdentity} (h : c.Owns v i) : c.identity? = some i :=
  identity?_eq_some.mpr ⟨v, h⟩

theorem Owns.names_iff {c : Component σ} {v : ObjectView} {i : ObjectIdentity} (h : c.Owns v i) {k : StoreKey} :
    c.Names k ↔ i.storeKey = k := by
  unfold Names
  rw [h.identity?]
  exact ⟨fun ⟨j, hj, hk⟩ => Option.some.inj hj ▸ hk, fun hk => ⟨i, rfl, hk⟩⟩

theorem sameObject_iff {a b : Component σ} {j : ObjectIdentity} (hb : b.identity? = some j) :
    a.sameObject b = true ↔ a.Names j.storeKey := by
  unfold sameObject Names
  rw [hb]
  cases a.identity? with
  | none => exact ⟨nofun, fun ⟨_, h, _⟩ => nomatch h⟩
  | some i =>
    rw [ObjectIdentity.same_iff]
    exact ⟨fun h => ⟨i, rfl, h⟩, fun ⟨_, hi, h⟩ => Option.some.inj hi ▸ h⟩

theorem Passive.run_hook {c : Component σ} (h : c.Passive) (phase : HookPhase) (client : Client σ) (s : σ) :
    (c.runHook phase client).run s = (.ok (), s) := by
  unfold runHook
  rw [h.hooks phase]
  rfl

end Component

/-- A status that reports the component as present. -/
def ComponentStatus.standing : ComponentStatus → Bool
  | installed => true
  | healthy => true
  | unhealthy => true
  | _ => false

/-- There is an object under the key, of a type that is served. -/
def Store.Shows (s : Store) (k : StoreKey) : Prop := k.kind ∉ s.unserved ∧ s.Has k

/-- Deletes an object, if it is there. -/
def Client.discard {σ : Type} (client : Client σ) (r : Resource) (k : ObjectKey) : Act σ Unit := do
  Act.ofExcept (Error.ignoreMissing (← (client.delete r k).attempt))

theorem Store.run_discard_shown {s : Store} {r : Resource} {k : ObjectKey} (there : s.Shows (r.storeKey k)) :
    (Store.client.discard r k).run s = (.ok (), s.deleted (r.storeKey k)) := by
  obtain ⟨o, ho⟩ := has_iff.1 there.2
  unfold Client.discard
  rw [Act.run_attempt_bind (run_delete there.1 ho)]
  rfl

namespace ObjectReconciler

/-! ## Looking and removing -/

section
variable {σ : Type}

/-- What is seen of the one object of a component, from the answer of the cluster. -/
def judge (v : ObjectView) : Except Error (Option Object) → Except Error Observation
  | .ok (some o) => .ok (.existing (v.health o))
  | .ok none => .ok .absent
  | .error e => if e.isKindNotFound then .ok .absent else .error e

theorem observe_eq (r : ObjectReconciler σ) (c : Component σ) : r.observe c = Act.ofExcept (view c) >>= fun p =>
    (r.client.get p.2.resource p.2.key).attempt >>= fun found => Act.ofExcept (judge p.1 found) := by
  unfold observe
  refine bind_congr fun p => bind_congr fun found => ?_
  rcases found with x | _ | o
  · dsimp only [judge]
    split <;> rfl
  · rfl
  · rfl

theorem uninstall_eq (r : ObjectReconciler σ) (c : Component σ) : r.uninstall c = Act.ofExcept (view c) >>= fun p =>
    r.client.discard p.2.resource p.2.key := rfl

section
variable {r : ObjectReconciler σ} {client : Client σ} (hr : r.client = client) {c : Component σ} {v : ObjectView}
  {i : ObjectIdentity} (owns : view c = .ok (v, i))
include hr owns

theorem run_observe_judge {s s' : σ} {found : Except Error (Option Object)}
    (got : (client.get i.resource i.key).run s = (found, s')) : (r.observe c).run s = (judge v found, s') := by
  subst hr
  rw [observe_eq, owns, run_bind_ok (Act.run_ofExcept _ s), Act.run_attempt_bind got, Act.run_ofExcept]

theorem run_uninstall_eq (s : σ) : (r.uninstall c).run s = (client.discard i.resource i.key).run s := by
  rw [uninstall_eq, owns, hr, run_bind_ok (Act.run_ofExcept _ s)]

end

end

/-! ## The reconciler on a store -/

theorem view_eq_ok {σ : Type} {c : Component σ} {v : ObjectView} {i : ObjectIdentity} (h : c.Owns v i) :
    view c = .ok (v, i) := by
  unfold view
  rw [h.object]
  change (v.identity >>= fun identity => pure (v, identity)) = _
  rw [h.identity]
  rfl

theorem view_eq_error {σ : Type} {c : Component σ} {v : ObjectView} {x : Error} (ho : c.object = some v)
    (hx : v.identity = .error x) : view c = .error x := by
  unfold view
  rw [ho]
  change (v.identity >>= fun identity => pure (v, identity)) = _
  rw [hx]
  rfl

theorem exists_view_eq_error {σ : Type} {c : Component σ} (h : c.identity? = none) : ∃ x, view c = .error x := by
  cases ho : c.object with
  | none => exact ⟨_, by unfold view; rw [ho]; rfl⟩
  | some v =>
    cases hx : v.identity with
    | error x => exact ⟨x, view_eq_error ho hx⟩
    | ok i => rw [(⟨ho, hx⟩ : c.Owns v i).identity?] at h; cases h

section
variable {r : ObjectReconciler Store} {c : Component Store} {v : ObjectView} {i : ObjectIdentity} {s : Store}

theorem run_observe_unnamed {x : Error} (h : view c = .error x) : (r.observe c).run s = (.error x, s) := by
  unfold observe
  rw [h]
  exact run_bind_error (Act.run_ofExcept _ s) _

variable (hr : r.client = Store.client) (ho : c.Owns v i)
include hr ho

/-- What is seen is what the store shows. -/
theorem run_observe : ∃ seen, (r.observe c).run s = (.ok seen, s) ∧ (seen.present = true ↔ s.Shows i.storeKey) := by
  have owns := view_eq_ok ho
  by_cases served : s.Serves i.resource
  · have got := Store.run_get served (k := i.key)
    cases there : s.stored i.resource i.key with
    | none =>
      rw [there] at got
      exact ⟨.absent, run_observe_judge hr owns got, nofun,
        fun h => nomatch (Store.has_iff.mp h.2).choose_spec.symm.trans there⟩
    | some o =>
      rw [there] at got
      exact ⟨.existing (v.health o), run_observe_judge hr owns got, fun _ => ⟨served, Store.has_iff.mpr ⟨o, there⟩⟩, fun _ => rfl⟩
  · exact ⟨.absent, run_observe_judge hr owns (Store.run_get_unserved served), nofun, fun h => absurd h.1 served⟩

theorem run_uninstall (there : s.Shows i.storeKey) : (r.uninstall c).run s = (.ok (), s.deleted i.storeKey) :=
  (run_uninstall_eq hr (view_eq_ok ho) s).trans (Store.run_discard_shown there)

/-- Writing a component's object is creating or updating it, nothing else. -/
theorem run_apply : ∃ x s', (r.apply c).run s = (x.map fun _ => (), s') ∧
    Upserts i.resource i.key i.shell (shape r.config c v) s x s' := by
  unfold apply
  rw [view_eq_ok ho, run_bind_ok (Act.run_ofExcept _ s), hr]
  dsimp only
  have h : Upserts i.resource i.key i.shell (shape r.config c v) s
      ((Store.client.createOrUpdate i.resource i.shell (shape r.config c v)).run s).1
      ((Store.client.createOrUpdate i.resource i.shell (shape r.config c v)).run s).2 :=
    createOrUpdate_upserts (Object.key_shell i.resource i.key) s
  rcases hx : (Store.client.createOrUpdate i.resource i.shell (shape r.config c v)).run s with ⟨x | u, s'⟩
  · rw [hx] at h
    exact ⟨_, _, run_bind_error hx _, h⟩
  · rw [hx] at h
    exact ⟨_, _, run_bind_ok hx _, h⟩

end

theorem claims_toReconciler {σ : Type} (r : ObjectReconciler σ) (kind : ComponentKind) :
    r.toReconciler.claims kind = r.kinds.contains kind :=
  SortedMap.contains_map ..

end ObjectReconciler

/-! ## What a turn can do -/

section
variable (e : Engine Store) (r : ObjectReconciler Store) (c : Component Store) (v : ObjectView) (i : ObjectIdentity)
  (s : Store)

/-- What it takes to install a wanted component. -/
structure Engine.Installable : Prop where
  served : s.Serves i.resource
  gone : ¬ s.Has i.storeKey
  check : (c.installable.run s).1 = .ok true
  dependencies : DependenciesMet e.components c
  made : ∃ o, ObjectReconciler.shape r.config c v i.shell = .ok o ∧ o.key = .ok i.key

/-- All that the turn of a component that owns an object can do to a store, with the status that it ends with. -/
inductive ObjectTurn : ComponentStatus → Store → Prop
  | absent (unwanted : c.enabled = false) (gone : ¬ s.Shows i.storeKey) : ObjectTurn .disabled s
  | kept (unwanted : c.enabled = false) (there : s.Shows i.storeKey) (keep : (c.keep && e.config.honorKeep) = true) :
    ObjectTurn .uninstalled s
  | removed (unwanted : c.enabled = false) (there : s.Shows i.storeKey) (keep : (c.keep && e.config.honorKeep) = false) :
    ObjectTurn .uninstalled (s.deleted i.storeKey)
  | stuck {status} (wanted : c.enabled = true) (fallen : status.standing = false) (why : ¬ e.Installable r c v i s) :
    ObjectTurn status s
  | installed {o} (wanted : c.enabled = true) (may : e.Installable r c v i s)
    (made : ObjectReconciler.shape r.config c v i.shell = .ok o) (named : o.key = .ok i.key) :
    ObjectTurn .installed (s.created i.storeKey o)
  | updated {status o d} (wanted : c.enabled = true) (served : s.Serves i.resource)
    (there : s.objects.get? i.storeKey = some o) (made : ObjectReconciler.shape r.config c v o = .ok d)
    (named : d.key = .ok i.key) (health : status = .healthy ∨ status = .unhealthy) :
    ObjectTurn status (s.updated i.storeKey (d.withStatus o.status))
  | settled {status} (wanted : c.enabled = true) (there : s.Shows i.storeKey)
    (health : status = .healthy ∨ status = .unhealthy) : ObjectTurn status s

end

section
variable {e : Engine Store} {r : ObjectReconciler Store} {c : Component Store} {v : ObjectView} {i : ObjectIdentity}
  {s s' : Store} {ending : Engine.Ending}

section
variable (hr : r.client = Store.client) (ho : c.Owns v i) (hp : c.Passive)
include hr ho hp

theorem Engine.Removes.objectTurn (h : Removes e.config r.toReconciler c s ending s') (unwanted : c.enabled = false)
    (there : s.Shows i.storeKey) : ObjectTurn e r c v i s ending.1 s' := by
  have hook := hp.run_hook .preUninstall r.client
  have gone := ObjectReconciler.run_uninstall hr ho there
  cases h with
  | kept keep honor => exact .kept unwanted there (by rw [keep, honor]; rfl)
  | unprepared keep prepare => cases (hook s).symm.trans prepare
  | failed keep prepare act =>
    cases (hook s).symm.trans prepare
    cases gone.symm.trans act
  | done keep prepare act =>
    cases (hook s).symm.trans prepare
    cases gone.symm.trans act
    exact .removed unwanted there keep

theorem Engine.Installs.objectTurn (h : Installs r.toReconciler c s ending s') (may : Admitted e.components c s s)
    (gone : ¬ s.Shows i.storeKey) : ObjectTurn e r c v i s ending.1 s' := by
  have hook := hp.run_hook .preInstall r.client
  obtain ⟨x, t, hx, ht⟩ := ObjectReconciler.run_apply (s := s) hr ho
  cases h with
  | unprepared prepare => cases (hook s).symm.trans prepare
  | failed prepare act =>
    cases (hook s).symm.trans prepare
    cases ht with
    | failed why =>
      cases hx.symm.trans act
      refine .stuck may.enabled rfl fun able => ?_
      obtain ⟨o, made, named⟩ := able.made
      exact why able.served (Option.not_isSome_iff_eq_none.mp able.gone) o made named
    | _ => cases hx.symm.trans act
  | done prepare act =>
    cases (hook s).symm.trans prepare
    cases ht with
    | failed => cases hx.symm.trans act
    | created served absent made named =>
      cases hx.symm.trans act
      have able : e.Installable r c v i s :=
        ⟨served, fun h => gone ⟨served, h⟩, congrArg Prod.fst may.installable, may.dependencies, _, made, named⟩
      exact .installed may.enabled able made named
    | updated served there => exact absurd ⟨served, Store.has_iff.mpr ⟨_, there⟩⟩ gone
    | unchanged served there => exact absurd ⟨served, Store.has_iff.mpr ⟨_, there⟩⟩ gone

theorem Engine.Updates.objectTurn (h : Updates r.toReconciler c s ending s') (wanted : c.enabled = true)
    (there : s.Shows i.storeKey) : ObjectTurn e r c v i s ending.1 s' := by
  have hook := hp.run_hook .preUpdate r.client
  obtain ⟨x, t, hx, ht⟩ := ObjectReconciler.run_apply (s := s) hr ho
  cases h with
  | unprepared prepare => cases (hook s).symm.trans prepare
  | failed prepare act =>
    cases (hook s).symm.trans prepare
    cases ht with
    | failed =>
      cases hx.symm.trans act
      exact .stuck wanted rfl fun able => able.gone there.2
    | _ => cases hx.symm.trans act
  | unobserved prepare act look =>
    obtain ⟨_, seen, _⟩ := ObjectReconciler.run_observe (s := _) hr ho
    cases seen.symm.trans look
  | done prepare act look =>
    cases (hook s).symm.trans prepare
    obtain ⟨_, seen, _⟩ := ObjectReconciler.run_observe (s := _) hr ho
    cases seen.symm.trans look
    have health : ∀ b : Bool, (if b then ComponentStatus.healthy else .unhealthy) = .healthy ∨
        (if b then ComponentStatus.healthy else .unhealthy) = .unhealthy := by decide
    cases ht with
    | failed => cases hx.symm.trans act
    | created served absent made named =>
      obtain ⟨o, ho'⟩ := Store.has_iff.mp there.2
      cases ho'.symm.trans absent
    | updated served there made named =>
      cases hx.symm.trans act
      exact .updated wanted served there made named (health _)
    | unchanged served there' =>
      cases hx.symm.trans act
      exact .settled wanted there (health _)

theorem Engine.Drives.objectTurn (h : Drives e.config e.components r.toReconciler c s ending s') :
    ObjectTurn e r c v i s ending.1 s' := by
  obtain ⟨seen, hs, shows⟩ := ObjectReconciler.run_observe (s := s) hr ho
  cases h with
  | unobserved look => cases hs.symm.trans look
  | disabled look unwanted gone =>
    cases hs.symm.trans look
    exact .absent unwanted (by rw [← shows, gone]; exact Bool.false_ne_true)
  | removes look unwanted there remove =>
    cases hs.symm.trans look
    exact remove.objectTurn hr ho hp unwanted (shows.mp there)
  | unanswered look wanted ask =>
    cases hs.symm.trans look
    obtain rfl := hp.check.eq_of_run ask
    exact .stuck wanted rfl fun able => nomatch (congrArg Prod.fst ask).symm.trans able.check
  | refused look wanted ask =>
    cases hs.symm.trans look
    obtain rfl := hp.check.eq_of_run ask
    exact .stuck wanted rfl fun able => nomatch (congrArg Prod.fst ask).symm.trans able.check
  | unmet look wanted ask missing =>
    cases hs.symm.trans look
    obtain rfl := hp.check.eq_of_run ask
    exact .stuck wanted rfl fun able => missing able.dependencies
  | installs look may gone install =>
    cases hs.symm.trans look
    obtain rfl := hp.check.eq_of_run may.installable
    exact install.objectTurn hr ho hp may (by rw [← shows, gone]; exact Bool.false_ne_true)
  | updates look may there update =>
    cases hs.symm.trans look
    obtain rfl := hp.check.eq_of_run may.installable
    exact update.objectTurn hr ho hp may.enabled (shows.mp there)

end

theorem Engine.Drives.unnamed {x : Error} (hx : ObjectReconciler.view c = .error x) {registered : List (Component Store)}
    (h : Drives e.config registered r.toReconciler c s ending s') :
    ending = (.observationFailed, x.message) ∧ s' = s := by
  have hs := ObjectReconciler.run_observe_unnamed (r := r) (s := s) hx
  cases h with
  | unobserved look => cases hs.symm.trans look; exact ⟨rfl, rfl⟩
  | disabled look => cases hs.symm.trans look
  | removes look => cases hs.symm.trans look
  | unanswered look => cases hs.symm.trans look
  | refused look => cases hs.symm.trans look
  | unmet look => cases hs.symm.trans look
  | installs look => cases hs.symm.trans look
  | updates look => cases hs.symm.trans look

/-! ## What a turn keeps -/

section
variable {status : ComponentStatus} (h : ObjectTurn e r c v i s status s')
include h

theorem ObjectTurn.frame : Store.Frame s s' (· = i.storeKey) := by
  cases h with
  | removed => exact s.frame_deleted _
  | installed => exact s.frame_created _ _
  | updated => exact s.frame_updated _ _
  | _ => exact .refl s _

/-- The turn of an unwanted component deletes its object or leaves everything as it is. -/
theorem ObjectTurn.eq_of_unwanted (unwanted : c.enabled = false) : s' = s ∨ s' = s.deleted i.storeKey := by
  cases h with
  | removed => exact .inr rfl
  | installed wanted => cases unwanted.symm.trans wanted
  | updated wanted => cases unwanted.symm.trans wanted
  | _ => exact .inl rfl

/-- An unwanted component is reported as uninstalled exactly if its object was there, and else as disabled. -/
theorem ObjectTurn.status_of_unwanted (unwanted : c.enabled = false) :
    (s.Shows i.storeKey → status = .uninstalled) ∧ (¬ s.Shows i.storeKey → status = .disabled) := by
  cases h with
  | absent _ gone => exact ⟨fun there => absurd there gone, fun _ => rfl⟩
  | kept _ there => exact ⟨fun _ => rfl, fun gone => absurd there gone⟩
  | removed _ there => exact ⟨fun _ => rfl, fun gone => absurd there gone⟩
  | stuck wanted => cases unwanted.symm.trans wanted
  | installed wanted => cases unwanted.symm.trans wanted
  | updated wanted => cases unwanted.symm.trans wanted
  | settled wanted => cases unwanted.symm.trans wanted

/-- An unwanted component loses its object, unless it keeps it or the type is not served. -/
theorem ObjectTurn.has_of_unwanted (unwanted : c.enabled = false) :
    s'.Has i.storeKey ↔ s.Has i.storeKey ∧
      (i.storeKey.kind ∈ s.unserved ∨ (c.keep && e.config.honorKeep) = true) := by
  cases h with
  | absent _ gone =>
    refine ⟨fun hs => ⟨hs, ?_⟩, And.left⟩
    by_cases served : i.storeKey.kind ∈ s.unserved
    · exact .inl served
    · exact absurd ⟨served, hs⟩ gone
  | kept _ there keep => exact ⟨fun hs => ⟨hs, .inr keep⟩, And.left⟩
  | removed _ there keep =>
    refine ⟨fun hs => absurd hs (s.not_has_deleted _), fun ⟨_, ht⟩ => ?_⟩
    rcases ht with unserved | kept
    · exact absurd unserved there.1
    · rw [keep] at kept
      cases kept
  | stuck wanted => cases unwanted.symm.trans wanted
  | installed wanted => cases unwanted.symm.trans wanted
  | updated wanted => cases unwanted.symm.trans wanted
  | settled wanted => cases unwanted.symm.trans wanted

/-- A wanted component keeps its object, and gets one if it can be installed. -/
theorem ObjectTurn.has_of_wanted (wanted : c.enabled = true) :
    s'.Has i.storeKey ↔ s.Has i.storeKey ∨ e.Installable r c v i s := by
  cases h with
  | absent unwanted => cases unwanted.symm.trans wanted
  | kept unwanted => cases unwanted.symm.trans wanted
  | removed unwanted => cases unwanted.symm.trans wanted
  | stuck _ _ why => exact ⟨.inl, fun hs => hs.resolve_right why⟩
  | installed _ may => exact ⟨fun _ => .inr may, fun _ => s.has_created _ _⟩
  | updated _ _ there => exact ⟨fun _ => .inl (Store.has_iff.mpr ⟨_, there⟩), fun _ => s.has_updated _ _⟩
  | settled _ there => exact ⟨.inl, fun _ => there.2⟩

/-- A wanted component is reported as installed exactly if it can be installed. -/
theorem ObjectTurn.installed_iff (wanted : c.enabled = true) : status = .installed ↔ e.Installable r c v i s := by
  cases h with
  | absent unwanted => cases unwanted.symm.trans wanted
  | kept unwanted => cases unwanted.symm.trans wanted
  | removed unwanted => cases unwanted.symm.trans wanted
  | stuck _ fallen why =>
    refine ⟨?_, fun may => absurd may why⟩
    rintro rfl
    cases fallen
  | installed _ may => exact ⟨fun _ => may, fun _ => rfl⟩
  | updated _ _ there _ _ health =>
    refine ⟨?_, fun may => absurd (Store.has_iff.mpr ⟨_, there⟩) may.gone⟩
    rintro rfl
    rcases health with health | health <;> cases health
  | settled _ there health =>
    refine ⟨?_, fun may => absurd there.2 may.gone⟩
    rintro rfl
    rcases health with health | health <;> cases health

/-- What is reported as present is there. -/
theorem ObjectTurn.shows_of_standing (standing : status.standing = true) : s'.Shows i.storeKey := by
  cases h with
  | absent => cases standing
  | kept => cases standing
  | removed => cases standing
  | stuck _ fallen => cases fallen.symm.trans standing
  | installed _ may => exact ⟨may.served, s.has_created _ _⟩
  | updated _ served => exact ⟨served, s.has_updated _ _⟩
  | settled _ there => exact there

/-- What a turn leaves under the component's key was there before, or was shaped from what was there or from the shell. -/
theorem ObjectTurn.written {o' : Object} (ho' : s'.objects.get? i.storeKey = some o') :
    s.objects.get? i.storeKey = some o' ∨
      ∃ o d, (s.objects.get? i.storeKey = some o ∨ o = i.shell) ∧ ObjectReconciler.shape r.config c v o = .ok d ∧
        d.key = .ok i.key ∧ o'.metadata = d.metadata := by
  cases h with
  | removed =>
    rw [Store.get?_deleted] at ho'
    cases ho'
  | installed _ _ made named =>
    rw [Store.get?_created] at ho'
    cases ho'
    exact .inr ⟨_, _, .inr rfl, made, named, rfl⟩
  | updated _ _ there made named =>
    rw [Store.get?_updated] at ho'
    cases ho'
    exact .inr ⟨_, _, .inl there, made, named, Object.metadata_withStatus ..⟩
  | _ => exact .inl ho'

end

end

/-! ## Passes -/

namespace Engine

/-- One reconciler of objects on a store drives everything. -/
structure DrivenBy (e : Engine Store) (r : ObjectReconciler Store) : Prop where
  reconcilers : e.reconcilers = [r.toReconciler]
  client : r.client = Store.client
  discreet : e.Discreet

namespace DrivenBy
variable {e : Engine Store} {r : ObjectReconciler Store} (h : e.DrivenBy r) {c : Component Store}
include h

theorem claimants_eq (kind : ComponentKind) :
    e.claimants kind = if r.kinds.contains kind = true then [r.toReconciler] else [] := by
  unfold claimants
  rw [h.reconcilers, List.filter_cons, List.filter_nil, r.claims_toReconciler]

theorem route_claimed (hk : r.kinds.contains c.kind = true) : e.route c.kind = .ok r.toReconciler := by
  rw [route_eq_ok, h.claimants_eq, if_pos hk]

theorem drives (hk : r.kinds.contains c.kind = true) (s : Store) :
    Drives e.config e.components r.toReconciler c s ((e.converge c).run s).1 ((e.converge c).run s).2 := by
  have ht := converge_turns e c s
  generalize ((e.converge c).run s).1 = ending at ht ⊢
  generalize ((e.converge c).run s).2 = s' at ht ⊢
  cases ht with
  | unrouted route => cases (h.route_claimed hk).symm.trans route
  | routed route drive =>
    obtain rfl := Except.ok.inj ((h.route_claimed hk).symm.trans route)
    exact drive

/-- The turn of a component of a kind that is not claimed. -/
theorem turn_unclaimed (hk : r.kinds.contains c.kind = false) (s : Store) :
    ((e.turn c).run s).1.status = .reconcilerNotFound ∧ ((e.turn c).run s).2 = s := by
  rw [h.discreet.turn_run]
  have ht := converge_turns e c s
  generalize ((e.converge c).run s).1 = ending at ht ⊢
  generalize ((e.converge c).run s).2 = s' at ht ⊢
  cases ht with
  | unrouted route => exact ⟨rfl, rfl⟩
  | routed route drive =>
    have hc := length_of_route route
    rw [h.claimants_eq, hk] at hc
    cases hc

/-- The turn of a component that cannot name its object. -/
theorem turn_unnamed (hk : r.kinds.contains c.kind = true) {x : Error} (hx : ObjectReconciler.view c = .error x) (s : Store) :
    ((e.turn c).run s) = (⟨c, .observationFailed, x.message⟩, s) := by
  obtain ⟨hending, hs⟩ := (h.drives hk s).unnamed hx
  rw [h.discreet.turn_run, hending, hs]
  rfl

/-- **The turn of a component that owns an object** and runs no hook. -/
theorem turn_objectTurn (hk : r.kinds.contains c.kind = true) {v : ObjectView} {i : ObjectIdentity} (ho : c.Owns v i)
    (hp : c.Passive) (s : Store) : ObjectTurn e r c v i s ((e.turn c).run s).1.status ((e.turn c).run s).2 := by
  rw [h.discreet.turn_run]
  exact (h.drives hk s).objectTurn h.client ho hp

/-- A turn leaves alone what its component does not name. -/
theorem turn_frame (hp : c.Passive) (s : Store) : Store.Frame s ((e.turn c).run s).2 c.Names := by
  cases hc : r.kinds.contains c.kind with
  | false => rw [(h.turn_unclaimed hc s).2]; exact .refl s _
  | true =>
    cases hi : c.identity? with
    | none =>
      obtain ⟨x, hx⟩ := ObjectReconciler.exists_view_eq_error hi
      rw [h.turn_unnamed hc hx]
      exact .refl s _
    | some i =>
      obtain ⟨v, ho⟩ := Component.identity?_eq_some.mp hi
      exact (h.turn_objectTurn hc ho hp s).frame.mono fun k hk => ⟨i, hi, hk.symm⟩

/-- A pass leaves alone what none of its components names. -/
theorem turns_frame {cs : List (Component Store)} (hp : ∀ c ∈ cs, c.Passive) (s : Store) :
    Store.Frame s ((e.turns cs).run s).2 fun k => ∃ c ∈ cs, c.Names k :=
  turns_induction (P := fun t => Store.Frame s t fun k => ∃ c ∈ cs, c.Names k) e cs
    (fun c hc t ht => ht.trans ((h.turn_frame (hp c hc) t).mono fun _ hk => ⟨c, hc, hk⟩)) s (.refl s _)

end DrivenBy

end Engine

end Converge
