import Converge.Proofs.HookFailures
import Converge.Proofs.Paging
import Converge.Proofs.Presence

/-!
# Objects that cannot be got

* `Api.run_get_missing`, `Api.run_get_of_not_missing`, `Api.run_delete_error`: what access to a cluster makes of the fault of a
  request.
* `Share` : an object of a component, with what its reconciler does about it; `Reconciler.Shares`: the reconcilers of both
  strategies, the one object or either half of the pair.
* `Weighs` : what the fault of a request for an object makes of looking at the object, of removing it, and of the turn.
  `Engine.weighs`: a fault says that the object is absent where it says that it is gone, and any other ends the turn.
-/

namespace Converge

set_option autoImplicit false

variable {σ : Type}

/-! ## Requests that fail -/

namespace Api

section
variable {q : Requests σ} {r : Resource} {k : ObjectKey} {s s' : σ} {fault : RequestFault} {answer : ErrorReply}

theorem run_get_missing (fails : (q.get r k).run s = (.error (.reply answer), s')) (missing : answer.code = 404)
    (list : Resource → ListOptions → Act σ (List Object)) :
    ((q.client list).get r k).run s =
      (if answer.Unserved then .error (.kindNotFound r.apiVersion r.kind) else .ok none, s') := by
  have classed := run_classified_error fails r k.text
  rw [Error.classify_reply missing] at classed
  change ((classified r k.text (q.get r k)).attempt >>= _).run s = _
  rw [Act.run_attempt_bind classed]
  by_cases unserved : answer.Unserved
  · simp only [if_pos unserved]
    rfl
  · simp only [if_neg unserved]
    rfl

theorem run_get_of_not_missing (fails : (q.get r k).run s = (.error fault, s')) (other : ¬ fault.Missing)
    (list : Resource → ListOptions → Act σ (List Object)) :
    ((q.client list).get r k).run s = (.error (.request fault), s') := by
  have classed := run_classified_error fails r k.text
  rw [Error.classify_of_not_missing other] at classed
  change ((classified r k.text (q.get r k)).attempt >>= _).run s = _
  rw [Act.run_attempt_bind classed]
  rfl

theorem run_delete_error (fails : (q.delete r k).run s = (.error fault, s'))
    (list : Resource → ListOptions → Act σ (List Object)) :
    ((q.client list).delete r k).run s = (.error (.classify fault r.apiVersion r.kind k.text), s') :=
  run_classified_error fails r k.text

end

end Api

namespace Error

/-- Forgiven is just what says that something is missing. -/
theorem ignoreMissing_classify (fault : RequestFault) (apiVersion kind name : String) :
    (fault.Missing ∧ ignoreMissing (.error (classify fault apiVersion kind name)) = .ok ()) ∨
    (¬ fault.Missing ∧ ignoreMissing (.error (classify fault apiVersion kind name)) = .error (.request fault)) := by
  by_cases missing : fault.Missing
  · obtain ⟨answer, rfl, code⟩ := id missing
    rw [classify_reply code]
    exact .inl ⟨missing, by split <;> rfl⟩
  · rw [classify_of_not_missing missing]
    exact .inr ⟨missing, rfl⟩

end Error

/-! ## Shares -/

/-- An object of a component, with what its reconciler does about it. -/
structure Share (σ : Type) where
  resource : Resource
  key : ObjectKey
  /-- What the reconciler looks at before it looks at the object. -/
  lookBefore : Act σ Unit
  /-- Whether the object is there, and how it is. -/
  look : Act σ (Bool × Health)
  /-- What the reconciler removes before it removes the object. -/
  dropBefore : Act σ Unit
  drop : Act σ Unit

/-- The reconciler is of one of the strategies, on the client, and the component has the object. -/
inductive Reconciler.Shares (client : Client σ) (c : Component σ) : Reconciler σ → Share σ → Prop
  | object (r : ObjectReconciler σ) (on : r.client = client) {v : ObjectView} {i : ObjectIdentity}
      (owns : ObjectReconciler.view c = .ok (v, i)) :
      Shares client c r.toReconciler
        { resource := i.resource, key := i.key
          lookBefore := pure (), look := do let seen ← r.observe c; return (seen.present, seen.health)
          dropBefore := pure (), drop := r.uninstall c }
  | source (r : FluxReconciler σ) (on : r.client = client) {source deployment : Flux.Manifest}
      (owns : FluxReconciler.pair c = .ok (source, deployment)) :
      Shares client c r.toReconciler
        { resource := source.resource, key := source.key
          lookBefore := pure (), look := FluxReconciler.observeHalf client source
          dropBefore := FluxReconciler.removeHalf client deployment, drop := FluxReconciler.removeHalf client source }
  | deployment (r : FluxReconciler σ) (on : r.client = client) {source deployment : Flux.Manifest}
      (owns : FluxReconciler.pair c = .ok (source, deployment)) :
      Shares client c r.toReconciler
        { resource := deployment.resource, key := deployment.key
          lookBefore := do let _ ← FluxReconciler.observeHalf client source
          look := FluxReconciler.observeHalf client deployment
          dropBefore := pure (), drop := FluxReconciler.removeHalf client deployment }

/-- A way to judge the answer of a cluster to a look-up: what is missing is absent, and so is what is not served. -/
structure Judges (judge : Except Error (Option Object) → Except Error (Bool × Health)) : Prop where
  missing : ∃ health, judge (.ok none) = .ok (false, health)
  unserved : ∀ apiVersion kind, ∃ health, judge (.error (.kindNotFound apiVersion kind)) = .ok (false, health)
  failed : ∀ fault, judge (.error (.request fault)) = .error (.request fault)

namespace Reconciler.Shares

section
variable {client : Client σ} {r : Reconciler σ} {c : Component σ} {p : Share σ} {s s₁ s' : σ} {x : Error}

theorem exists_judge (h : r.Shares client c p) : ∃ judge, Judges judge ∧ ∀ s found s',
    (client.get p.resource p.key).run s = (found, s') → p.look.run s = (judge found, s') := by
  have half : ∀ desired : Flux.Manifest, ∃ judge, Judges judge ∧ ∀ s found s',
      (client.get desired.resource desired.key).run s = (found, s') →
      (FluxReconciler.observeHalf client desired).run s = (judge found, s') := by
    intro desired
    refine ⟨FluxReconciler.judge desired, ⟨⟨_, rfl⟩, fun _ _ => ⟨_, rfl⟩, fun _ => rfl⟩, fun s found s' got => ?_⟩
    rw [FluxReconciler.observeHalf_eq, Act.run_attempt_bind got]
    rfl
  cases h with
  | source r on => exact half _
  | deployment r on => exact half _
  | @object r on v i owns =>
    subst on
    refine ⟨fun found => (ObjectReconciler.judge v found).map fun seen => (seen.present, seen.health),
      ⟨⟨_, rfl⟩, fun _ _ => ⟨_, rfl⟩, fun _ => rfl⟩, fun s found s' got => ?_⟩
    show (r.observe c >>= fun seen => pure (seen.present, seen.health)).run s = _
    rw [run_bind_pure, ObjectReconciler.run_observe_judge rfl owns got]

/-- A deletion that fails is forgiven or fails the removal of the object. -/
theorem run_drop (h : r.Shares client c p) (fails : (client.delete p.resource p.key).run s = (.error x, s')) :
    p.drop.run s = (Error.ignoreMissing (.error x), s') := by
  have discards : (client.discard p.resource p.key).run s = (Error.ignoreMissing (.error x), s') := by
    unfold Client.discard
    rw [Act.run_attempt_bind fails]
    rfl
  cases h with
  | source r on => exact discards
  | deployment r on => exact discards
  | object r on owns => exact (ObjectReconciler.run_uninstall_eq on owns s).trans discards

/-- An object that cannot be looked at fails the look at the component. -/
theorem run_observe (h : r.Shares client c p) (before : p.lookBefore.run s = (.ok (), s₁)) (fails : p.look.run s₁ = (.error x, s')) :
    (r.observe c).run s = (.error x, s') := by
  cases h with
  | object r on owns =>
    obtain ⟨-, rfl⟩ := Prod.mk.inj before
    change (r.observe c >>= _).run s = _ at fails
    rcases seen : (r.observe c).run s with ⟨y | o, s₂⟩
    · rw [run_bind_error seen] at fails
      obtain ⟨hx, rfl⟩ := Prod.mk.inj fails
      exact seen.trans (Except.error.inj hx ▸ rfl)
    · rw [run_bind_ok seen] at fails
      exact nomatch fails
  | source r on owns =>
    subst on
    obtain ⟨-, rfl⟩ := Prod.mk.inj before
    show (r.observe c).run s = _
    unfold FluxReconciler.observe
    rw [owns, run_bind_ok (Act.run_ofExcept _ s)]
    exact run_bind_error fails _
  | @deployment r on source deployment owns =>
    subst on
    change (FluxReconciler.observeHalf r.client source >>= _).run s = _ at before
    rcases seen : (FluxReconciler.observeHalf r.client source).run s with ⟨y | o, s₂⟩
    · rw [run_bind_error seen] at before
      exact nomatch before
    · rw [run_bind_ok seen] at before
      obtain ⟨-, rfl⟩ := Prod.mk.inj before
      show (r.observe c).run s = _
      unfold FluxReconciler.observe
      rw [owns, run_bind_ok (Act.run_ofExcept _ s)]
      dsimp only
      rw [run_bind_ok seen]
      exact run_bind_error fails _

/-- An object that cannot be removed fails the removal of the component. -/
theorem run_uninstall (h : r.Shares client c p) (before : p.dropBefore.run s = (.ok (), s₁)) (fails : p.drop.run s₁ = (.error x, s')) :
    (r.uninstall c).run s = (.error x, s') := by
  cases h with
  | object r on owns =>
    obtain ⟨-, rfl⟩ := Prod.mk.inj before
    exact fails
  | source r on owns =>
    subst on
    show (r.uninstall c).run s = _
    unfold FluxReconciler.uninstall
    rw [owns, run_bind_ok (Act.run_ofExcept _ s)]
    dsimp only
    rw [run_bind_ok before]
    exact fails
  | deployment r on owns =>
    subst on
    obtain ⟨-, rfl⟩ := Prod.mk.inj before
    show (r.uninstall c).run s = _
    unfold FluxReconciler.uninstall
    rw [owns, run_bind_ok (Act.run_ofExcept _ s)]
    exact run_bind_error fails _

end

end Reconciler.Shares

/-! ## Turns -/

namespace Engine

section
variable {config : Config} {registered : List (Component σ)} {r : Reconciler σ} {c : Component σ} {s s₁ s₂ s₃ s' : σ} {x : Error}

theorem drive_unobserved (look : (r.observe c).run s = (.error x, s')) :
    (drive config registered r c).run s = (.error (.observationFailed, x.message), s') :=
  run_bind_error (step_error look _) _

theorem Approaches.unobserved (h : Approaches config registered r c s .preUpdate s₁) (prepare : (r.preUpdate c).run s₁ = (.ok (), s₂))
    (act : (r.update c).run s₂ = (.ok (), s₃)) (look : (r.observe c).run s₃ = (.error x, s')) :
    (drive config registered r c).run s = (.error (.observationFailed, x.message), s') := by
  rw [h.run_drive_eq]
  show (update r c).run s₁ = _
  unfold update
  rw [run_bind_ok (step_ok prepare _), run_bind_ok (step_ok act _)]
  exact run_bind_error (step_error look _) _

theorem Approaches.unremoved (h : Approaches config registered r c s .preUninstall s₁)
    (prepare : (r.preUninstall c).run s₁ = (.ok (), s₂)) (act : (r.uninstall c).run s₂ = (.error x, s')) :
    (drive config registered r c).run s = (.error (.uninstallFailed, x.message), s') := by
  rw [h.run_drive_eq]
  cases h with
  | preUninstall _ _ _ drop =>
    rw [stretch, remove_eq drop, run_bind_ok (step_ok prepare _)]
    exact run_bind_error (step_error act _) _

end

/-- What the fault of a request for an object of a component makes of looking at the object, of removing it, and of the turn. -/
structure Weighs (e : Engine σ) (q : Api.Requests σ) (r : Reconciler σ) (c : Component σ) (p : Share σ) (fault : RequestFault) :
    Prop where
  /-- An object that cannot be got for this is absent just if the server says that something is missing. -/
  absent : ∀ s s', (q.get p.resource p.key).run s = (.error fault, s') →
    ((∃ health, p.look.run s = (.ok (false, health), s')) ↔ fault.Missing)
  /-- An object that cannot be deleted for this is gone just then, too. -/
  gone : ∀ s s', (q.delete p.resource p.key).run s = (.error fault, s') → (p.drop.run s = (.ok (), s') ↔ fault.Missing)
  /-- Any other fault ends the turn where it comes up: at the look, -/
  unobserved : ¬ fault.Missing → ∀ s s₁ s', p.lookBefore.run s = (.ok (), s₁) →
    (q.get p.resource p.key).run s₁ = (.error fault, s') →
    (e.converge c).run s = ((.observationFailed, "kubernetes error: " ++ fault.message), s')
  /-- at the look after an update, -/
  unobservedAgain : ¬ fault.Missing → ∀ s s₁ s₂ s₃ s₄ s', Approaches e.config e.components r c s .preUpdate s₁ →
    (r.preUpdate c).run s₁ = (.ok (), s₂) → (r.update c).run s₂ = (.ok (), s₃) → p.lookBefore.run s₃ = (.ok (), s₄) →
    (q.get p.resource p.key).run s₄ = (.error fault, s') →
    (e.converge c).run s = ((.observationFailed, "kubernetes error: " ++ fault.message), s')
  /-- or at the removal. -/
  unremoved : ¬ fault.Missing → ∀ s s₁ s₂ s₃ s', Approaches e.config e.components r c s .preUninstall s₁ →
    (r.preUninstall c).run s₁ = (.ok (), s₂) → p.dropBefore.run s₂ = (.ok (), s₃) →
    (q.delete p.resource p.key).run s₃ = (.error fault, s') →
    (e.converge c).run s = ((.uninstallFailed, "kubernetes error: " ++ fault.message), s')

variable {e : Engine σ} {q : Api.Requests σ} {list : Resource → ListOptions → Act σ (List Object)} {r : Reconciler σ}
  {c : Component σ} {p : Share σ} {fault : RequestFault} {s s' : σ}

/-- The look at an object that cannot be got: it is absent, or the look fails. -/
theorem look_of_fault (shares : r.Shares (q.client list) c p) (fails : (q.get p.resource p.key).run s = (.error fault, s')) :
    (fault.Missing ∧ ∃ health, p.look.run s = (.ok (false, health), s')) ∨
    (¬ fault.Missing ∧ p.look.run s = (.error (.request fault), s')) := by
  obtain ⟨judge, judges, looks⟩ := shares.exists_judge
  by_cases missing : fault.Missing
  · obtain ⟨answer, rfl, code⟩ := id missing
    have got := Api.run_get_missing fails code list
    refine .inl ⟨missing, ?_⟩
    by_cases unserved : answer.Unserved
    · rw [if_pos unserved] at got
      obtain ⟨health, absent⟩ := judges.unserved p.resource.apiVersion p.resource.kind
      exact ⟨health, absent ▸ looks _ _ _ got⟩
    · rw [if_neg unserved] at got
      obtain ⟨health, absent⟩ := judges.missing
      exact ⟨health, absent ▸ looks _ _ _ got⟩
  · have got := Api.run_get_of_not_missing fails missing list
    exact .inr ⟨missing, judges.failed fault ▸ looks _ _ _ got⟩

/-- The removal of an object that cannot be deleted: it is gone, or the removal fails. -/
theorem drop_of_fault (shares : r.Shares (q.client list) c p) (fails : (q.delete p.resource p.key).run s = (.error fault, s')) :
    (fault.Missing ∧ p.drop.run s = (.ok (), s')) ∨ (¬ fault.Missing ∧ p.drop.run s = (.error (.request fault), s')) := by
  have dropped := shares.run_drop (Api.run_delete_error fails list)
  rcases Error.ignoreMissing_classify fault p.resource.apiVersion p.resource.kind p.key.text with ⟨missing, ignored⟩ | ⟨other, kept⟩
  · exact .inl ⟨missing, ignored ▸ dropped⟩
  · exact .inr ⟨other, kept ▸ dropped⟩

/-- **Absent for a look is gone for a removal**, for both strategies and every fault: that is, code 404. Any other fault ends the
turn with its text. -/
theorem weighs (route : e.route c.kind = .ok r) (shares : r.Shares (q.client list) c p) (fault : RequestFault) :
    Weighs e q r c p fault := by
  have text : (Error.request fault).message = "kubernetes error: " ++ fault.message := rfl
  have unlooked : ¬ fault.Missing → ∀ s s₁ s', p.lookBefore.run s = (.ok (), s₁) →
      (q.get p.resource p.key).run s₁ = (.error fault, s') → (r.observe c).run s = (.error (.request fault), s') := by
    intro other s s₁ s' before fails
    rcases look_of_fault shares fails with ⟨missing, -⟩ | ⟨-, look⟩
    · exact absurd missing other
    · exact shares.run_observe before look
  have ends : ∀ {s ending s'}, (drive e.config e.components r c).run s = (.error ending, s') →
      (e.converge c).run s = (ending, s') := by
    intro s ending s' h
    rw [converge_run_routed route, h]
    rfl
  constructor
  case absent =>
    intro s s' fails
    rcases look_of_fault shares fails with ⟨missing, absent⟩ | ⟨other, look⟩
    · exact ⟨fun _ => missing, fun _ => absent⟩
    · exact ⟨fun ⟨_, absent⟩ => absurd (look.symm.trans absent) nofun, fun missing => absurd missing other⟩
  case gone =>
    intro s s' fails
    rcases drop_of_fault shares fails with ⟨missing, gone⟩ | ⟨other, drop⟩
    · exact ⟨fun _ => missing, fun _ => gone⟩
    · exact ⟨fun gone => absurd (drop.symm.trans gone) nofun, fun missing => absurd missing other⟩
  case unobserved =>
    intro other s s₁ s' before fails
    exact text ▸ ends (drive_unobserved (unlooked other s s₁ s' before fails))
  case unobservedAgain =>
    intro other s s₁ s₂ s₃ s₄ s' reached prepare act before fails
    exact text ▸ ends (reached.unobserved prepare act (unlooked other s₃ s₄ s' before fails))
  case unremoved =>
    intro other s s₁ s₂ s₃ s' reached prepare before fails
    rcases drop_of_fault shares fails with ⟨missing, -⟩ | ⟨-, drop⟩
    · exact absurd missing other
    · exact text ▸ ends (reached.unremoved prepare (shares.run_uninstall before drop))

end Engine

/-! ## A sample: credentials that may not be seen -/

namespace Sample

/-- Credentials that nobody wants. -/
def tenant : Component Api.Wire where
  name := "Creds"
  kind := "Old"
  enabled := false
  object := some { identity := .ok creds, shape := .ok, health := fun _ => .good }

def porter : ObjectReconciler Api.Wire := ⟨Api.client {}, {}, .insert .empty "Old" none⟩

def vault : Engine Api.Wire where
  config := {}
  components := [tenant]
  reconcilers := [porter.toReconciler]

def forbidden : RequestFault := .reply ⟨"Failure", "secrets is forbidden", "Forbidden", 403⟩

/-- What the reconciler does about the credentials. -/
def deposit : Share Api.Wire where
  resource := secrets
  key := creds.key
  lookBefore := pure ()
  look := do let seen ← porter.observe tenant; return (seen.present, seen.health)
  dropBefore := pure ()
  drop := porter.uninstall tenant

theorem shares_deposit : porter.toReconciler.Shares ((Api.requests {}).client Api.listPages) tenant deposit := by
  have owns : ObjectReconciler.view tenant = .ok (⟨.ok creds, .ok, fun _ => .good⟩, creds) := rfl
  exact .object porter rfl owns

/-- Whoever may not look at the credentials does not take them for absent. -/
theorem weighs_vault : Engine.Weighs vault (Api.requests {}) porter.toReconciler tenant deposit forbidden :=
  Engine.weighs rfl shares_deposit forbidden

example : ((vault.converge tenant).run ⟨[answer 404 "404 page not found"], []⟩).1 = (.disabled, "Creds is disabled.") ∧
    ((vault.converge tenant).run ⟨[answer 403 "no"], []⟩).1.1 = .observationFailed := by decide +kernel

end Sample

end Converge
