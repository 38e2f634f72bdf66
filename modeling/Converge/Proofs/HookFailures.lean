import Converge.Proofs.Announcements
import Converge.Proofs.Deeds
import Converge.Proofs.LocalTurns
import Converge.Proofs.Sweeps

/-!
# Hooks that fail

* `Reconciler.Uses` : the reconciler is of one of the strategies, on a client. On one that notes writes, looking leaves no trace
  (`Uses.spares_observe`).
* `Engine.Approaches` : from which state a turn gets to the hook of a phase, and in which state the hook starts.
* `Error.innermost` : what failed within the hooks that failed for it.
* `Engine.hook_failure_blocks`: the failure of a hook ends the turn where the hook left it, under its phase and its text, and passes
  for no missing object.
-/

namespace Converge

set_option autoImplicit false

variable {σ : Type}

/-! ## Looking leaves no trace -/

/-- The reconciler is of one of the strategies, on the client. -/
inductive Reconciler.Uses (client : Client σ) : Reconciler σ → Prop
  | object (r : ObjectReconciler σ) (on : r.client = client) : Uses client r.toReconciler
  | pair (r : FluxReconciler σ) (on : r.client = client) : Uses client r.toReconciler

/-- What a reconciler does before a phase. -/
def Reconciler.prepare (r : Reconciler σ) : HookPhase → Component σ → Act σ Unit
  | .preInstall => r.preInstall
  | .preUpdate => r.preUpdate
  | .preUninstall => r.preUninstall

section
variable {β α : Type} {read : σ → β}

theorem Act.Spares.ofExcept (x : Except Error α) : (Act.ofExcept x : Act σ α).Spares read := fun _ => rfl

theorem Act.Spares.attempt {a : Act σ α} (h : a.Spares read) : a.attempt.Spares read := h

theorem FluxReconciler.spares_observeHalf {client : Client σ} (get : ∀ r k, (client.get r k).Spares read)
    (desired : Flux.Manifest) : (observeHalf client desired).Spares read := by
  rw [observeHalf_eq]
  exact .bind (get desired.resource desired.key).attempt fun _ => .ofExcept _

theorem Reconciler.Uses.spares_observe {client : Client σ} {r : Reconciler σ} (h : r.Uses client)
    (get : ∀ r k, (client.get r k).Spares read) (c : Component σ) : (r.observe c).Spares read := by
  cases h with
  | object r on =>
    subst on
    show (r.observe c).Spares read
    rw [ObjectReconciler.observe_eq]
    exact .bind (.ofExcept _) fun (_, i) => .bind (get i.resource i.key).attempt fun _ => .ofExcept _
  | pair r on =>
    subst on
    show (r.observe c).Spares read
    unfold FluxReconciler.observe
    refine .bind (.ofExcept _) fun (source, deployment) => ?_
    exact .bind (FluxReconciler.spares_observeHalf get source) fun _ =>
      .bind (FluxReconciler.spares_observeHalf get deployment) fun _ => .ofExcept (.ok _)

end

theorem Reconciler.Uses.prepare_eq {client : Client σ} {r : Reconciler σ} (h : r.Uses client) (phase : HookPhase)
    (c : Component σ) : r.prepare phase c = c.runHook phase client := by
  cases h with
  | object r on =>
    subst on
    cases phase <;> rfl
  | pair r on =>
    subst on
    cases phase <;> rfl

theorem Component.run_runHook {c : Component σ} {phase : HookPhase} {hook : Hook σ} {client : Client σ} {s s' : σ} {x : Error}
    (hooked : c.hooks.get phase = some hook) (fails : (hook client).run s = (.error x, s')) :
    (c.runHook phase client).run s = (.error (.hook phase.text x), s') := by
  unfold runHook
  rw [hooked]
  exact run_adapt_error fails _

/-! ## The way to a hook -/

/-- The status of a component whose hook failed. -/
def HookPhase.failure : HookPhase → ComponentStatus
  | preInstall => .installFailed
  | preUpdate => .updateFailed
  | preUninstall => .uninstallFailed

namespace Engine

/-- The part of a turn that a hook comes first in. -/
def stretch (config : Config) (r : Reconciler σ) (c : Component σ) : HookPhase → Stretch σ Ending
  | .preInstall => install r c
  | .preUpdate => update r c
  | .preUninstall => remove config r c

/-- A turn that starts in `s` gets to the hook of a phase, which starts in another state: the component is there and neither
wanted nor kept, or it is admitted and missing, or admitted and there. -/
inductive Approaches (config : Config) (registered : List (Component σ)) (r : Reconciler σ) (c : Component σ) (s : σ) :
    HookPhase → σ → Prop
  | preUninstall {s₁ seen} (look : (r.observe c).run s = (.ok seen, s₁)) (unwanted : c.enabled = false)
    (there : seen.present = true) (drop : (c.keep && config.honorKeep) = false) :
    Approaches config registered r c s .preUninstall s₁
  | preInstall {s₁ s₂ seen} (look : (r.observe c).run s = (.ok seen, s₁)) (may : Admitted registered c s₁ s₂)
    (gone : seen.present = false) : Approaches config registered r c s .preInstall s₂
  | preUpdate {s₁ s₂ seen} (look : (r.observe c).run s = (.ok seen, s₁)) (may : Admitted registered c s₁ s₂)
    (there : seen.present = true) : Approaches config registered r c s .preUpdate s₂

section
variable {config : Config} {registered : List (Component σ)} {r : Reconciler σ} {c : Component σ} {s s₁ s₂ s' : σ}
  {phase : HookPhase} {x : Error} {ending : Ending}

theorem Admitted.run_drive {seen : Observation} (look : (r.observe c).run s = (.ok seen, s₁))
    (may : Admitted registered c s₁ s₂) :
    (drive config registered r c).run s = (if seen.present then update r c else install r c).run s₂ := by
  unfold drive
  rw [run_bind_ok (step_ok look _), may.enabled]
  show (step .installFailed c.installable >>= _).run s₁ = _
  rw [run_bind_ok (step_ok may.installable _)]
  rw [findSome?_dependencyFault_eq_none.2 may.dependencies]
  rfl

/-- From the hook on, a turn is what the phase is there for. -/
theorem Approaches.run_drive_eq (h : Approaches config registered r c s phase s₁) :
    (drive config registered r c).run s = (stretch config r c phase).run s₁ := by
  cases h with
  | preUninstall look unwanted there =>
    unfold drive
    rw [run_bind_ok (step_ok look _), unwanted]
    show (if _ then remove config r c else _ : Stretch σ Ending).run s₁ = _
    rw [if_pos there]
    rfl
  | preInstall look may gone =>
    rw [may.run_drive look, gone]
    rfl
  | preUpdate look may there =>
    rw [may.run_drive look, there]
    rfl

/-- A removal that does not keep the resources. -/
theorem remove_eq (drop : (c.keep && config.honorKeep) = false) : remove config r c = do
    step .uninstallFailed (r.preUninstall c)
    step .uninstallFailed (r.uninstall c)
    return (.uninstalled, c.name ++ " has been uninstalled successfully.") := by
  unfold remove
  rw [drop]
  rfl

/-- What fails before a phase ends the turn. -/
theorem Approaches.run_drive (h : Approaches config registered r c s phase s₁)
    (fails : (r.prepare phase c).run s₁ = (.error x, s')) :
    (drive config registered r c).run s = (.error (phase.failure, x.message), s') := by
  rw [h.run_drive_eq]
  cases h with
  | preUninstall _ _ _ drop =>
    rw [stretch, remove_eq drop]
    exact run_bind_error (step_error fails _) _
  | preInstall => exact run_bind_error (step_error fails _) _
  | preUpdate => exact run_bind_error (step_error fails _) _

/-- Getting to a hook spares what looking and asking do. -/
theorem Approaches.spares {β : Type} (read : σ → β) (h : Approaches config registered r c s phase s₁)
    (look : (r.observe c).Spares read) (ask : c.installable.Spares read) : read s₁ = read s := by
  cases h with
  | preUninstall seen => exact look.eq_of_run seen
  | preInstall seen may => exact (ask.eq_of_run may.installable).trans (look.eq_of_run seen)
  | preUpdate seen may => exact (ask.eq_of_run may.installable).trans (look.eq_of_run seen)

end

end Engine

/-! ## What failed -/

namespace Error

/-- What failed within the hooks that failed for it. -/
def innermost : Error → Error
  | hook _ source => source.innermost
  | e => e

theorem isHookFailure_innermost (e : Error) : e.innermost.isHookFailure = false := by
  induction e with
  | hook phase source ih => exact ih
  | _ => rfl

theorem isRetryable_innermost (e : Error) : e.isRetryable = e.innermost.isRetryable := by
  induction e with
  | hook phase source ih => exact ih
  | _ => rfl

end Error

/-! ## A pass -/

namespace Engine

/-- What comes of the failure `x` of a hook of the `n`-th component in a pass from `w`. The hook started in `w₁`, has done `done`
and left `s'`. -/
structure Blocked (e : Engine (σ × List Deed)) (r : Reconciler (σ × List Deed)) (c : Component (σ × List Deed)) (phase : HookPhase)
    (x : Error) (n : Nat) (w w₁ : σ × List Deed) (s' : σ) (done : List Deed) : Prop where
  reported : (e.reconcile.run w).1[n]? =
    some (outcomeOf c (phase.failure, phase.text ++ " hook failed: " ++ x.message))
  /-- The turn ends where the hook ended, and all that the turn has done is the run of the hook. -/
  ended : ∀ start, start = ((e.turns (e.components.take n)).run w).2 →
    ((e.converge c).run start).2 = (s', start.2 ++ .hook phase :: done)
  answered : (r.prepare phase c).run w₁ = (.error (.hook phase.text x), s', w₁.2 ++ .hook phase :: done)
  /-- What forgives a missing object, or type, does not forgive the failure. -/
  unforgiven : Error.ignoreNotFound (.error (.hook phase.text x)) = .error (.hook phase.text x) ∧
    Error.ignoreMissing (.error (.hook phase.text x)) = .error (.hook phase.text x)
  retried : (Error.hook phase.text x).isRetryable = x.innermost.isRetryable ∧ x.innermost.isHookFailure = false

variable {e : Engine (σ × List Deed)} {client : Client σ} {r : Reconciler (σ × List Deed)} {c : Component (σ × List Deed)}
  {phase : HookPhase} {hook : Hook (σ × List Deed)} {x : Error} {n : Nat} {w w₁ : σ × List Deed} {s' : σ} {done : List Deed}

/-- **A hook that fails blocks the action**, and its failure passes for no missing object. -/
theorem hook_failure_blocks (strategy : r.Uses client.noted) (route : e.route c.kind = .ok r)
    (registered : e.components[n]? = some c.noted)
    (reached : Approaches e.config e.components r c.noted ((e.turns (e.components.take n)).run w).2 phase w₁)
    (hooked : c.hooks.get phase = some hook)
    (fails : (hook client.noted).run (w₁.1, w₁.2 ++ [.hook phase]) = (.error x, s', w₁.2 ++ .hook phase :: done)) :
    Blocked e r c.noted phase x n w w₁ s' done := by
  have hnoted : c.noted.hooks.get phase = some fun client => (hook client).noting (.hook phase) := by
    rw [c.hooks_noted_get, hooked]
    rfl
  have answered : (r.prepare phase c.noted).run w₁ = (.error (.hook phase.text x), s', w₁.2 ++ .hook phase :: done) := by
    rw [strategy.prepare_eq]
    exact Component.run_runHook hnoted fails
  have ended : (e.converge c.noted).run ((e.turns (e.components.take n)).run w).2 =
      ((phase.failure, phase.text ++ " hook failed: " ++ x.message), s', w₁.2 ++ .hook phase :: done) := by
    rw [converge_run_routed (c := c.noted) route, reached.run_drive answered]
    rfl
  -- Neither the look nor the check has left a trace before the hook.
  have untouched : w₁.2 = ((e.turns (e.components.take n)).run w).2.2 :=
    reached.spares Prod.snd (strategy.spares_observe (fun _ _ _ => rfl) c.noted) fun _ => rfl
  refine ⟨?reported, ?ended, answered, ⟨rfl, rfl⟩, x.isRetryable_innermost, x.isHookFailure_innermost⟩
  case reported =>
    show ((e.turns e.components).run w).1[n]? = _
    rw [getElem?_turns, registered, Option.map_some, turn_run, ended]
  case ended =>
    rintro start rfl
    rw [ended, untouched]

end Engine

/-! ## A sample: a removal that its hook refuses -/

namespace Sample

/-- The failure of another hook, for a secret that is missing. -/
def refusal : Error := .hook "PreInstall" (.notFound "Secret" "apps/token")

/-- Credentials that nobody wants, with a hook that fails. -/
def guarded : Component (Store × List Deed) where
  name := "Creds"
  kind := "Old"
  enabled := false
  hooks := { preUninstall := some fun _ => Act.ofExcept (.error refusal) }
  object := some { identity := .ok creds, shape := .ok, health := fun _ => .good }

def guard : Reconciler (Store × List Deed) :=
  (ObjectReconciler.mk Store.client.noted {} (.insert .empty "Old" none)).toReconciler

def keeping : Engine (Store × List Deed) where
  config := {}
  components := [guarded.noted]
  reconcilers := [guard]

/-- The credentials stay, and the next pass may get further. -/
theorem hook_failure_blocks_guarded :
    Engine.Blocked keeping guard guarded.noted .preUninstall refusal 0 (store "Old", []) (store "Old", []) (store "Old") [] := by
  have look : (guard.observe guarded.noted).run (store "Old", []) = (.ok (.existing .good), store "Old", []) := by
    rfl
  exact Engine.hook_failure_blocks (.object _ rfl) rfl rfl (.preUninstall look rfl rfl rfl) rfl rfl

end Sample

end Converge
