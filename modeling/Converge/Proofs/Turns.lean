import Converge.Engine
import Converge.Proofs.Runs

/-!
# What a component's turn can do

Every way in which a turn can go, said once; what holds of all turns is proved by going through the ways.

* `Removes`, `Installs`, `Updates`, `Drives`, `Turns` : from which state a turn goes to which, with which ending, and what
  the reconciler answered on the way; `converge_turns`: the engine takes no other way.
* `First` : the first registered component of a kind; `DependenciesMet` : a component has what it needs.
* `route_eq_ok`, `mem_of_route`: a kind is routed iff exactly one reconciler claims it, and then to that one.
* `turn_run`, `turns_cons_run`, `turns_append_run`: a pass takes the turns one after the other; `components_of_turns`: its
  outcomes are those of the components, in order; `turns_induction`: what every turn keeps, the pass keeps; `turns_logged`: which
  events a pass adds to a log.
-/

namespace Converge.Engine

set_option autoImplicit false

variable {σ : Type}

/-- What a turn ends with, however it came about. -/
def close : Except Ending Ending → Ending
  | .ok ending => ending
  | .error ending => ending

theorem step_ok {α : Type} {a : Act σ α} {s s' : σ} {x : α} (h : a.run s = (.ok x, s')) (failed : ComponentStatus) :
    (step failed a).run s = (.ok x, s') :=
  run_adapt_ok h _

theorem step_error {α : Type} {a : Act σ α} {s s' : σ} {x : Error} (h : a.run s = (.error x, s'))
    (failed : ComponentStatus) : (step failed a).run s = (.error (failed, x.message), s') :=
  run_adapt_error h _

/-! ## Dependencies -/

/-- The first registered component of a kind. -/
def First (registered : List (Component σ)) (kind : ComponentKind) (d : Component σ) : Prop :=
  ∃ before after, registered = before ++ d :: after ∧ d.kind = kind ∧ ∀ b ∈ before, b.kind ≠ kind

theorem firstOf_eq_some {registered : List (Component σ)} {kind : ComponentKind} {d : Component σ} :
    firstOf registered kind = some d ↔ First registered kind d := by
  unfold firstOf First
  rw [List.find?_eq_some_iff_append]
  constructor
  · rintro ⟨hkind, before, after, hregistered, hbefore⟩
    exact ⟨before, after, hregistered, by simpa using hkind, fun b hb => by simpa using hbefore b hb⟩
  · rintro ⟨before, after, hregistered, hkind, hbefore⟩
    exact ⟨by simpa using hkind, before, after, hregistered, fun b hb => by simpa using hbefore b hb⟩

/-- Of each kind that a component needs, the first registered component exists and is wanted. -/
def DependenciesMet (registered : List (Component σ)) (c : Component σ) : Prop :=
  ∀ kind ∈ c.dependencies, ∃ d, First registered kind d ∧ d.enabled = true

theorem dependencyFault_eq_none {registered : List (Component σ)} {kind : ComponentKind} :
    dependencyFault registered kind = none ↔ ∃ d, First registered kind d ∧ d.enabled = true := by
  simp only [← firstOf_eq_some]
  unfold dependencyFault
  split
  · rename_i h
    simp [h]
  · rename_i d h
    simp [h]

theorem findSome?_dependencyFault_eq_none {registered : List (Component σ)} {c : Component σ} :
    c.dependencies.findSome? (dependencyFault registered) = none ↔ DependenciesMet registered c := by
  simp only [List.findSome?_eq_none_iff, dependencyFault_eq_none, DependenciesMet]

/-! ## The ways of a turn -/

section
variable (config : Config) (registered : List (Component σ)) (r : Reconciler σ) (c : Component σ)

/-- The ways of removing a component that is there and not wanted. -/
inductive Removes : σ → Ending → σ → Prop
  | kept {s} (keep : c.keep = true) (honor : config.honorKeep = true) :
    Removes s (.uninstalled, c.name ++ " has been marked as uninstalled; its resources are kept in place.") s
  | unprepared {s s' x} (keep : (c.keep && config.honorKeep) = false)
    (prepare : (r.preUninstall c).run s = (.error x, s')) : Removes s (.uninstallFailed, x.message) s'
  | failed {s s₁ s' x} (keep : (c.keep && config.honorKeep) = false) (prepare : (r.preUninstall c).run s = (.ok (), s₁))
    (act : (r.uninstall c).run s₁ = (.error x, s')) : Removes s (.uninstallFailed, x.message) s'
  | done {s s₁ s'} (keep : (c.keep && config.honorKeep) = false) (prepare : (r.preUninstall c).run s = (.ok (), s₁))
    (act : (r.uninstall c).run s₁ = (.ok (), s')) :
    Removes s (.uninstalled, c.name ++ " has been uninstalled successfully.") s'

inductive Installs : σ → Ending → σ → Prop
  | unprepared {s s' x} (prepare : (r.preInstall c).run s = (.error x, s')) : Installs s (.installFailed, x.message) s'
  | failed {s s₁ s' x} (prepare : (r.preInstall c).run s = (.ok (), s₁)) (act : (r.install c).run s₁ = (.error x, s')) :
    Installs s (.installFailed, x.message) s'
  | done {s s₁ s'} (prepare : (r.preInstall c).run s = (.ok (), s₁)) (act : (r.install c).run s₁ = (.ok (), s')) :
    Installs s (.installed, c.name ++ " has been installed successfully.") s'

inductive Updates : σ → Ending → σ → Prop
  | unprepared {s s' x} (prepare : (r.preUpdate c).run s = (.error x, s')) : Updates s (.updateFailed, x.message) s'
  | failed {s s₁ s' x} (prepare : (r.preUpdate c).run s = (.ok (), s₁)) (act : (r.update c).run s₁ = (.error x, s')) :
    Updates s (.updateFailed, x.message) s'
  | unobserved {s s₁ s₂ s' x} (prepare : (r.preUpdate c).run s = (.ok (), s₁)) (act : (r.update c).run s₁ = (.ok (), s₂))
    (look : (r.observe c).run s₂ = (.error x, s')) : Updates s (.observationFailed, x.message) s'
  | done {s s₁ s₂ s' seen} (prepare : (r.preUpdate c).run s = (.ok (), s₁)) (act : (r.update c).run s₁ = (.ok (), s₂))
    (look : (r.observe c).run s₂ = (.ok seen, s')) :
    Updates s (if seen.health.healthy then .healthy else .unhealthy, seen.health.message) s'

/-- What must be so for a wanted component to be installed or updated. -/
structure Admitted (s s' : σ) : Prop where
  enabled : c.enabled = true
  installable : c.installable.run s = (.ok true, s')
  dependencies : DependenciesMet registered c

/-- The ways of a component whose kind is routed. -/
inductive Drives : σ → Ending → σ → Prop
  | unobserved {s s' x} (look : (r.observe c).run s = (.error x, s')) : Drives s (.observationFailed, x.message) s'
  | disabled {s s' seen} (look : (r.observe c).run s = (.ok seen, s')) (unwanted : c.enabled = false)
    (gone : seen.present = false) : Drives s (.disabled, c.name ++ " is disabled.") s'
  | removes {s s₁ s' seen ending} (look : (r.observe c).run s = (.ok seen, s₁)) (unwanted : c.enabled = false)
    (there : seen.present = true) (remove : Removes config r c s₁ ending s') : Drives s ending s'
  | unanswered {s s₁ s' seen x} (look : (r.observe c).run s = (.ok seen, s₁)) (wanted : c.enabled = true)
    (ask : c.installable.run s₁ = (.error x, s')) : Drives s (.installFailed, x.message) s'
  | refused {s s₁ s' seen} (look : (r.observe c).run s = (.ok seen, s₁)) (wanted : c.enabled = true)
    (ask : c.installable.run s₁ = (.ok false, s')) :
    Drives s (.componentNotAllowed, c.name ++ " is not allowed to be installed.") s'
  | unmet {s s₁ s' seen fault} (look : (r.observe c).run s = (.ok seen, s₁)) (wanted : c.enabled = true)
    (ask : c.installable.run s₁ = (.ok true, s'))
    (missing : ¬ DependenciesMet registered c)
    (first : c.dependencies.findSome? (dependencyFault registered) = some fault) :
    Drives s (.dependencyCheckFailed, fault) s'
  | installs {s s₁ s₂ s' seen ending} (look : (r.observe c).run s = (.ok seen, s₁)) (may : Admitted registered c s₁ s₂)
    (gone : seen.present = false) (install : Installs r c s₂ ending s') : Drives s ending s'
  | updates {s s₁ s₂ s' seen ending} (look : (r.observe c).run s = (.ok seen, s₁)) (may : Admitted registered c s₁ s₂)
    (there : seen.present = true) (update : Updates r c s₂ ending s') : Drives s ending s'

end

/-- The ways of a component's turn. -/
inductive Turns (e : Engine σ) (c : Component σ) : σ → Ending → σ → Prop
  | unrouted {s message} (route : e.route c.kind = .error message) : Turns e c s (.reconcilerNotFound, message) s
  | routed {s ending s' r} (route : e.route c.kind = .ok r) (drive : Drives e.config e.components r c s ending s') :
    Turns e c s ending s'

/-! ## The engine goes these ways -/

section
variable (config : Config) (registered : List (Component σ)) (r : Reconciler σ) (c : Component σ) (s : σ)

theorem remove_removes : Removes config r c s (close ((remove config r c).run s).1) ((remove config r c).run s).2 := by
  unfold remove
  cases hk : c.keep && config.honorKeep with
  | true =>
    rw [Bool.and_eq_true] at hk
    exact .kept hk.1 hk.2
  | false =>
    change Removes config r c s (close ((step .uninstallFailed (r.preUninstall c) >>= fun _ => _).run s).1)
      ((step .uninstallFailed (r.preUninstall c) >>= fun _ => _).run s).2
    rcases h₁ : (r.preUninstall c).run s with ⟨x | ⟨⟩, s₁⟩
    · rw [run_bind_error (step_error h₁ _)]
      exact .unprepared hk h₁
    · rw [run_bind_ok (step_ok h₁ _)]
      rcases h₂ : (r.uninstall c).run s₁ with ⟨x | ⟨⟩, s₂⟩
      · rw [run_bind_error (step_error h₂ _)]
        exact .failed hk h₁ h₂
      · rw [run_bind_ok (step_ok h₂ _)]
        exact .done hk h₁ h₂

theorem install_installs : Installs r c s (close ((install r c).run s).1) ((install r c).run s).2 := by
  unfold install
  rcases h₁ : (r.preInstall c).run s with ⟨x | ⟨⟩, s₁⟩
  · rw [run_bind_error (step_error h₁ _)]
    exact .unprepared h₁
  · rw [run_bind_ok (step_ok h₁ _)]
    rcases h₂ : (r.install c).run s₁ with ⟨x | ⟨⟩, s₂⟩
    · rw [run_bind_error (step_error h₂ _)]
      exact .failed h₁ h₂
    · rw [run_bind_ok (step_ok h₂ _)]
      exact .done h₁ h₂

theorem update_updates : Updates r c s (close ((update r c).run s).1) ((update r c).run s).2 := by
  unfold update
  rcases h₁ : (r.preUpdate c).run s with ⟨x | ⟨⟩, s₁⟩
  · rw [run_bind_error (step_error h₁ _)]
    exact .unprepared h₁
  · rw [run_bind_ok (step_ok h₁ _)]
    rcases h₂ : (r.update c).run s₁ with ⟨x | ⟨⟩, s₂⟩
    · rw [run_bind_error (step_error h₂ _)]
      exact .failed h₁ h₂
    · rw [run_bind_ok (step_ok h₂ _)]
      rcases h₃ : (r.observe c).run s₂ with ⟨x | seen, s₃⟩
      · rw [run_bind_error (step_error h₃ _)]
        exact .unobserved h₁ h₂ h₃
      · rw [run_bind_ok (step_ok h₃ _)]
        exact .done h₁ h₂ h₃

theorem drive_drives : Drives config registered r c s (close ((drive config registered r c).run s).1)
    ((drive config registered r c).run s).2 := by
  unfold drive
  rcases h₁ : (r.observe c).run s with ⟨x | seen, s₁⟩
  · rw [run_bind_error (step_error h₁ _)]
    exact .unobserved h₁
  rw [run_bind_ok (step_ok h₁ _)]
  cases he : c.enabled with
  | false =>
    cases hs : seen.present with
    | false => exact .disabled h₁ he hs
    | true => exact .removes h₁ he hs (remove_removes config r c s₁)
  | true =>
    change Drives config registered r c s (close ((step .installFailed c.installable >>= fun _ => _).run s₁).1)
      ((step .installFailed c.installable >>= fun _ => _).run s₁).2
    rcases h₂ : c.installable.run s₁ with ⟨x | allowed, s₂⟩
    · rw [run_bind_error (step_error h₂ _)]
      exact .unanswered h₁ he h₂
    rw [run_bind_ok (step_ok h₂ _)]
    cases allowed with
    | false => exact .refused h₁ he h₂
    | true =>
      cases hd : c.dependencies.findSome? (dependencyFault registered) with
      | some fault =>
        have hm : ¬ DependenciesMet registered c := by
          rw [← findSome?_dependencyFault_eq_none, hd]
          exact Option.some_ne_none fault
        exact .unmet h₁ he h₂ hm hd
      | none =>
        rw [findSome?_dependencyFault_eq_none] at hd
        cases hs : seen.present with
        | false => exact .installs h₁ ⟨he, h₂, hd⟩ hs (install_installs r c s₂)
        | true => exact .updates h₁ ⟨he, h₂, hd⟩ hs (update_updates r c s₂)

end

theorem converge_run_routed {e : Engine σ} {c : Component σ} {r : Reconciler σ} (route : e.route c.kind = .ok r) (s : σ) :
    (e.converge c).run s =
      (close ((drive e.config e.components r c).run s).1, ((drive e.config e.components r c).run s).2) := by
  unfold converge
  rw [route]
  change (match ((drive e.config e.components r c).run s).1 with
    | .ok ending => (pure ending : StateM σ Ending)
    | .error ending => pure ending) ((drive e.config e.components r c).run s).2 = _
  cases ((drive e.config e.components r c).run s).1 <;> rfl

/-- **The engine goes no other way** than those of `Turns`. -/
theorem converge_turns (e : Engine σ) (c : Component σ) (s : σ) :
    Turns e c s ((e.converge c).run s).1 ((e.converge c).run s).2 := by
  cases route : e.route c.kind with
  | error message =>
    unfold converge
    rw [route]
    exact .unrouted route
  | ok r =>
    rw [converge_run_routed route]
    exact .routed route (drive_drives e.config e.components r c s)

/-! ## Routes -/

theorem route_eq_ok {e : Engine σ} {kind : ComponentKind} {r : Reconciler σ} :
    e.route kind = .ok r ↔ e.claimants kind = [r] := by
  unfold route
  split <;> rename_i h <;> simp_all

theorem length_claimants (e : Engine σ) (kind : ComponentKind) :
    (e.claimants kind).length = e.reconcilers.countP (·.claims kind) :=
  List.countP_eq_length_filter.symm

theorem length_of_route_eq_error {e : Engine σ} {kind : ComponentKind} {message : String}
    (h : e.route kind = .error message) : (e.claimants kind).length ≠ 1 := by
  intro hl
  obtain ⟨r, hr⟩ := List.length_eq_one_iff.mp hl
  rw [route_eq_ok.mpr hr] at h
  cases h

theorem mem_of_route {e : Engine σ} {kind : ComponentKind} {r : Reconciler σ} (h : e.route kind = .ok r) :
    r ∈ e.reconcilers ∧ r.claims kind = true := by
  have hm : r ∈ e.claimants kind := by rw [route_eq_ok.mp h]; exact List.mem_singleton_self r
  exact List.mem_filter.mp hm

theorem length_of_route {e : Engine σ} {kind : ComponentKind} {r : Reconciler σ} (h : e.route kind = .ok r) :
    (e.claimants kind).length = 1 := by
  rw [route_eq_ok.mp h]
  rfl

/-! ## A pass -/

/-- Publishes an outcome, unless it is settled without a change. -/
def announce (e : Engine σ) (o : Outcome σ) : StateM σ Unit :=
  match o.event? e.config.eventAction with
  | some event => e.publish event
  | none => pure ()

def outcomeOf (c : Component σ) (ending : Ending) : Outcome σ := ⟨c, ending.1, ending.2⟩

theorem turn_run (e : Engine σ) (c : Component σ) (s : σ) :
    (e.turn c).run s = (outcomeOf c ((e.converge c).run s).1,
      ((e.announce (outcomeOf c ((e.converge c).run s).1)).run ((e.converge c).run s).2).2) := by
  unfold turn announce
  change (match (outcomeOf c ((e.converge c).run s).1).event? e.config.eventAction with
    | some event => e.publish event >>= fun _ => (pure (outcomeOf c ((e.converge c).run s).1) : StateM σ _)
    | none => pure (outcomeOf c ((e.converge c).run s).1)).run ((e.converge c).run s).2 = _
  cases (outcomeOf c ((e.converge c).run s).1).event? e.config.eventAction <;> rfl

theorem turns_cons_run (e : Engine σ) (c : Component σ) (cs : List (Component σ)) (s : σ) :
    (e.turns (c :: cs)).run s = (((e.turn c).run s).1 :: ((e.turns cs).run ((e.turn c).run s).2).1,
      ((e.turns cs).run ((e.turn c).run s).2).2) := rfl

theorem turns_append_run (e : Engine σ) (cs ds : List (Component σ)) (s : σ) :
    (e.turns (cs ++ ds)).run s = (((e.turns cs).run s).1 ++ ((e.turns ds).run ((e.turns cs).run s).2).1,
      ((e.turns ds).run ((e.turns cs).run s).2).2) := by
  induction cs generalizing s with
  | nil => rfl
  | cons c cs ih => rw [List.cons_append, turns_cons_run, turns_cons_run, ih]; rfl

theorem components_of_turns (e : Engine σ) (cs : List (Component σ)) (s : σ) :
    ((e.turns cs).run s).1.map (·.component) = cs := by
  induction cs generalizing s with
  | nil => rfl
  | cons c cs ih => rw [turns_cons_run, List.map_cons, ih, turn_run]; rfl

/-- What every turn of a pass keeps, the pass keeps. -/
theorem turns_induction {P : σ → Prop} (e : Engine σ) (cs : List (Component σ))
    (turn : ∀ c ∈ cs, ∀ s, P s → P ((e.turn c).run s).2) (s : σ) (h : P s) : P ((e.turns cs).run s).2 := by
  induction cs generalizing s with
  | nil => exact h
  | cons c cs ih =>
    rw [turns_cons_run]
    exact ih (fun d hd => turn d (List.mem_cons_of_mem _ hd)) _ (turn c List.mem_cons_self s h)

/-- What is published goes to the end of a log, and what the turns do besides leaves the log alone: so a pass logs the events of
its outcomes. -/
theorem turns_logged {log : σ → List Event} {e : Engine σ}
    (publish : ∀ event s, log ((e.publish event).run s).2 = log s ++ [event]) {cs : List (Component σ)}
    (still : ∀ c ∈ cs, ∀ s, log ((e.converge c).run s).2 = log s) (s : σ) :
    log ((e.turns cs).run s).2 = log s ++ ((e.turns cs).run s).1.filterMap (·.event? e.config.eventAction) := by
  have turn : ∀ c ∈ cs, ∀ s, log ((e.turn c).run s).2 =
      log s ++ (((e.turn c).run s).1.event? e.config.eventAction).toList := by
    intro c hc s
    rw [turn_run]
    unfold announce
    dsimp only
    cases (outcomeOf c ((e.converge c).run s).1).event? e.config.eventAction with
    | none => exact (still c hc s).trans (List.append_nil _).symm
    | some event => exact (publish event _).trans (congrArg (· ++ [event]) (still c hc s))
  clear still
  induction cs generalizing s with
  | nil => exact (List.append_nil _).symm
  | cons c cs ih =>
    rw [turns_cons_run]
    dsimp only
    rw [ih _ (fun d hd => turn d (List.mem_cons_of_mem _ hd)), turn c List.mem_cons_self, List.append_assoc,
      List.filterMap_cons]
    cases ((e.turn c).run s).1.event? e.config.eventAction <;> rfl

/-- Publishing leaves the state alone. -/
def Discreet (e : Engine σ) : Prop := ∀ event s, ((e.publish event).run s).2 = s

theorem Discreet.turn_run {e : Engine σ} (h : e.Discreet) (c : Component σ) (s : σ) :
    (e.turn c).run s = (outcomeOf c ((e.converge c).run s).1, ((e.converge c).run s).2) := by
  rw [Engine.turn_run]
  unfold announce
  cases (outcomeOf c ((e.converge c).run s).1).event? e.config.eventAction with
  | none => rfl
  | some event => exact Prod.ext rfl (h event _)

end Converge.Engine
