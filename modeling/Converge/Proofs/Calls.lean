import Converge.Proofs.Turns

/-!
# The calls of a pass

An engine whose reconcilers and components answer as they like, from everything that was asked before, and a record of
what is asked.

* `Watched σ` is a state with the record; every answer may depend on all of it.
* `Engine.watched` is the engine with each call recorded and nothing else changed: no answer, and no way to tamper with
  the record.
* `Talk` lists the questions and answers of a component's turn, one way after the other; `Drives.talk`: a turn
  records nothing else.
-/

namespace Converge

set_option autoImplicit false

variable {σ : Type}

inductive Question where
  | observe
  | installable
  | preInstall
  | install
  | preUpdate
  | update
  | preUninstall
  | uninstall
deriving DecidableEq

namespace Question

/-- Whether it is asked to change something. -/
def acts : Question → Bool
  | install => true
  | update => true
  | uninstall => true
  | _ => false

def preparation : Question → Option Question
  | install => some preInstall
  | update => some preUpdate
  | uninstall => some preUninstall
  | _ => none

end Question

/-- What a call that succeeds gives back. -/
inductive Answer where
  | done
  | seen (o : Observation)
  | verdict (allowed : Bool)

structure Call where
  /-- The place of the asked reconciler among the registered ones; none if the component itself is asked. -/
  reconciler : Option Nat
  component : String
  question : Question
  answer : Except Error Answer

/-- A state with the record of the calls. -/
structure Watched (σ : Type) where
  own : σ
  calls : List Call := []

/-- The operation, recorded when it is over. It may read the record, not change it. -/
def watch {α : Type} (reconciler : Option Nat) (component : String) (question : Question) (answer : α → Answer)
    (a : Act (Watched σ) α) : Act (Watched σ) α := ExceptT.mk fun w =>
  ((a.run w).1,
    { (a.run w).2 with calls := w.calls ++ [⟨reconciler, component, question, (a.run w).1.map answer⟩] })

/-- The reconciler at a place, its calls recorded. -/
def Reconciler.watched (place : Nat) (r : Reconciler (Watched σ)) : Reconciler (Watched σ) where
  kinds := r.kinds
  observe c := watch (some place) c.name .observe .seen (r.observe c)
  install c := watch (some place) c.name .install (fun _ => .done) (r.install c)
  update c := watch (some place) c.name .update (fun _ => .done) (r.update c)
  uninstall c := watch (some place) c.name .uninstall (fun _ => .done) (r.uninstall c)
  preInstall c := watch (some place) c.name .preInstall (fun _ => .done) (r.preInstall c)
  preUpdate c := watch (some place) c.name .preUpdate (fun _ => .done) (r.preUpdate c)
  preUninstall c := watch (some place) c.name .preUninstall (fun _ => .done) (r.preUninstall c)
  orphans := r.orphans

/-- The component, the questions to itself recorded. -/
def Component.watched (c : Component (Watched σ)) : Component (Watched σ) :=
  { c with installable := watch none c.name .installable .verdict c.installable }

def Engine.watched (e : Engine (Watched σ)) : Engine (Watched σ) where
  config := e.config
  components := e.components.map (·.watched)
  reconcilers := e.reconcilers.mapIdx fun place r => r.watched place
  publish event := fun w => ((), { ((e.publish event).run w).2 with calls := w.calls })

/-! ## The record grows by what is asked -/

section
variable {α : Type} {reconciler : Option Nat} {component : String} {question : Question} {answer : α → Answer}
  {a : Act (Watched σ) α} {w w' : Watched σ} {x : Except Error α}

theorem calls_of_watch (h : (watch reconciler component question answer a).run w = (x, w')) :
    w'.calls = w.calls ++ [⟨reconciler, component, question, x.map answer⟩] := by
  obtain ⟨rfl, rfl⟩ := Prod.mk.inj h
  rfl

theorem calls_of_watch_cons (h : (watch reconciler component question answer a).run w = (x, w')) {w'' : Watched σ}
    {rest : List Call} (hrest : w''.calls = w'.calls ++ rest) :
    w''.calls = w.calls ++ ⟨reconciler, component, question, x.map answer⟩ :: rest := by
  rw [hrest, calls_of_watch h, List.append_assoc]
  rfl

end

/-- The call of a turn that is routed to a reconciler. -/
def Call.of (place : Nat) (component : String) (said : Question × Except Error Answer) : Call where
  reconciler := if said.1 = .installable then none else some place
  component
  question := said.1
  answer := said.2

namespace Engine

/-! ## Routes of the watched engine -/

theorem exists_of_mem_mapIdx {α β : Type} {f : Nat → α → β} {as : List α} {b : β} (h : b ∈ as.mapIdx f) :
    ∃ (place : Nat) (a : α), as[place]? = some a ∧ b = f place a := by
  obtain ⟨place, hp, rfl⟩ := List.mem_mapIdx.mp h
  exact ⟨place, as[place], List.getElem?_eq_getElem hp, rfl⟩

theorem countP_mapIdx {α β : Type} (p : β → Bool) (q : α → Bool) (f : Nat → α → β) (h : ∀ n a, p (f n a) = q a) (as : List α) :
    (as.mapIdx f).countP p = as.countP q := by
  induction as generalizing f with
  | nil => rfl
  | cons a as ih => rw [List.mapIdx_cons, List.countP_cons, List.countP_cons, h, ih (fun n => f (n + 1)) fun n a => h (n + 1) a]

theorem countP_watched (e : Engine (Watched σ)) (kind : ComponentKind) :
    e.watched.reconcilers.countP (·.claims kind) = e.reconcilers.countP (·.claims kind) :=
  countP_mapIdx (fun r => Reconciler.claims r kind) (fun r => Reconciler.claims r kind) (fun place r => r.watched place)
    (fun _ _ => rfl) e.reconcilers

theorem exists_of_route_watched {e : Engine (Watched σ)} {kind : ComponentKind} {r : Reconciler (Watched σ)}
    (h : e.watched.route kind = .ok r) :
    ∃ (place : Nat) (r₀ : Reconciler (Watched σ)), e.reconcilers[place]? = some r₀ ∧ r₀.claims kind = true ∧ r = r₀.watched place := by
  obtain ⟨hm, hk⟩ := mem_of_route h
  obtain ⟨place, r₀, hp, rfl⟩ := exists_of_mem_mapIdx hm
  exact ⟨place, r₀, hp, hk, rfl⟩

/-! ## The talk of a turn -/

section
variable (wanted kept met : Prop)

/-- What is asked and answered in a turn that is routed, and the status that it ends with, for a component that is wanted
or not, keeps its resources or not, and has what it needs or not. -/
inductive Talk : ComponentStatus → List (Question × Except Error Answer) → Prop
  | unobserved (x) : Talk .observationFailed [(.observe, .error x)]
  | disabled (seen) (off : ¬ wanted) (gone : seen.present = false) : Talk .disabled [(.observe, .ok (.seen seen))]
  | kept (seen) (off : ¬ wanted) (there : seen.present = true) (keep : kept) :
    Talk .uninstalled [(.observe, .ok (.seen seen))]
  | notPreparedToUninstall (seen x) (off : ¬ wanted) (there : seen.present = true) (drop : ¬ kept) :
    Talk .uninstallFailed [(.observe, .ok (.seen seen)), (.preUninstall, .error x)]
  | notUninstalled (seen x) (off : ¬ wanted) (there : seen.present = true) (drop : ¬ kept) :
    Talk .uninstallFailed [(.observe, .ok (.seen seen)), (.preUninstall, .ok .done), (.uninstall, .error x)]
  | uninstalled (seen) (off : ¬ wanted) (there : seen.present = true) (drop : ¬ kept) :
    Talk .uninstalled [(.observe, .ok (.seen seen)), (.preUninstall, .ok .done), (.uninstall, .ok .done)]
  | unanswered (seen x) (on : wanted) : Talk .installFailed [(.observe, .ok (.seen seen)), (.installable, .error x)]
  | refused (seen) (on : wanted) :
    Talk .componentNotAllowed [(.observe, .ok (.seen seen)), (.installable, .ok (.verdict false))]
  | unmet (seen) (on : wanted) (missing : ¬ met) :
    Talk .dependencyCheckFailed [(.observe, .ok (.seen seen)), (.installable, .ok (.verdict true))]
  | notPreparedToInstall (seen x) (on : wanted) (has : met) (gone : seen.present = false) :
    Talk .installFailed [(.observe, .ok (.seen seen)), (.installable, .ok (.verdict true)), (.preInstall, .error x)]
  | notInstalled (seen x) (on : wanted) (has : met) (gone : seen.present = false) :
    Talk .installFailed [(.observe, .ok (.seen seen)), (.installable, .ok (.verdict true)), (.preInstall, .ok .done),
      (.install, .error x)]
  | installed (seen) (on : wanted) (has : met) (gone : seen.present = false) :
    Talk .installed [(.observe, .ok (.seen seen)), (.installable, .ok (.verdict true)), (.preInstall, .ok .done),
      (.install, .ok .done)]
  | notPreparedToUpdate (seen x) (on : wanted) (has : met) (there : seen.present = true) :
    Talk .updateFailed [(.observe, .ok (.seen seen)), (.installable, .ok (.verdict true)), (.preUpdate, .error x)]
  | notUpdated (seen x) (on : wanted) (has : met) (there : seen.present = true) :
    Talk .updateFailed [(.observe, .ok (.seen seen)), (.installable, .ok (.verdict true)), (.preUpdate, .ok .done),
      (.update, .error x)]
  | notObservedAgain (seen x) (on : wanted) (has : met) (there : seen.present = true) :
    Talk .observationFailed [(.observe, .ok (.seen seen)), (.installable, .ok (.verdict true)), (.preUpdate, .ok .done),
      (.update, .ok .done), (.observe, .error x)]
  | unhealthy (seen again) (on : wanted) (has : met) (there : seen.present = true) (ill : again.health.healthy = false) :
    Talk .unhealthy [(.observe, .ok (.seen seen)), (.installable, .ok (.verdict true)), (.preUpdate, .ok .done),
      (.update, .ok .done), (.observe, .ok (.seen again))]
  | healthy (seen again) (on : wanted) (has : met) (there : seen.present = true) (well : again.health.healthy = true) :
    Talk .healthy [(.observe, .ok (.seen seen)), (.installable, .ok (.verdict true)), (.preUpdate, .ok .done),
      (.update, .ok .done), (.observe, .ok (.seen again))]

end

section
variable {config : Config} {registered : List (Component (Watched σ))} {r : Reconciler (Watched σ)} {place : Nat}
  {c : Component (Watched σ)} {w w' : Watched σ} {ending : Ending} {wanted kept met : Prop} {seen : Observation}

theorem Removes.talk (off : ¬ wanted) (keeps : kept ↔ (c.keep && config.honorKeep) = true) (there : seen.present = true)
    (h : Removes config (r.watched place) c w ending w') :
    ∃ rest, Talk wanted kept met ending.1 ((.observe, .ok (.seen seen)) :: rest) ∧
      w'.calls = w.calls ++ rest.map (Call.of place c.name) := by
  have drops : (c.keep && config.honorKeep) = false → ¬ kept := fun hk hkept => by
    rw [keeps.mp hkept] at hk
    cases hk
  cases h with
  | kept keep honor =>
    exact ⟨_, .kept seen off there (keeps.mpr (Bool.and_eq_true_iff.mpr ⟨keep, honor⟩)), by simp⟩
  | unprepared keep prepare => exact ⟨_, .notPreparedToUninstall seen _ off there (drops keep), calls_of_watch prepare⟩
  | failed keep prepare act =>
    have h₂ := calls_of_watch_cons prepare (calls_of_watch act)
    exact ⟨_, .notUninstalled seen _ off there (drops keep), h₂⟩
  | done keep prepare act =>
    have h₂ := calls_of_watch_cons prepare (calls_of_watch act)
    exact ⟨_, .uninstalled seen off there (drops keep), h₂⟩

theorem Installs.talk (on : wanted) (has : met) (gone : seen.present = false)
    (h : Installs (r.watched place) c w ending w') :
    ∃ rest, Talk wanted kept met ending.1
        ((.observe, .ok (.seen seen)) :: (.installable, .ok (.verdict true)) :: rest) ∧
      w'.calls = w.calls ++ rest.map (Call.of place c.name) := by
  cases h with
  | unprepared prepare => exact ⟨_, .notPreparedToInstall seen _ on has gone, calls_of_watch prepare⟩
  | failed prepare act =>
    have h₂ := calls_of_watch_cons prepare (calls_of_watch act)
    exact ⟨_, .notInstalled seen _ on has gone, h₂⟩
  | done prepare act =>
    have h₂ := calls_of_watch_cons prepare (calls_of_watch act)
    exact ⟨_, .installed seen on has gone, h₂⟩

theorem Updates.talk (on : wanted) (has : met) (there : seen.present = true)
    (h : Updates (r.watched place) c w ending w') :
    ∃ rest, Talk wanted kept met ending.1
        ((.observe, .ok (.seen seen)) :: (.installable, .ok (.verdict true)) :: rest) ∧
      w'.calls = w.calls ++ rest.map (Call.of place c.name) := by
  cases h with
  | unprepared prepare => exact ⟨_, .notPreparedToUpdate seen _ on has there, calls_of_watch prepare⟩
  | failed prepare act =>
    have h₂ := calls_of_watch_cons prepare (calls_of_watch act)
    exact ⟨_, .notUpdated seen _ on has there, h₂⟩
  | unobserved prepare act look =>
    have h₃ := calls_of_watch_cons prepare (calls_of_watch_cons act (calls_of_watch look))
    exact ⟨_, .notObservedAgain seen _ on has there, h₃⟩
  | @done _ _ _ again prepare act look =>
    have h₃ := calls_of_watch_cons prepare (calls_of_watch_cons act (calls_of_watch look))
    cases hh : again.health.healthy with
    | false => exact ⟨_, .unhealthy seen again on has there hh, h₃⟩
    | true => exact ⟨_, .healthy seen again on has there hh, h₃⟩

/-- **A routed turn records a talk and nothing else.** -/
theorem Drives.talk (h : Drives config registered (r.watched place) c.watched w ending w') :
    ∃ said, Talk (c.enabled = true) ((c.keep && config.honorKeep) = true) (DependenciesMet registered c.watched)
        ending.1 said ∧ w'.calls = w.calls ++ said.map (Call.of place c.name) := by
  have off : c.watched.enabled = false → ¬ c.enabled = true := fun h => by
    rw [show c.enabled = false from h]
    exact Bool.false_ne_true
  cases h with
  | unobserved look => exact ⟨_, .unobserved _, calls_of_watch look⟩
  | disabled look unwanted gone => exact ⟨_, .disabled _ (off unwanted) gone, calls_of_watch look⟩
  | removes look unwanted there remove =>
    obtain ⟨rest, ht, h₂⟩ := remove.talk (off unwanted) Iff.rfl there
    exact ⟨_, ht, calls_of_watch_cons look h₂⟩
  | unanswered look wanted ask =>
    have h₂ := calls_of_watch_cons look (calls_of_watch ask)
    exact ⟨_, .unanswered _ _ wanted, h₂⟩
  | refused look wanted ask =>
    have h₂ := calls_of_watch_cons look (calls_of_watch ask)
    exact ⟨_, .refused _ wanted, h₂⟩
  | unmet look wanted ask missing =>
    have h₂ := calls_of_watch_cons look (calls_of_watch ask)
    exact ⟨_, .unmet _ wanted missing, h₂⟩
  | installs look may gone install =>
    obtain ⟨rest, ht, h₃⟩ := install.talk may.enabled may.dependencies gone
    exact ⟨_, ht, calls_of_watch_cons look (calls_of_watch_cons may.installable h₃)⟩
  | updates look may there update =>
    obtain ⟨rest, ht, h₃⟩ := update.talk may.enabled may.dependencies there
    exact ⟨_, ht, calls_of_watch_cons look (calls_of_watch_cons may.installable h₃)⟩

end

end Engine

end Converge
