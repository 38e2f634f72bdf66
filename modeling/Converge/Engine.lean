import Converge.Config
import Converge.Outcome
import Converge.Reconciler

/-!
# The engine

* `Engine σ` holds the registered components and reconcilers. `Engine.claimants` are the reconcilers of a kind,
  `Engine.route` the only one.
* `Engine.converge` takes one component from what is observed to what is wanted and gives a status and an explanation:
  a component that is not wanted is removed (`Engine.remove`); one that is wanted must be installable and have its
  dependencies (`Engine.dependencyFault`), and is then installed or updated.
* `Engine.reconcile` does so for every component in the order of registration and publishes the outcomes.
* `Engine.registerOrphans` registers what the detectors find, so that the next pass removes it.
* `Engine.policyRules` collects the rules of the wanted components.
-/

namespace Converge

set_option autoImplicit false

/-- The registered components and reconcilers, and where events go. -/
structure Engine (σ : Type) where
  config : Config
  components : List (Component σ) := []
  reconcilers : List (Reconciler σ) := []
  /-- Publishes an event; this never fails. -/
  publish : Event → StateM σ Unit := fun _ => pure ()

namespace Engine

variable {σ : Type}

def register (e : Engine σ) (cs : List (Component σ)) : Engine σ := { e with components := e.components ++ cs }

def registerReconciler (e : Engine σ) (r : Reconciler σ) : Engine σ := { e with reconcilers := e.reconcilers ++ [r] }

/-! ## Routing -/

def claimants (e : Engine σ) (kind : ComponentKind) : List (Reconciler σ) := e.reconcilers.filter (·.claims kind)

/-- The only reconciler that claims a kind, or why there is none. -/
def route (e : Engine σ) (kind : ComponentKind) : Except String (Reconciler σ) :=
  match e.claimants kind with
  | [r] => .ok r
  | [] => .error ("no reconciler registered for kind " ++ kind)
  | rs => .error ("ambiguous reconciler for kind " ++ kind ++ ": claimed by " ++ toString rs.length ++ " reconcilers")

/-- How many registered reconcilers claim each kind, counted kind by kind. -/
def claimCounts (e : Engine σ) : SortedMap ComponentKind Nat :=
  (e.reconcilers.flatMap (·.kinds.keys)).foldl (fun counts kind => counts.insert kind ((counts.get? kind).getD 0 + 1))
    .empty

/-- The kinds that more than one registered reconciler claims, in ascending order. -/
def ambiguousKinds (e : Engine σ) : List ComponentKind :=
  (e.claimCounts.entries.filter fun entry => entry.2 > 1).map (·.1)

/-! ## One component -/

def firstOf (cs : List (Component σ)) (kind : ComponentKind) : Option (Component σ) := cs.find? (·.kind == kind)

def dependencyFault (cs : List (Component σ)) (kind : ComponentKind) : Option String :=
  match firstOf cs kind with
  | none => some ("dependency " ++ kind ++ " is not registered")
  | some c => if c.enabled then none else some ("dependency " ++ kind ++ " (" ++ c.name ++ ") is not enabled")

/-- What a component's turn ends with: a status and an explanation. -/
abbrev Ending : Type := ComponentStatus × String

/-- A part of a component's turn, which may end the turn. -/
abbrev Stretch (σ α : Type) : Type := ExceptT Ending (StateM σ) α

/-- Runs a step; its failure ends the component's turn with a status. -/
def step {α : Type} (failed : ComponentStatus) (a : Act σ α) : Stretch σ α :=
  ExceptT.adapt (fun e => (failed, e.message)) a

/-- Removes a component that is not wanted, unless it keeps its resources. -/
def remove (config : Config) (r : Reconciler σ) (c : Component σ) : Stretch σ Ending := do
  if c.keep && config.honorKeep then
    return (.uninstalled, c.name ++ " has been marked as uninstalled; its resources are kept in place.")
  step .uninstallFailed (r.preUninstall c)
  step .uninstallFailed (r.uninstall c)
  return (.uninstalled, c.name ++ " has been uninstalled successfully.")

def install (r : Reconciler σ) (c : Component σ) : Stretch σ Ending := do
  step .installFailed (r.preInstall c)
  step .installFailed (r.install c)
  return (.installed, c.name ++ " has been installed successfully.")

def update (r : Reconciler σ) (c : Component σ) : Stretch σ Ending := do
  step .updateFailed (r.preUpdate c)
  step .updateFailed (r.update c)
  let seen ← step .observationFailed (r.observe c)
  return (if seen.health.healthy then .healthy else .unhealthy, seen.health.message)

/-- Takes a component, observed once, to what is wanted of it. -/
def drive (config : Config) (registered : List (Component σ)) (r : Reconciler σ) (c : Component σ) :
    Stretch σ Ending := do
  let seen ← step .observationFailed (r.observe c)
  if !c.enabled then
    if seen.present then remove config r c else return (.disabled, c.name ++ " is disabled.")
  else if !(← step .installFailed c.installable) then
    return (.componentNotAllowed, c.name ++ " is not allowed to be installed.")
  else
    match c.dependencies.findSome? (dependencyFault registered) with
    | some fault => return (.dependencyCheckFailed, fault)
    | none => if seen.present then update r c else install r c

/-- Takes a component to what is wanted of it; gives the status and the explanation. -/
def converge (e : Engine σ) (c : Component σ) : StateM σ Ending :=
  match e.route c.kind with
  | .error message => pure (.reconcilerNotFound, message)
  | .ok r => do
    match ← (drive e.config e.components r c).run with
    | .ok ending => pure ending
    | .error ending => pure ending

/-! ## A pass -/

/-- Takes one component's turn, and publishes the outcome. -/
def turn (e : Engine σ) (c : Component σ) : StateM σ (Outcome σ) := do
  let (status, message) ← e.converge c
  let outcome : Outcome σ := ⟨c, status, message⟩
  match outcome.event? e.config.eventAction with
  | some event => e.publish event
  | none => pure ()
  return outcome

def turns (e : Engine σ) : List (Component σ) → StateM σ (List (Outcome σ))
  | [] => return []
  | c :: rest => do
    let outcome ← e.turn c
    return outcome :: (← turns e rest)

def reconcile (e : Engine σ) : StateM σ (List (Outcome σ)) := e.turns e.components

/-! ## Orphans -/

/-- What the detectors find besides the configured components, and the failures, each in the order of the reconcilers. -/
def detect (configured : List (Component σ)) : List (Reconciler σ) → StateM σ (List (Component σ) × List Error)
  | [] => return ([], [])
  | r :: rest => do
    match r.orphans with
    | none => detect configured rest
    | some find =>
      let found ← (find configured).run
      let (orphans, failures) ← detect configured rest
      match found with
      | .ok cs => return (cs ++ orphans, failures)
      | .error e => return (orphans, e :: failures)

/-- Registers what the detectors find. Their number is the answer unless a detector failed; then all failures are. -/
def registerOrphans (e : Engine σ) : StateM σ (Engine σ × Except Error Nat) := do
  let (orphans, failures) ← detect e.components e.reconcilers
  return (e.register orphans,
    if failures.isEmpty then .ok orphans.length
    else .error (.internal ("; ".intercalate (failures.map Error.message)) "orphans"))

/-! ## Policy -/

/-- The list with the items of another that it does not have yet, each once. -/
def addNew {α : Type} [DecidableEq α] (present : List α) : List α → List α
  | [] => present
  | a :: rest => addNew (if a ∈ present then present else present ++ [a]) rest

/-- The rules of the wanted components, each once, in the order in which they come up. -/
def policyRules (e : Engine σ) : List PolicyRule :=
  addNew [] ((e.components.filter (·.enabled)).flatMap (·.policyRules))

end Engine

end Converge
