import Converge.Proofs.Gating
import Mathlib.Data.List.Forall2

/-!
# Passes next to components that nobody wants

* `Blind R m` : an operation cannot tell related states apart. `Blind.bindExcept`, `Blind.step`: so is what is made of such
  operations; `blind_drive`: so is the turn of a component.
* `Reworded` : what further components, none of them wanted, make of the explanation that something is not registered;
  `findSome?_dependencyFault_append`: that is all that they make of a missing dependency.
* `Engine.turns_register`: with such components registered, the turns of the others stay as they are but for this wording.
* `Engine.register_unseen`: so it is for whole passes and their calls.
-/

namespace Converge

set_option autoImplicit false

/-! ## Operations that cannot tell states apart -/

section
variable {σ ε ε' α β : Type} {R : σ → σ → Prop}

/-- From states that are related the operation gives the same answer and ends in states that are related. -/
def Blind (R : σ → σ → Prop) (m : StateM σ α) : Prop := ∀ s s', R s s' → (m.run s).1 = (m.run s').1 ∧ R (m.run s).2 (m.run s').2

namespace Blind

theorem done (x : Except ε α) : Blind R (pure x) := fun _ _ h => ⟨rfl, h⟩

theorem bindExcept {a : ExceptT ε (StateM σ) α} {f : α → ExceptT ε (StateM σ) β} (ha : Blind R a.run)
    (hf : ∀ v, Blind R (f v).run) : Blind R (a >>= f).run := by
  intro s s' h
  obtain ⟨answer, states⟩ := ha s s' h
  rcases hs : a.run s with ⟨x | v, t⟩ <;> rcases hs' : a.run s' with ⟨x' | v', t'⟩
  all_goals
    rw [show a.run.run s = _ from hs, show a.run.run s' = _ from hs'] at answer states
    cases answer
  · rw [show (a >>= f).run.run s = _ from run_bind_error hs f, show (a >>= f).run.run s' = _ from run_bind_error hs' f]
    exact ⟨rfl, states⟩
  · rw [show (a >>= f).run.run s = _ from run_bind_ok hs f, show (a >>= f).run.run s' = _ from run_bind_ok hs' f]
    exact hf v t t' states

theorem adapt {a : ExceptT ε (StateM σ) α} (ha : Blind R a.run) (f : ε → ε') : Blind R (ExceptT.adapt f a).run := by
  intro s s' h
  obtain ⟨answer, states⟩ := ha s s' h
  exact ⟨congrArg (Except.mapError f) answer, states⟩

theorem step {a : Act σ α} (ha : Blind R a.run) (failed : ComponentStatus) : Blind R (Engine.step failed a).run := ha.adapt _

end Blind

/-- The calls to a reconciler about a component cannot tell related states apart. -/
structure Reconciler.BlindTo (R : σ → σ → Prop) (r : Reconciler σ) (c : Component σ) : Prop where
  observe : Blind R (r.observe c).run
  install : Blind R (r.install c).run
  update : Blind R (r.update c).run
  uninstall : Blind R (r.uninstall c).run
  preInstall : Blind R (r.preInstall c).run
  preUpdate : Blind R (r.preUpdate c).run
  preUninstall : Blind R (r.preUninstall c).run

/-- Neither the reconcilers nor the components can tell related states apart, whatever is published. -/
structure Engine.BlindTo (R : σ → σ → Prop) (e : Engine σ) : Prop where
  reconcilers : ∀ r ∈ e.reconcilers, ∀ c ∈ e.components, r.BlindTo R c
  components : ∀ c ∈ e.components, Blind R c.installable.run
  publish : ∀ event event' s s', R s s' → R ((e.publish event).run s).2 ((e.publish event').run s').2

end

namespace Engine
variable {σ : Type} {R : σ → σ → Prop} {config : Config} {r : Reconciler σ} {c : Component σ}

/-! ## Turns -/

/-- Takes a component, observed once, to what is wanted of it, when something that it needs is missing or nothing is. -/
def driveWith (config : Config) (fault : Option String) (r : Reconciler σ) (c : Component σ) : Stretch σ Ending := do
  let seen ← step .observationFailed (r.observe c)
  if !c.enabled then
    if seen.present then remove config r c else return (.disabled, c.name ++ " is disabled.")
  else if !(← step .installFailed c.installable) then
    return (.componentNotAllowed, c.name ++ " is not allowed to be installed.")
  else
    match fault with
    | some fault => return (.dependencyCheckFailed, fault)
    | none => if seen.present then update r c else install r c

theorem drive_eq (config : Config) (registered : List (Component σ)) (r : Reconciler σ) (c : Component σ) :
    drive config registered r c = driveWith config (c.dependencies.findSome? (dependencyFault registered)) r c := rfl

section
variable (h : r.BlindTo R c)
include h

theorem blind_remove : Blind R (remove config r c).run := by
  unfold remove
  split
  · exact .done _
  · exact (h.preUninstall.step _).bindExcept fun _ => (h.uninstall.step _).bindExcept fun _ => .done _

theorem blind_install : Blind R (install r c).run :=
  (h.preInstall.step _).bindExcept fun _ => (h.install.step _).bindExcept fun _ => .done _

theorem blind_update : Blind R (update r c).run :=
  (h.preUpdate.step _).bindExcept fun _ => (h.update.step _).bindExcept fun _ => (h.observe.step _).bindExcept fun _ => .done _

theorem blind_driveWith (check : Blind R c.installable.run) (fault : Option String) :
    Blind R (driveWith config fault r c).run := by
  refine (h.observe.step _).bindExcept fun seen => ?_
  split
  · split
    · exact blind_remove h
    · exact .done _
  · refine (check.step _).bindExcept fun allowed => ?_
    split
    · exact .done _
    · cases fault with
      | some fault => exact .done _
      | none =>
        dsimp only
        split
        · exact blind_update h
        · exact blind_install h

end

/-- Another wording of what is missing changes nothing but the explanation of a turn that ends with it. -/
theorem driveWith_some (config : Config) (r : Reconciler σ) (c : Component σ) (fault fault' : String) (s : σ) :
    ((driveWith config (some fault') r c).run s).2 = ((driveWith config (some fault) r c).run s).2 ∧
      (((driveWith config (some fault') r c).run s).1 = ((driveWith config (some fault) r c).run s).1 ∨
        ((driveWith config (some fault) r c).run s).1 = .ok (.dependencyCheckFailed, fault) ∧
          ((driveWith config (some fault') r c).run s).1 = .ok (.dependencyCheckFailed, fault')) := by
  unfold driveWith
  rcases look : (r.observe c).run s with ⟨x | seen, s₁⟩
  · rw [run_bind_error (step_error look _), run_bind_error (step_error look _)]
    exact ⟨rfl, .inl rfl⟩
  rw [run_bind_ok (step_ok look _), run_bind_ok (step_ok look _)]
  split
  · exact ⟨rfl, .inl rfl⟩
  rcases ask : c.installable.run s₁ with ⟨x | allowed, s₂⟩
  · rw [run_bind_error (step_error ask _), run_bind_error (step_error ask _)]
    exact ⟨rfl, .inl rfl⟩
  rw [run_bind_ok (step_ok ask _), run_bind_ok (step_ok ask _)]
  split
  · exact ⟨rfl, .inl rfl⟩
  · exact ⟨rfl, .inr ⟨rfl, rfl⟩⟩

/-! ## Dependencies -/

/-- The explanation that something is not registered becomes the one that it is not enabled, for a kind that only further
components are of. -/
def Reworded (cs extra : List (Component σ)) (kinds : List ComponentKind) (message message' : String) : Prop :=
  ∃ kind ∈ kinds, ∃ d, firstOf cs kind = none ∧ firstOf extra kind = some d ∧
    message = "dependency " ++ kind ++ " is not registered" ∧
    message' = "dependency " ++ kind ++ " (" ++ d.name ++ ") is not enabled"

section
variable {cs extra : List (Component σ)} (off : ∀ d ∈ extra, d.enabled = false)
include off

theorem dependencyFault_append (kind : ComponentKind) : dependencyFault (cs ++ extra) kind = dependencyFault cs kind ∨
    ∃ d, firstOf cs kind = none ∧ firstOf extra kind = some d ∧
      dependencyFault (cs ++ extra) kind = some ("dependency " ++ kind ++ " (" ++ d.name ++ ") is not enabled") := by
  have first : firstOf (cs ++ extra) kind = (firstOf cs kind).or (firstOf extra kind) := List.find?_append
  unfold dependencyFault
  rw [first]
  cases firstOf cs kind with
  | some c => exact .inl rfl
  | none =>
    cases hd : firstOf extra kind with
    | none => exact .inl rfl
    | some d =>
      refine .inr ⟨d, rfl, rfl, ?_⟩
      dsimp only [Option.none_or]
      rw [off d (List.mem_of_find?_eq_some hd)]
      rfl

/-- Further components that nobody wants meet no dependency; they may change how the first missing one is explained. -/
theorem findSome?_dependencyFault_append (cs : List (Component σ)) (kinds : List ComponentKind) :
    kinds.findSome? (dependencyFault cs) = none ∧ kinds.findSome? (dependencyFault (cs ++ extra)) = none ∨
      ∃ fault fault', kinds.findSome? (dependencyFault cs) = some fault ∧
        kinds.findSome? (dependencyFault (cs ++ extra)) = some fault' ∧
        (fault' = fault ∨ Reworded cs extra kinds fault fault') := by
  induction kinds with
  | nil => exact .inl ⟨rfl, rfl⟩
  | cons kind kinds ih =>
    rw [List.findSome?_cons, List.findSome?_cons]
    rcases dependencyFault_append off kind with same | ⟨d, hc, hd, other⟩
    · rw [same]
      cases dependencyFault cs kind with
      | some fault => exact .inr ⟨fault, fault, rfl, rfl, .inl rfl⟩
      | none =>
        refine ih.imp_right ?_
        rintro ⟨fault, fault', h, h', hm⟩
        exact ⟨fault, fault', h, h', hm.imp_right fun ⟨k, hk, hr⟩ => ⟨k, List.mem_cons_of_mem _ hk, hr⟩⟩
    · have missing : dependencyFault cs kind = some ("dependency " ++ kind ++ " is not registered") := by
        unfold dependencyFault
        rw [hc]
      rw [missing, other]
      exact .inr ⟨_, _, rfl, rfl, .inr ⟨kind, List.mem_cons_self, d, hc, hd, rfl, rfl⟩⟩

end

/-! ## Passes -/

/-- The outcome next to further components is the same but for how something missing is explained. -/
structure Kept (cs extra : List (Component σ)) (o o' : Outcome σ) : Prop where
  component : o'.component = o.component
  status : o'.status = o.status
  message : o'.message = o.message ∨
    o.status = .dependencyCheckFailed ∧ Reworded cs extra o.component.dependencies o.message o'.message

section
variable {e : Engine σ} {extra : List (Component σ)} (off : ∀ d ∈ extra, d.enabled = false)

include off in
/-- From the same state a turn next to further components goes the same way. -/
theorem converge_register (c : Component σ) (s : σ) :
    (((e.register extra).converge c).run s).2 = ((e.converge c).run s).2 ∧
      Kept e.components extra (outcomeOf c ((e.converge c).run s).1) (outcomeOf c (((e.register extra).converge c).run s).1) := by
  have same : (e.register extra).route c.kind = e.route c.kind := rfl
  cases route : e.route c.kind with
  | error message =>
    unfold converge
    rw [same, route]
    exact ⟨rfl, rfl, rfl, .inl rfl⟩
  | ok r =>
    have run : ∀ e' : Engine σ, e'.route c.kind = .ok r → (e'.converge c).run s =
        (close ((driveWith e'.config (c.dependencies.findSome? (dependencyFault e'.components)) r c).run s).1,
          ((driveWith e'.config (c.dependencies.findSome? (dependencyFault e'.components)) r c).run s).2) :=
      fun e' route' => converge_run_routed route' s
    rw [run _ (same.trans route), run _ route]
    change ((driveWith e.config (c.dependencies.findSome? (dependencyFault (e.components ++ extra))) r c).run s).2 = _ ∧ Kept _ _ _
      (outcomeOf c (close ((driveWith e.config (c.dependencies.findSome? (dependencyFault (e.components ++ extra))) r c).run s).1))
    rcases findSome?_dependencyFault_append off e.components c.dependencies with ⟨h, h'⟩ | ⟨fault, fault', h, h', hm⟩
    · rw [h, h']
      exact ⟨rfl, rfl, rfl, .inl rfl⟩
    · rw [h, h']
      obtain ⟨states, answers⟩ := driveWith_some e.config r c fault fault' s
      refine ⟨states, ?_⟩
      rcases answers with answer | ⟨answer, answer'⟩
      · rw [answer]
        exact ⟨rfl, rfl, .inl rfl⟩
      · rw [answer, answer']
        exact ⟨rfl, rfl, hm.imp_right fun hr => ⟨rfl, hr⟩⟩

variable (blind : e.BlindTo R)
include blind

theorem blind_converge (hc : c ∈ e.components) : Blind R (e.converge c) := by
  cases route : e.route c.kind with
  | error message =>
    unfold converge
    rw [route]
    exact fun _ _ h => ⟨rfl, h⟩
  | ok r =>
    intro s s' h
    obtain ⟨answer, states⟩ := blind_driveWith (blind.reconcilers r (mem_of_route route).1 c hc) (blind.components c hc)
      (c.dependencies.findSome? (dependencyFault e.components)) s s' h
    rw [converge_run_routed route, converge_run_routed route, drive_eq]
    exact ⟨congrArg close answer, states⟩

include off

/-- From related states a turn next to further components ends alike, in related states. -/
theorem turn_register (hc : c ∈ e.components) {s s' : σ} (h : R s s') :
    Kept e.components extra ((e.turn c).run s').1 (((e.register extra).turn c).run s).1 ∧
      R (((e.register extra).turn c).run s).2 ((e.turn c).run s').2 := by
  obtain ⟨states, kept⟩ := converge_register (e := e) off c s
  obtain ⟨answer, related⟩ := blind_converge blind hc s s' h
  rw [answer] at kept
  rw [turn_run, turn_run, states]
  refine ⟨kept, ?_⟩
  have status := kept.status
  unfold announce Outcome.event?
  rw [status]
  cases (outcomeOf c ((e.converge c).run s').1).status.eventType? with
  | none => exact related
  | some type => exact blind.publish _ _ _ _ related

/-- From related states the turns of components next to further ones end alike, in related states. -/
theorem turns_register {cs : List (Component σ)} (hcs : ∀ c ∈ cs, c ∈ e.components) {s s' : σ} (h : R s s') :
    List.Forall₂ (Kept e.components extra) ((e.turns cs).run s').1 (((e.register extra).turns cs).run s).1 ∧
      R (((e.register extra).turns cs).run s).2 ((e.turns cs).run s').2 := by
  induction cs generalizing s s' with
  | nil => exact ⟨.nil, h⟩
  | cons c cs ih =>
    obtain ⟨kept, related⟩ := turn_register off blind (hcs c List.mem_cons_self) h
    obtain ⟨rest, related⟩ := ih (fun d hd => hcs d (List.mem_cons_of_mem _ hd)) related
    rw [turns_cons_run, turns_cons_run]
    exact ⟨.cons kept rest, related⟩

end

end Engine

/-! ## Passes and their calls -/

section
variable {σ : Type}

/-- The states are alike, and the same was asked. -/
structure Watched.Like (like : σ → σ → Prop) (w w' : Watched σ) : Prop where
  own : like w.own w'.own
  calls : w.calls = w'.calls

variable {like : σ → σ → Prop}

theorem Blind.watch {α : Type} {a : Act (Watched σ) α} (h : Blind (Watched.Like like) a.run) (reconciler : Option Nat)
    (component : String) (question : Question) (answer : α → Answer) :
    Blind (Watched.Like like) (Converge.watch reconciler component question answer a).run := by
  intro w w' hw
  obtain ⟨same, alike⟩ := h w w' hw
  refine ⟨same, alike.own, ?_⟩
  change w.calls ++ [⟨_, _, _, (a.run.run w).1.map answer⟩] = w'.calls ++ [⟨_, _, _, (a.run.run w').1.map answer⟩]
  rw [hw.calls, same]

theorem Reconciler.BlindTo.watched {r : Reconciler (Watched σ)} {c : Component (Watched σ)}
    (h : r.BlindTo (Watched.Like like) c) (place : Nat) : (r.watched place).BlindTo (Watched.Like like) c where
  observe := h.observe.watch _ _ _ _
  install := h.install.watch _ _ _ _
  update := h.update.watch _ _ _ _
  uninstall := h.uninstall.watch _ _ _ _
  preInstall := h.preInstall.watch _ _ _ _
  preUpdate := h.preUpdate.watch _ _ _ _
  preUninstall := h.preUninstall.watch _ _ _ _

namespace Engine

/-- Neither the reconcilers nor the components take notice of what is published: they cannot tell states apart that are
alike, and publishing leaves them alike. -/
structure Deaf (like : σ → σ → Prop) (e : Engine (Watched σ)) : Prop where
  reconcilers : ∀ r ∈ e.reconcilers, ∀ c ∈ e.components, r.BlindTo (Watched.Like like) c.watched
  components : ∀ c ∈ e.components, Blind (Watched.Like like) c.installable.run
  publish : ∀ event event' (w w' : Watched σ), w.Like like w' →
    like ((e.publish event).run w).2.own ((e.publish event').run w').2.own

theorem Deaf.blind {e : Engine (Watched σ)} (h : e.Deaf like) : e.watched.BlindTo (Watched.Like like) := by
  constructor
  · intro r hr c hc
    obtain ⟨place, asked, hp, rfl⟩ := exists_of_mem_mapIdx hr
    obtain ⟨member, hm, rfl⟩ := List.mem_map.mp hc
    exact (h.reconcilers asked (List.mem_of_getElem? hp) member hm).watched place
  · intro c hc
    obtain ⟨member, hm, rfl⟩ := List.mem_map.mp hc
    exact (h.components member hm).watch _ _ _ _
  · intro event event' w w' hw
    exact ⟨h.publish event event' w w' hw, hw.calls⟩

theorem watched_register (e : Engine (Watched σ)) (extra : List (Component (Watched σ))) :
    (e.register extra).watched = e.watched.register (extra.map (·.watched)) := by
  unfold watched register
  rw [List.map_append]

section
variable {e : Engine (Watched σ)} (deaf : e.Deaf like) {extra : List (Component (Watched σ))}
  (off : ∀ d ∈ extra, d.enabled = false) {w w' : Watched σ} (h : w.Like like w')
include deaf off h

theorem turns_watched {cs : List (Component (Watched σ))} (hcs : ∀ c ∈ cs, c ∈ e.components) :
    List.Forall₂ (Kept e.watched.components (extra.map (·.watched))) ((e.watched.turns (cs.map (·.watched))).run w').1
      (((e.register extra).watched.turns (cs.map (·.watched))).run w).1 ∧
    Watched.Like like (((e.register extra).watched.turns (cs.map (·.watched))).run w).2
      ((e.watched.turns (cs.map (·.watched))).run w').2 := by
  have off' : ∀ d ∈ extra.map (·.watched), d.enabled = false := by
    intro d hd
    obtain ⟨member, hm, rfl⟩ := List.mem_map.mp hd
    exact off member hm
  rw [watched_register]
  refine turns_register off' deaf.blind (fun c hc => ?_) h
  obtain ⟨member, hm, rfl⟩ := List.mem_map.mp hc
  exact List.mem_map.mpr ⟨member, hcs member hm, rfl⟩

end

/-- What a pass next to further components comes to, and one without them. -/
structure Unseen (like : σ → σ → Prop) (e : Engine (Watched σ)) (extra : List (Component (Watched σ))) (w w' : Watched σ) :
    Prop where
  /-- The first results are the same but for how something missing is explained. -/
  own : List.Forall₂ (Kept e.watched.components (extra.map (·.watched))) (e.watched.reconcile.run w').1
    (((e.register extra).watched.reconcile.run w).1.take e.components.length)
  /-- After them there is one for each further component. -/
  more : (((e.register extra).watched.reconcile.run w).1.drop e.components.length).map (·.component) = extra.map (·.watched)
  /-- After each of the first turns the same was asked, and the states are alike. -/
  calls : ∀ n, ((((e.register extra).watched.turns ((e.components.take n).map (·.watched))).run w).2.Like like
    ((e.watched.turns ((e.components.take n).map (·.watched))).run w').2)
  /-- What is asked for the further components comes after all that. -/
  later : ∃ rest, ((e.register extra).watched.reconcile.run w).2.calls = (e.watched.reconcile.run w').2.calls ++ rest

/-- **Further components that nobody wants go unseen** by the others. -/
theorem register_unseen {e : Engine (Watched σ)} (deaf : e.Deaf like) {extra : List (Component (Watched σ))}
    (off : ∀ d ∈ extra, d.enabled = false) {w w' : Watched σ} (h : w.Like like w') : Unseen like e extra w w' := by
  obtain ⟨own, alike⟩ := turns_watched deaf off h fun c (hc : c ∈ e.components) => hc
  have pass := turns_append_run (e.register extra).watched (e.components.map (·.watched)) (extra.map (·.watched)) w
  rw [← List.map_append, show ((e.register extra).watched.turns ((e.components ++ extra).map (·.watched))).run w =
    (e.register extra).watched.reconcile.run w from rfl] at pass
  have length : (((e.register extra).watched.turns (e.components.map (·.watched))).run w).1.length = e.components.length := by
    have named := congrArg List.length (components_of_turns (e.register extra).watched (e.components.map (·.watched)) w)
    rwa [List.length_map, List.length_map] at named
  constructor
  · rw [pass, List.take_left' length]
    exact own
  · rw [pass, List.drop_left' length]
    exact components_of_turns ..
  · intro n
    exact (turns_watched deaf off h fun c hc => List.mem_of_mem_take hc).2
  · obtain ⟨asked, -, record, -⟩ := turns_gated (e.register extra) extra
      (((e.register extra).watched.turns (e.components.map (·.watched))).run w).2
    rw [pass]
    exact ⟨_, record.trans (congrArg (· ++ _) alike.calls)⟩

end Engine

end

/-! ## A sample: an application and the database that it needs -/

namespace Sample

/-- A reconciler that finds what it was asked to install. -/
def installer : Reconciler (Watched (List Event)) where
  kinds := .ofList ["App", "Db"]
  observe c := ExceptT.mk fun w =>
    (.ok (if w.calls.any fun k => k.component = c.name ∧ k.question = .install then .existing .good else .absent), w)
  install _ := pure ()
  update _ := pure ()
  uninstall _ := pure ()
  preInstall _ := pure ()
  preUpdate _ := pure ()
  preUninstall _ := pure ()

/-- An application that needs a database; what is published is noted. -/
def shop : Engine (Watched (List Event)) where
  config := {}
  components := [{ name := "Shop", kind := "App", enabled := true, dependencies := ["Db"] }]
  reconcilers := [installer]
  publish event := fun w => ((), { w with own := w.own ++ [event] })

/-- A database that nobody wants. -/
def oldDb : Component (Watched (List Event)) where
  name := "OldDb"
  kind := "Db"
  enabled := false

theorem shop_deaf : shop.Deaf fun _ _ => True := by
  refine ⟨fun r hr c _ => ?_, fun c hc => ?_, fun _ _ _ _ _ => trivial⟩
  · cases List.mem_singleton.mp hr
    refine ⟨fun w w' h => ⟨?_, h⟩, .done _, .done _, .done _, .done _, .done _, .done _⟩
    change Except.ok (ε := Error) (if (w.calls.any _) = true then _ else _) = .ok (if (w'.calls.any _) = true then _ else _)
    rw [h.calls]
  · cases List.mem_singleton.mp hc
    exact .done _

end Sample

section
open Sample

/-- An unwanted database next to the application changes why the application is not installed, and nothing else. -/
theorem Engine.register_unseen_shop : shop.Unseen (fun _ _ => True) [oldDb] ⟨[], []⟩ ⟨[], []⟩ ∧
    (shop.watched.reconcile.run ⟨[], []⟩).1.map (·.message) = ["dependency Db is not registered"] ∧
    ((shop.register [oldDb]).watched.reconcile.run ⟨[], []⟩).1.map (·.message) =
      ["dependency Db (OldDb) is not enabled", "OldDb is disabled."] :=
  ⟨register_unseen shop_deaf (List.forall_mem_singleton.mpr rfl) ⟨trivial, rfl⟩, by decide +kernel, by decide +kernel⟩

end

end Converge
