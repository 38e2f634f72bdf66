import Converge.Proofs.Turns
import Converge.Rehearsal.StandIn
import Mathlib.Data.List.Forall2

/-!
# What a pass publishes

The outcomes of a pass and the events that go with them, whatever the reconcilers do.

* `Act.Spares read a` : the operation leaves what is read off the state as it is. `Drives.spares`: what the calls of a turn
  spare, the turn spares.
* `Text.Cut` : the longest beginning of a text within a limit; `cut_cutNote`: so notes are cut.
* `Announces` : what the event of an outcome says; `forall₂_announces`: every outcome that is news has one.
* `Engine.Logs` : what is published goes to the end of a log that nothing else writes to.
* `Engine.reconcile_announces`: a pass has one outcome for every component, and logs the events of those that are news.
-/

namespace Converge

set_option autoImplicit false

variable {σ : Type}

/-! ## What operations spare -/

section
variable {α β : Type} {read : σ → β}

/-- The operation leaves what is read off the state as it is, whatever it answers. -/
def Act.Spares (read : σ → β) (a : Act σ α) : Prop := ∀ s, read (a.run s).2 = read s

namespace Act.Spares

theorem eq_of_run {a : Act σ α} (h : a.Spares read) {s s' : σ} {x : Except Error α} (hr : a.run s = (x, s')) :
    read s' = read s := by
  rw [← h s, hr]

theorem bind {γ : Type} {a : Act σ α} {f : α → Act σ γ} (ha : a.Spares read) (hf : ∀ v, (f v).Spares read) :
    (a >>= f).Spares read := by
  intro s
  rcases hrun : a.run s with ⟨e | v, s'⟩
  · rw [run_bind_error hrun]
    exact ha.eq_of_run hrun
  · rw [run_bind_ok hrun]
    exact (hf v s').trans (ha.eq_of_run hrun)

end Act.Spares

/-- What is asked of a reconciler about a component leaves what is read off the state as it is. -/
structure Reconciler.Spares (read : σ → β) (r : Reconciler σ) (c : Component σ) : Prop where
  observe : (r.observe c).Spares read
  install : (r.install c).Spares read
  update : (r.update c).Spares read
  uninstall : (r.uninstall c).Spares read
  preInstall : (r.preInstall c).Spares read
  preUpdate : (r.preUpdate c).Spares read
  preUninstall : (r.preUninstall c).Spares read

namespace Engine
variable {config : Config} {registered : List (Component σ)} {r : Reconciler σ} {c : Component σ} {s s' : σ} {ending : Ending}

section
variable (hr : r.Spares read c)
include hr

theorem Removes.spares (h : Removes config r c s ending s') : read s' = read s := by
  cases h with
  | kept => rfl
  | unprepared _ prepare => exact hr.preUninstall.eq_of_run prepare
  | failed _ prepare act => exact (hr.uninstall.eq_of_run act).trans (hr.preUninstall.eq_of_run prepare)
  | done _ prepare act => exact (hr.uninstall.eq_of_run act).trans (hr.preUninstall.eq_of_run prepare)

theorem Installs.spares (h : Installs r c s ending s') : read s' = read s := by
  cases h with
  | unprepared prepare => exact hr.preInstall.eq_of_run prepare
  | failed prepare act => exact (hr.install.eq_of_run act).trans (hr.preInstall.eq_of_run prepare)
  | done prepare act => exact (hr.install.eq_of_run act).trans (hr.preInstall.eq_of_run prepare)

theorem Updates.spares (h : Updates r c s ending s') : read s' = read s := by
  cases h with
  | unprepared prepare => exact hr.preUpdate.eq_of_run prepare
  | failed prepare act => exact (hr.update.eq_of_run act).trans (hr.preUpdate.eq_of_run prepare)
  | unobserved prepare act look =>
    exact (hr.observe.eq_of_run look).trans ((hr.update.eq_of_run act).trans (hr.preUpdate.eq_of_run prepare))
  | done prepare act look =>
    exact (hr.observe.eq_of_run look).trans ((hr.update.eq_of_run act).trans (hr.preUpdate.eq_of_run prepare))

/-- What the calls of a turn spare, the turn spares. -/
theorem Drives.spares (check : c.installable.Spares read) (h : Drives config registered r c s ending s') :
    read s' = read s := by
  cases h with
  | unobserved look => exact hr.observe.eq_of_run look
  | disabled look => exact hr.observe.eq_of_run look
  | removes look _ _ remove => exact (remove.spares hr).trans (hr.observe.eq_of_run look)
  | unanswered look _ ask => exact (check.eq_of_run ask).trans (hr.observe.eq_of_run look)
  | refused look _ ask => exact (check.eq_of_run ask).trans (hr.observe.eq_of_run look)
  | unmet look _ ask => exact (check.eq_of_run ask).trans (hr.observe.eq_of_run look)
  | installs look may _ install =>
    exact (install.spares hr).trans ((check.eq_of_run may.installable).trans (hr.observe.eq_of_run look))
  | updates look may _ update =>
    exact (update.spares hr).trans ((check.eq_of_run may.installable).trans (hr.observe.eq_of_run look))

end

theorem spares_converge {e : Engine σ} (reconcilers : ∀ r ∈ e.reconcilers, r.Spares read c)
    (check : c.installable.Spares read) (s : σ) : read ((e.converge c).run s).2 = read s := by
  have h := converge_turns e c s
  generalize ((e.converge c).run s).1 = ending at h
  generalize ((e.converge c).run s).2 = s' at h ⊢
  cases h with
  | unrouted => rfl
  | routed route drive => exact drive.spares (reconcilers _ (mem_of_route route).1) check

end Engine

end

/-! ## Notes -/

/-- The part is the longest beginning of a text, in whole characters, that takes at most `limit` bytes. -/
structure Text.Cut (limit : Nat) (whole part : String) : Prop where
  start : part.toList <+: whole.toList
  fits : part.utf8ByteSize ≤ limit
  longest : ∀ other : String, other.toList <+: whole.toList → other.utf8ByteSize ≤ limit → other.toList <+: part.toList

theorem cut_cutNote (note : String) : Text.Cut maxNoteBytes note (cutNote note) := by
  rw [cutNote_eq_fit]
  constructor
  · rw [String.toList_ofList]
    exact Text.fit_prefix _ _
  · rw [← Text.byteLength_toList, String.toList_ofList]
    exact Text.byteLength_fit_le _ _
  · intro other start fits
    rw [String.toList_ofList]
    exact Text.fit_longest start (Text.byteLength_toList other ▸ fits)

/-- A note that fits is not cut. -/
theorem cutNote_of_fits {note : String} (fits : note.utf8ByteSize ≤ maxNoteBytes) : cutNote note = note := by
  have cut := cut_cutNote note
  have back : note.toList <+: (cutNote note).toList := cut.longest note (List.prefix_refl _) fits
  exact String.ext (cut.start.eq_of_length_le back.length_le)

/-! ## The events of outcomes -/

/-- Whether the outcome is published: it is not a settled state that nothing was done for. -/
def Outcome.News (o : Outcome σ) : Prop := o.status ≠ .disabled ∧ o.status ≠ .healthy

instance (o : Outcome σ) : Decidable o.News := inferInstanceAs (Decidable (_ ∧ _))

/-- What the event of an outcome says. -/
structure Announces (action : String) (o : Outcome σ) (event : Event) : Prop where
  reason : event.reason = o.component.name ++ o.status.text
  action : event.action = action
  warning : event.type = .warning ↔ o.status ≠ .uninstalled ∧ o.status ≠ .installed
  unexplained : event.note = none ↔ o.message = ""
  note : ∀ note, event.note = some note → Text.Cut 1024 o.message note

theorem Outcome.announces_event (o : Outcome σ) (action : String) {type : EventType} (h : o.status.eventType? = some type) :
    ∃ event, o.event? action = some event ∧ Announces action o event := by
  refine ⟨_, congrArg (Option.map _) h, rfl, rfl, ?_, ?_, ?_⟩
  · change type = .warning ↔ _
    cases hs : o.status <;> rw [hs] at h <;> cases h <;> decide
  · change Option.map cutNote (if o.message.isEmpty then none else some o.message) = none ↔ _
    rw [Option.map_eq_none_iff, ← String.isEmpty_iff]
    split <;> simp_all
  · intro note hn
    change Option.map cutNote (if o.message.isEmpty then none else some o.message) = some note at hn
    split at hn
    · cases hn
    · obtain rfl := Option.some.inj hn
      exact cut_cutNote o.message

theorem Outcome.event?_of_not_news {o : Outcome σ} (h : ¬ o.News) (action : String) : o.event? action = none := by
  have settled : o.status = .disabled ∨ o.status = .healthy := by
    unfold News at h
    tauto
  unfold event?
  rcases settled with hs | hs <;> rw [hs] <;> rfl

theorem Outcome.exists_event_of_news {o : Outcome σ} (h : o.News) (action : String) :
    ∃ event, o.event? action = some event ∧ Announces action o event := by
  obtain ⟨type, ht⟩ : ∃ type, o.status.eventType? = some type := by
    obtain ⟨hd, hh⟩ := h
    cases hs : o.status <;> simp_all [ComponentStatus.eventType?]
  exact o.announces_event action ht

/-- **Every outcome that is news has its event**, in the order of the outcomes, and no event comes from elsewhere. -/
theorem forall₂_announces (action : String) (os : List (Outcome σ)) :
    List.Forall₂ (Announces action) (os.filter (·.News)) (os.filterMap (·.event? action)) := by
  induction os with
  | nil => exact .nil
  | cons o os ih =>
    by_cases h : o.News
    · obtain ⟨event, he, ha⟩ := o.exists_event_of_news h action
      rw [List.filter_cons_of_pos (by simpa using h), List.filterMap_cons, he]
      exact .cons ha ih
    · rw [List.filter_cons_of_neg (by simpa using h), List.filterMap_cons, Outcome.event?_of_not_news h action]
      exact ih

/-! ## Passes -/

namespace Engine
variable {log : σ → List Event} {e : Engine σ}

/-- What is published goes to the end of the log, and neither the reconcilers nor the components write to it. -/
structure Logs (log : σ → List Event) (e : Engine σ) : Prop where
  publish : ∀ event s, log ((e.publish event).run s).2 = log s ++ [event]
  reconcilers : ∀ r ∈ e.reconcilers, ∀ c ∈ e.components, r.Spares log c
  components : ∀ c ∈ e.components, c.installable.Spares log

theorem Logs.still (h : e.Logs log) {c : Component σ} (hc : c ∈ e.components) (s : σ) :
    log ((e.converge c).run s).2 = log s :=
  spares_converge (fun r hr => h.reconcilers r hr c hc) (h.components c hc) s

/-- **Outcomes and events mirror the registrations.** However reconcilers and components answer, a pass has one outcome for
every registered component, in the order of registration, and what it logs are the events of those that are news. -/
theorem reconcile_announces (h : e.Logs log) (s : σ) :
    (e.reconcile.run s).1.map (·.component) = e.components ∧
      ∃ events, log (e.reconcile.run s).2 = log s ++ events ∧
        List.Forall₂ (Announces e.config.eventAction)
          ((e.reconcile.run s).1.filter fun o => o.status ≠ .disabled ∧ o.status ≠ .healthy) events :=
  ⟨components_of_turns e e.components s, _, turns_logged h.publish (fun _ hc => h.still hc) s,
    forall₂_announces e.config.eventAction _⟩

end Engine

/-! ## Rehearsals -/

namespace Rehearsal.StandIn
variable (s : StandIn) (duty : Duty) (c : Component World)

theorem attend_spares : (s.attend duty c).Spares World.events := by
  intro w
  unfold attend
  rw [ExceptT.run_mk]
  dsimp only
  cases s.lapses.find? fun l => l.isAbout duty c.name (w.timesAsked s.number duty c.name) <;> rfl

variable {c} in
/-- A stand-in publishes nothing; only hooks could. -/
theorem spares (hooks : ∀ phase, (c.runHook phase World.client).Spares World.events) :
    s.toReconciler.Spares World.events c where
  observe := (s.attend_spares _ c).bind fun _ _ => rfl
  install := (s.attend_spares _ c).bind fun _ _ => rfl
  update := s.attend_spares _ c
  uninstall := (s.attend_spares _ c).bind fun _ _ => rfl
  preInstall := (s.attend_spares _ c).bind fun _ => hooks _
  preUpdate := (s.attend_spares _ c).bind fun _ => hooks _
  preUninstall := (s.attend_spares _ c).bind fun _ => hooks _

end Rehearsal.StandIn

namespace Sample
open Rehearsal

/-- It fails to install what it is asked to install for the first time. -/
def clumsy : StandIn where
  number := 0
  kinds := .ofList ["Page"]
  lapses := [{ duty := .install, after := some 0, error := .internal "no room left" "room" }]

def page (kind : ComponentKind) (enabled : Bool) : Component World := { name := "Site", kind, enabled }

/-- Five components of one name, one of them of a kind that nothing is registered for, the last two unwanted. -/
def stage : Engine World where
  config := {}
  components := [page "Page" true, page "Mail" true, page "Page" true, page "Page" false, page "Page" false]
  reconcilers := [clumsy.toReconciler]
  publish := World.publish

theorem stage_logs : stage.Logs World.events where
  publish _ _ := rfl
  reconcilers := by
    intro r hr c hc
    obtain rfl := List.mem_singleton.1 hr
    have hookless : c.hooks = {} := by
      simp only [stage, List.mem_cons, List.not_mem_nil, or_false] at hc
      obtain rfl | rfl | rfl | rfl | rfl := hc <;> rfl
    refine clumsy.spares fun phase => ?_
    unfold Component.runHook
    rw [hookless]
    cases phase <;> exact fun _ => rfl
  components := by
    intro c hc
    simp only [stage, List.mem_cons, List.not_mem_nil, or_false] at hc
    obtain rfl | rfl | rfl | rfl | rfl := hc <;> exact fun _ => rfl

/-- Of five outcomes four are news. -/
theorem reconcile_announces_stage :
    stage.Logs World.events ∧
      (stage.reconcile.run {}).1.map (·.status) =
        [.installFailed, .reconcilerNotFound, .installed, .uninstalled, .disabled] ∧
      (stage.reconcile.run {}).1.map (·.component) = stage.components ∧
      ∃ events, (stage.reconcile.run {}).2.events = [] ++ events ∧
        List.Forall₂ (Announces "Reconcile")
          ((stage.reconcile.run {}).1.filter fun o => o.status ≠ .disabled ∧ o.status ≠ .healthy) events :=
  ⟨stage_logs, by decide +kernel, Engine.reconcile_announces stage_logs {}⟩

end Sample

end Converge
