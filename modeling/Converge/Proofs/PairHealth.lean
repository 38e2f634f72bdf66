import Converge.Proofs.Presence
import Converge.Proofs.Rediscovery

/-!
# The health of a pair of Flux objects

* `Status.FirstReady`, `Status.Behind`, `Item.ReportedReady` : what the controllers report of an item; `Item.isReady_iff`.
* `Item.Excuse` : why an item that is not ready is not, by what is reported.
* `Health.Says` : a verdict with its lines; `Says.and`: both verdicts together say the lines of both.
* `Store.Explains` : the lines that explain what is wrong with one half of a pair, none if it is there and ready.
* `FluxReconciler.observe_pair`: what is seen of a pair.
-/

namespace Converge

set_option autoImplicit false

namespace Flux

/-! ## What is reported -/

namespace Status

/-- The first of the reported conditions of type `Ready`. -/
def FirstReady (s : Status) (c : ReportedCondition) : Prop :=
  ∃ before after, s.conditions = some (before ++ c :: after) ∧ c.type = "Ready" ∧ ∀ d ∈ before, d.type ≠ "Ready"

/-- The controllers have only acted on an earlier generation. -/
def Behind (s : Status) (generation : Option Int) : Prop :=
  ∃ observed current, s.observedGeneration = some observed ∧ generation = some current ∧ observed < current

variable {s : Status} {c : ReportedCondition}

theorem ready?_eq_some : s.ready? = some c ↔ s.FirstReady c := by
  unfold ready? FirstReady
  cases s.conditions with
  | none => simp
  | some cs =>
    rw [Option.getD_some, List.find?_eq_some_iff_append]
    constructor
    · rintro ⟨hc, before, after, rfl, hbefore⟩
      exact ⟨before, after, rfl, by simpa using hc, fun d hd => by simpa using hbefore d hd⟩
    · rintro ⟨before, after, hcs, hc, hbefore⟩
      exact ⟨by simpa using hc, before, after, Option.some.inj hcs, fun d hd => by simpa using hbefore d hd⟩

theorem hasObserved_eq_false {generation : Option Int} : s.hasObserved generation = false ↔ s.Behind generation := by
  unfold hasObserved Behind
  cases s.observedGeneration with
  | none => simp
  | some observed =>
    cases generation with
    | none => simp
    | some current => simp

end Status

namespace Item

variable {k : Kind} {i : Item k}

/-- The first `Ready` condition holds, and not only of an earlier generation. -/
def ReportedReady (i : Item k) : Prop :=
  ∃ s c, i.status = some s ∧ s.FirstReady c ∧ c.status = "True" ∧ ¬ s.Behind i.metadata.generation

theorem isReady_iff : i.isReady = true ↔ i.ReportedReady := by
  unfold isReady ReportedReady
  cases i.status with
  | none => simp
  | some s =>
    have hobserved : s.hasObserved i.metadata.generation = true ↔ ¬ s.Behind i.metadata.generation := by
      rw [← Status.hasObserved_eq_false, Bool.not_eq_false]
    unfold Status.isReadyFor
    rw [Bool.and_eq_true, hobserved]
    cases hready : s.ready? with
    | none =>
      refine ⟨fun h => absurd h.1 Bool.false_ne_true, ?_⟩
      rintro ⟨_, c, ⟨⟩, first, -⟩
      cases hready.symm.trans (Status.ready?_eq_some.2 first)
    | some c =>
      dsimp only
      rw [beq_iff_eq]
      constructor
      · rintro ⟨hc, current⟩
        exact ⟨s, c, rfl, Status.ready?_eq_some.1 hready, hc, current⟩
      · rintro ⟨_, c', ⟨⟩, first, hc, current⟩
        obtain rfl : c = c' := Option.some.inj (hready.symm.trans (Status.ready?_eq_some.2 first))
        exact ⟨hc, current⟩

/-- Why an item that is not ready is not: for an earlier generation only, or as the first `Ready` condition says, if it says
anything. -/
inductive Excuse (i : Item k) : String → Prop
  | stale {s c observed current} (reported : i.status = some s) (first : s.FirstReady c) (holds : c.status = "True")
    (acted : s.observedGeneration = some observed) (generation : i.metadata.generation = some current)
    (behind : observed < current) : Excuse i ("generation " ++ toString current ++ " not yet observed")
  | told {s c} (reported : i.status = some s) (first : s.FirstReady c) (fails : c.status ≠ "True") (words : c.message ≠ "") :
    Excuse i c.message
  | silent {s c} (reported : i.status = some s) (first : s.FirstReady c) (fails : c.status ≠ "True") (mute : c.message = "") :
    Excuse i "no Ready condition reported"
  | unreported (none : ∀ s c, i.status = some s → ¬ s.FirstReady c) : Excuse i "no Ready condition reported"

theorem excuse_complaint (h : ¬ i.ReportedReady) : i.Excuse i.complaint := by
  unfold complaint
  cases hstatus : i.status with
  | none => exact .unreported fun s c hs => nomatch hstatus.symm.trans hs
  | some s =>
    rw [Option.bind_some]
    cases hready : s.ready? with
    | none =>
      refine .unreported fun s' c hs first => ?_
      obtain rfl := Option.some.inj (hstatus.symm.trans hs)
      cases hready.symm.trans (Status.ready?_eq_some.2 first)
    | some c =>
      have first := Status.ready?_eq_some.1 hready
      dsimp only
      by_cases hc : c.status = "True"
      · -- The condition holds, so it must be of an earlier generation: there is a generation to name.
        have behind : s.Behind i.metadata.generation := by
          by_contra current
          exact h ⟨s, c, hstatus, first, hc, current⟩
        obtain ⟨observed, current, acted, generation, lt⟩ := behind
        rw [if_pos hc, generation, Option.getD_some]
        exact .stale hstatus first hc acted generation lt
      · rw [if_neg hc]
        by_cases hm : c.message = ""
        · rw [if_pos (by simp [hm])]
          exact .silent hstatus first hc hm
        · rw [if_neg (by simpa using hm)]
          exact .told hstatus first hc hm

/-- The excuse of an item whose first `Ready` condition holds names its generation. -/
theorem Excuse.of_first {reason : String} {s : Status} {c : ReportedCondition} (h : i.Excuse reason) (reported : i.status = some s)
    (first : s.FirstReady c) (holds : c.status = "True") :
    ∃ n, i.metadata.generation = some n ∧ reason = "generation " ++ toString n ++ " not yet observed" := by
  have same : ∀ {s' c'}, i.status = some s' → s'.FirstReady c' → c' = c := by
    intro s' c' reported' first'
    obtain rfl := Option.some.inj (reported.symm.trans reported')
    exact Option.some.inj ((Status.ready?_eq_some.2 first').symm.trans (Status.ready?_eq_some.2 first))
  cases h with
  | stale _ _ _ _ generation => exact ⟨_, generation, rfl⟩
  | told reported' first' fails => exact absurd (same reported' first' ▸ holds) fails
  | silent reported' first' fails => exact absurd (same reported' first' ▸ holds) fails
  | unreported none => exact absurd first (none s c reported)

end Item

end Flux

open Flux

/-! ## Verdicts -/

/-- A verdict, and the lines that say what is wrong. -/
inductive Health.Says : Health → List String → Prop
  | nothing : Says .good []
  | line {text : String} (h : text ≠ "") : Says (.bad text) [text]

/-- Both verdicts together say the lines of both, and something if anything is wrong. -/
theorem Health.Says.and {a b : Health} {as bs : List String} (ha : a.Says as) (hb : b.Says bs) :
    (a.and b).message = "\n".intercalate (as ++ bs) ∧ ((a.and b).healthy = true ↔ as ++ bs = []) ∧
      ((a.and b).message = "" ↔ as ++ bs = []) := by
  cases ha with
  | nothing =>
    cases hb with
    | nothing => simp [Health.and, Health.good]
    | line hb => simp [Health.and, Health.good, Health.bad, hb]
  | line ha =>
    cases hb with
    | nothing => simp [Health.and, Health.good, Health.bad, ha]
    | line hb => simp [Health.and, Health.bad, ha, hb]

/-! ## One half -/

namespace Store
variable {s : Store} {m : Manifest}

/-- The item under the key of a manifest, of its kind. -/
def Holds (s : Store) (m : Manifest) (i : Item m.kind) : Prop :=
  s.Serves m.resource ∧ ∃ o, s.stored m.resource m.key = some o ∧ Item.ofObject m.kind o = .ok i

/-- The half is there, and reported ready. -/
def ShowsReady (s : Store) (m : Manifest) : Prop := ∃ i, s.Holds m i ∧ i.ReportedReady

/-- The lines that explain what is wrong with one half of a pair. -/
inductive Explains (s : Store) (m : Manifest) : List String → Prop
  | absent (hidden : ¬ s.Shows m.storeKey) : Explains s m [m.resource.kind ++ " " ++ m.key.text ++ " not found"]
  | ready {i} (holds : s.Holds m i) (ready : i.ReportedReady) : Explains s m []
  | unready {i reason} (holds : s.Holds m i) (unready : ¬ i.ReportedReady) (excuse : i.Excuse reason) :
    Explains s m [m.resource.kind ++ " " ++ i.key.text ++ " is not ready: " ++ reason]

theorem Holds.unique {i j : Item m.kind} (hi : s.Holds m i) (hj : s.Holds m j) : i = j := by
  obtain ⟨-, o, there, loads⟩ := hi
  obtain ⟨-, o', there', loads'⟩ := hj
  obtain rfl := Option.some.inj (there.symm.trans there')
  exact Except.ok.inj (loads.symm.trans loads')

theorem Holds.shows {i : Item m.kind} (h : s.Holds m i) : s.Shows m.storeKey := by
  obtain ⟨served, o, there, -⟩ := h
  exact ⟨served, Store.has_iff.2 ⟨o, there⟩⟩

/-- Nothing is explained of a half that is there and ready, and of no other. -/
theorem Explains.eq_nil_iff {lines : List String} (h : s.Explains m lines) : lines = [] ↔ s.ShowsReady m := by
  cases h with
  | absent hidden => exact ⟨nofun, fun ⟨_, holds, _⟩ => absurd holds.shows hidden⟩
  | ready holds ready => exact ⟨fun _ => ⟨_, holds, ready⟩, fun _ => rfl⟩
  | unready holds fails => exact ⟨nofun, fun ⟨_, holds', holding⟩ => absurd (holds'.unique holds ▸ holding) fails⟩

end Store

theorem Flux.Kind.name_eq (k : Kind) : k.name = k.resource.kind := by
  cases k <;> rfl

namespace FluxReconciler

variable {r : FluxReconciler Store} {c : Component Store} {source deployment : Manifest} {s : Store}

/-- What is seen of one half. -/
theorem run_observeHalf_explains (m : Manifest) (loadable : s.Shows m.storeKey → s.Loads m.kind m.key) :
    ∃ shown health lines, (observeHalf Store.client m).run s = (.ok (shown, health), s) ∧
      (shown = true ↔ s.Shows m.storeKey) ∧ health.Says lines ∧ s.Explains m lines := by
  by_cases shown : s.Shows m.storeKey
  case neg =>
    refine ⟨_, _, _, run_observeHalf_unshown shown, ⟨nofun, fun h => absurd h shown⟩, .line ?_, .absent shown⟩
    simp
  obtain ⟨served, o, i, there, loads⟩ := loadable shown
  have holds : s.Holds m i := ⟨served, o, there, loads⟩
  have run := run_observeHalf_shown served there loads
  by_cases ready : i.ReportedReady
  · have hgood : i.health = .good := if_pos (Item.isReady_iff.2 ready)
    rw [hgood] at run
    exact ⟨_, _, _, run, ⟨fun _ => shown, fun _ => rfl⟩, .nothing, .ready holds ready⟩
  · have hbad : i.health = .bad (m.resource.kind ++ " " ++ i.key.text ++ " is not ready: " ++ i.complaint) := by
      unfold Item.health
      rw [if_neg (fun h => ready (Item.isReady_iff.1 h)), Kind.name_eq]
      rfl
    rw [hbad] at run
    refine ⟨_, _, _, run, ⟨fun _ => shown, fun _ => rfl⟩, .line ?_, .unready holds ready (Item.excuse_complaint ready)⟩
    simp

/-! ## Both halves -/

/-- What is seen of a pair, with the lines that explain each half. -/
structure Sees (s : Store) (source deployment : Manifest) (seen : Observation) (as bs : List String) : Prop where
  present : seen.present = true ↔ s.Shows source.storeKey ∨ s.Shows deployment.storeKey
  healthy : seen.health.healthy = true ↔ s.ShowsReady source ∧ s.ShowsReady deployment
  source : s.Explains source as
  deployment : s.Explains deployment bs
  message : seen.health.message = "\n".intercalate (as ++ bs)
  silent : seen.health.message = "" ↔ seen.health.healthy = true

/-- What the item under the key of a manifest shows of its object: the excuse names its generation if its first `Ready` condition
holds. That is the generation of the object, and the key is the one that the object is filed under, unless a member of the data is
named as the metadata are. -/
structure Shown (m : Manifest) (o : Object) (i : Item m.kind) : Prop where
  stale : ∀ status condition reason, i.status = some status → status.FirstReady condition → condition.status = "True" →
    i.Excuse reason → ∃ n, i.metadata.generation = some n ∧ reason = "generation " ++ toString n ++ " not yet observed"
  generation : o.Parted → i.metadata.generation = o.metadata.generation
  key : o.Parted → o.key = .ok m.key → i.key = m.key

/-- **The health of a pair**, from every store whose halves can be loaded: looking succeeds, it is healthy if both halves are there
and reported ready, and otherwise the message explains the halves that are not, the source first. -/
theorem observe_pair (hr : r.client = Store.client) (hpair : pair c = .ok (source, deployment))
    (loadable : ∀ m ∈ [source, deployment], s.Shows m.storeKey → s.Loads m.kind m.key) :
    (∃ seen as bs, (r.observe c).run s = (.ok seen, s) ∧ Sees s source deployment seen as bs) ∧
    ∀ m ∈ [source, deployment], ∀ o i, s.stored m.resource m.key = some o → Item.ofObject m.kind o = .ok i → Shown m o i := by
  refine ⟨?_, fun m _ o i _ loads => ⟨fun _ _ _ reported first holds excuse => excuse.of_first reported first holds,
    fun parted => (Item.shown_of_ofObject loads parted).2.2, fun parted => Item.key_of_ofObject loads parted⟩⟩
  obtain ⟨a, x, as, ha, hshown, hsays, hexplains⟩ := run_observeHalf_explains source (loadable source (by simp))
  obtain ⟨b, y, bs, hb, hshown', hsays', hexplains'⟩ := run_observeHalf_explains deployment (loadable deployment (by simp))
  obtain ⟨hmessage, hhealthy, hsilent⟩ := hsays.and hsays'
  refine ⟨_, as, bs, run_observe_of_halves hr hpair ha hb, ?_⟩
  constructor
  case present =>
    show (a || b) = true ↔ _
    rw [Bool.or_eq_true, hshown, hshown']
  case healthy =>
    rw [← hexplains.eq_nil_iff, ← hexplains'.eq_nil_iff, ← List.append_eq_nil_iff]
    exact hhealthy
  case source => exact hexplains
  case deployment => exact hexplains'
  case message => exact hmessage
  case silent => exact hsilent.trans hhealthy.symm

end FluxReconciler

/-! ## A sample: a repository that is ready for what it was -/

namespace Sample

def outdated : Object where
  types := some ⟨Kind.gitRepository.resource.apiVersion, Kind.gitRepository.resource.kind⟩
  metadata := { name := some "web", ns? := some "apps", generation := some 3 }
  data := .object [
    ("spec", .object [("url", .string "https://git.example/web")]),
    ("status", .object [
      ("conditions", .array [.object [("lastTransitionTime", .string "2024-01-01T00:00:00Z"), ("status", .string "True"),
        ("type", .string "Ready")]]),
      ("observedGeneration", .int 2)])]

/-- A cluster with the repository, and nothing deployed from it. -/
def behindhand : Store where
  objects := .ofList [(repository.resource.storeKey repository.key, outdated)]

theorem behindhand_loadable : ∀ m ∈ [repository, deployed], behindhand.Shows m.storeKey → behindhand.Loads m.kind m.key := by
  have hloads : ∃ i, Item.ofObject .gitRepository outdated = .ok i := by
    have hok : (Item.ofObject .gitRepository outdated).isOk = true := by decide +kernel
    cases h : Item.ofObject .gitRepository outdated with
    | ok i => exact ⟨i, rfl⟩
    | error e =>
      rw [h] at hok
      cases hok
  have habsent : ¬ behindhand.Has deployed.storeKey := by decide +kernel
  intro m hm shown
  rcases List.mem_pair.1 hm with rfl | rfl
  · exact ⟨shown.1, outdated, hloads.choose, SortedMap.get?_insert_self .., hloads.choose_spec⟩
  · exact absurd shown.2 habsent

/-- The repository shows what it is, and nothing but its generation excuses it. -/
theorem observe_pair_behindhand :
    (∃ seen as bs, (flux.observe webPair).run behindhand = (.ok seen, behindhand) ∧
      FluxReconciler.Sees behindhand repository deployed seen as bs) ∧
    ∃ i, Item.ofObject .gitRepository outdated = .ok i ∧ i.metadata.generation = some 3 ∧ i.key = repository.key ∧
      ∀ reason, i.Excuse reason → reason = "generation 3 not yet observed" := by
  obtain ⟨sees, shows⟩ := FluxReconciler.observe_pair (r := flux) (c := webPair) rfl rfl behindhand_loadable
  refine ⟨sees, ?_⟩
  have there : behindhand.stored repository.resource repository.key = some outdated := SortedMap.get?_insert_self ..
  have hready : (Item.ofObject .gitRepository outdated).map (fun i => (i.status.bind (·.conditions)).map (·.map fun c =>
      (c.type, c.status))) = .ok (some [("Ready", "True")]) := by decide +kernel
  cases loads : Item.ofObject .gitRepository outdated with
  | error x =>
    rw [loads] at hready
    cases hready
  | ok i =>
    have shown := shows repository (List.mem_cons_self ..) outdated i there loads
    have generation : i.metadata.generation = some 3 := shown.generation rfl
    refine ⟨i, rfl, generation, shown.key rfl rfl, fun reason excuse => ?_⟩
    rw [loads] at hready
    have hready := Except.ok.inj hready
    obtain ⟨cs, hcs, hmap⟩ := Option.map_eq_some_iff.1 hready
    obtain ⟨status, hstatus, hconditions⟩ := Option.bind_eq_some_iff.1 hcs
    obtain ⟨c, rest, rfl, hc, hrest⟩ := List.map_eq_cons_iff.1 hmap
    obtain ⟨htype, hholds⟩ := Prod.mk.inj hc
    obtain rfl := List.map_eq_nil_iff.1 hrest
    obtain ⟨n, hn, rfl⟩ := shown.stale status c reason hstatus ⟨[], [], hconditions, htype, fun d hd => nomatch hd⟩ hholds excuse
    obtain rfl := Option.some.inj (generation.symm.trans hn)
    rfl

example : ((flux.observe webPair).run behindhand).1.map (·.health.message) =
    .ok "GitRepository apps/web is not ready: generation 3 not yet observed\nKustomization apps/web not found" := by
  decide +kernel

end Sample

end Converge
