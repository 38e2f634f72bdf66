import Converge.Proofs.Filing
import Converge.Proofs.Selectors
import Converge.Proofs.Sweeps
import Mathlib.Data.List.Basic
import Mathlib.Data.List.Induction

/-!
# Orphans are what is there and not configured

* `Claims` : kinds that are claimed one after the other, each with or without a detector; `Claims.watch?` : the detector that a
  kind has in the end. `claiming_eq_watching`: what a reconciler makes of such claims.
* `Watch.Strays` : an object is of the type and in the namespace of a detector, carries the labels that it goes by, and is no
  configured component of the kind. `Claims.strays` : the orphans that such objects are, by kinds and then by keys.
* `detect_eq_strays`: in a store whose objects are filed under their own keys, detection finds exactly these.
-/

namespace Converge

set_option autoImplicit false

/-! ## Claims -/

/-- Kinds that are claimed one after the other, each with or without a detector. -/
abbrev Claims : Type := List (ComponentKind × Option Watch)

namespace Claims

/-- The detector of a kind: the last one that it was claimed with. -/
def watch? (claims : Claims) (kind : ComponentKind) : Option Watch :=
  (claims.filterMap fun e => if e.1 = kind then e.2 else none).getLast?

/-- The claimed kinds in ascending order. -/
def kinds (claims : Claims) : List ComponentKind := (SortedSet.ofList (claims.map (·.1))).keys

/-- Another claim: a detector takes the place of an earlier one, which a claim without one leaves as it is. -/
def note (ws : Watches) : ComponentKind × Option Watch → Watches
  | (kind, none) => if ws.contains kind then ws else ws.insert kind none
  | (kind, some w) => ws.insert kind (some w)

/-- What the claims come to. -/
def watches (claims : Claims) : Watches := claims.foldl note .empty

theorem watch?_snoc (claims : Claims) (e : ComponentKind × Option Watch) (kind : ComponentKind) :
    (claims ++ [e]).watch? kind = (if e.1 = kind then e.2 else none).or (claims.watch? kind) := by
  unfold watch?
  rw [List.filterMap_append, List.getLast?_append]
  congr 1
  by_cases h : e.1 = kind
  · rw [if_pos h, List.filterMap_cons]
    cases e.2 <;> simp [h]
  · simp [h]

theorem mem_of_watch? {claims : Claims} {kind : ComponentKind} {w : Watch} (h : claims.watch? kind = some w) :
    (kind, some w) ∈ claims := by
  obtain ⟨⟨k, w?⟩, he, hw⟩ := List.mem_filterMap.mp (List.mem_of_getLast? h)
  split at hw
  · rename_i hk
    exact hk ▸ hw ▸ he
  · cases hw

theorem watches_snoc (claims : Claims) (e : ComponentKind × Option Watch) : (claims ++ [e]).watches = note claims.watches e := by
  unfold watches
  rw [List.foldl_append]
  rfl

theorem get?_note (ws : Watches) (e : ComponentKind × Option Watch) (kind : ComponentKind) :
    (note ws e).get? kind = if e.1 = kind then some (e.2.or ((ws.get? kind).getD none)) else ws.get? kind := by
  obtain ⟨k, w | w⟩ := e
  · change (if ws.contains k = true then ws else ws.insert k none).get? kind = _
    by_cases h : k = kind
    · subst h
      unfold SortedMap.contains
      cases there : ws.get? k <;> simp [there]
    · rw [if_neg h]
      split
      · rfl
      · exact SortedMap.get?_insert_of_ne _ (Ne.symm h) _
  · change (ws.insert k (some w)).get? kind = _
    by_cases h : k = kind
    · rw [if_pos h, ← h, SortedMap.get?_insert_self, Option.some_or]
    · rw [if_neg h, SortedMap.get?_insert_of_ne _ (Ne.symm h)]

/-- Every claimed kind has the last detector that it was claimed with. -/
theorem get?_watches (claims : Claims) (kind : ComponentKind) :
    claims.watches.get? kind = if kind ∈ claims.map (·.1) then some (claims.watch? kind) else none := by
  induction claims using List.reverseRecOn with
  | nil => rfl
  | append_singleton claims e ih =>
    rw [watches_snoc, get?_note, watch?_snoc, ih]
    by_cases h : e.1 = kind
    · by_cases before : kind ∈ claims.map (·.1)
      · simp [h, before]
      · have unclaimed : watch? claims kind = none := by
          unfold watch?
          rw [List.getLast?_eq_none_iff, List.filterMap_eq_nil_iff]
          intro e' he'
          exact if_neg fun hk : e'.1 = kind => before (hk ▸ List.mem_map_of_mem he')
        simp [h, before, unclaimed]
    · have same : kind ∈ (claims ++ [e]).map (·.1) ↔ kind ∈ claims.map (·.1) := by
        rw [List.map_append, List.mem_append, List.map_singleton, List.mem_singleton]
        exact or_iff_left (Ne.symm h)
      simp only [h, if_false, Option.none_or, same]

theorem entries_watches (claims : Claims) : claims.watches.entries = claims.kinds.map fun kind => (kind, claims.watch? kind) := by
  have same : SortedSet.ofList (claims.map (·.1)) = claims.watches.map fun _ => () := by
    refine SortedMap.ext_get? fun kind => ?_
    rw [SortedSet.get?_ofList, SortedMap.get?_map, get?_watches]
    split <;> rfl
  have keys : claims.kinds = claims.watches.entries.map (·.1) := by
    unfold kinds
    rw [same]
    unfold SortedMap.keys SortedMap.map
    rw [List.map_map]
    rfl
  have last : ∀ e ∈ claims.watches.entries, (e.1, claims.watch? e.1) = e := by
    intro e he
    have hget := (claims.watches.mem_entries_iff e.1 e.2).mp he
    rw [get?_watches] at hget
    split at hget
    · rw [Option.some.inj hget]
    · cases hget
  rw [keys, List.map_map]
  exact (List.map_id _).symm.trans (List.map_congr_left fun e he => (last e he).symm)

theorem mem_of_mem_watches {claims : Claims} {kind : ComponentKind} {w : Watch} (h : (kind, some w) ∈ claims.watches.entries) :
    (kind, some w) ∈ claims := by
  rw [entries_watches] at h
  obtain ⟨_, -, he⟩ := List.mem_map.mp h
  obtain ⟨rfl, hw⟩ := Prod.mk.inj he
  exact mem_of_watch? hw

end Claims

namespace ObjectReconciler

/-- Another claim of a reconciler. -/
def claim (r : ObjectReconciler Store) : ComponentKind × Option Watch → ObjectReconciler Store
  | (kind, none) => r.withKind kind
  | (kind, some w) => r.withDetector kind w.detector

/-- A reconciler on a store, after these claims. -/
def claiming (config : Config) (claims : Claims) : ObjectReconciler Store := claims.foldl claim ⟨Store.client, config, .empty⟩

theorem claim_watching (config : Config) (ws : Watches) (e : ComponentKind × Option Watch) :
    (watching config ws).claim e = watching config (Claims.note ws e) := by
  obtain ⟨kind, w | w⟩ := e
  · change (if (watching config ws).kinds.contains kind = true then watching config ws else
      { watching config ws with kinds := (watching config ws).kinds.insert kind none }) =
        watching config (if ws.contains kind = true then ws else ws.insert kind none)
    rw [watching_contains]
    split
    · rfl
    · unfold watching
      rw [SortedMap.map_insert]
      rfl
  · change { watching config ws with kinds := (watching config ws).kinds.insert kind (some w.detector) } =
      watching config (ws.insert kind (some w))
    unfold watching
    rw [SortedMap.map_insert]
    rfl

/-- Claims one after the other come to the last detector of each kind. -/
theorem claiming_eq_watching (config : Config) (claims : Claims) : claiming config claims = watching config claims.watches := by
  have from_ : ∀ ws, claims.foldl claim (watching config ws) = watching config (claims.foldl Claims.note ws) := by
    induction claims with
    | nil => exact fun _ => rfl
    | cons e claims ih =>
      intro ws
      rw [List.foldl_cons, List.foldl_cons, claim_watching, ih]
  exact from_ .empty

end ObjectReconciler

/-! ## Orphans -/

instance {σ : Type} (c : Component σ) (k : StoreKey) : Decidable (c.Names k) :=
  decidable_of_iff (c.identity?.map ObjectIdentity.storeKey = some k) (by
    unfold Component.Names
    rw [Option.map_eq_some_iff])

instance (config : Config) (kind : ComponentKind) (o : Object) : Decidable (Ownership.Marks config kind o) :=
  decidable_of_iff (o.label? managedByLabel = some config.managedBy ∧ (o.label? config.componentLabel).isSome = true ∧
    o.label? config.kindLabel = some kind) (by
      rw [Option.isSome_iff_exists]
      exact ⟨fun ⟨hm, hn, hk⟩ => ⟨hm, hn, hk⟩, fun ⟨hm, hn, hk⟩ => ⟨hm, hn, hk⟩⟩)

namespace Watch
variable {σ : Type}

/-- The object of a key is of the type and in the namespace of the detector, carries the labels that it goes by, and is not
that of a configured component of the kind. -/
structure Strays (w : Watch) (kind : ComponentKind) (configured : List (Component σ)) (k : StoreKey) (o : Object) : Prop where
  apiVersion : k.apiVersion = w.resource.apiVersion
  type : k.kind = w.resource.kind
  ns? : w.ns? = none ∨ k.key.ns? = w.ns?
  marks : Ownership.Marks w.config w.kind o
  unowned : ∀ c ∈ configured, c.kind = kind → ¬ c.Names k

instance (w : Watch) (kind : ComponentKind) (configured : List (Component σ)) (k : StoreKey) (o : Object) :
    Decidable (w.Strays kind configured k o) :=
  decidable_of_iff (k.apiVersion = w.resource.apiVersion ∧ k.kind = w.resource.kind ∧ (w.ns? = none ∨ k.key.ns? = w.ns?) ∧
    Ownership.Marks w.config w.kind o ∧ ∀ c ∈ configured, c.kind = kind → ¬ c.Names k)
    ⟨fun ⟨h₁, h₂, h₃, h₄, h₅⟩ => ⟨h₁, h₂, h₃, h₄, h₅⟩, fun ⟨h₁, h₂, h₃, h₄, h₅⟩ => ⟨h₁, h₂, h₃, h₄, h₅⟩⟩

/-- The orphan that a stored object is: it is named by its component label and owns the object of the key. -/
def stray? (w : Watch) (kind : ComponentKind) (configured : List (Component σ)) (e : StoreKey × Object) : Option Orphan :=
  if w.Strays kind configured e.1 e.2 then
    (e.2.label? w.config.componentLabel).map fun name => ⟨name, w.kind, ⟨w.resource, e.1.key⟩⟩
  else none

/-- The orphans in a store, by their keys; a type that is not served has none. -/
def strays (w : Watch) (kind : ComponentKind) (configured : List (Component σ)) (s : Store) : List Orphan :=
  if s.Serves w.resource then s.objects.entries.filterMap (w.stray? kind configured) else []

section
variable {w : Watch} {kind : ComponentKind} {configured : List (Component σ)} {k : StoreKey} {o : Object}
  (h : w.config.Reads w.kind)
include h

theorem strays_iff : w.Strays kind configured k o ↔
    Store.matching w.resource w.options (k, o) = true ∧ ∀ c ∈ configured, c.kind = kind → ¬ c.Names k := by
  rw [matching_iff, Ownership.selects_kindSelector_iff h]
  exact ⟨fun ⟨apiVersion, type, ns?, marks, unowned⟩ => ⟨⟨apiVersion, type, ns?, marks⟩, unowned⟩,
    fun ⟨⟨apiVersion, type, ns?, marks⟩, unowned⟩ => ⟨apiVersion, type, ns?, marks, unowned⟩⟩

/-- What becomes of a stored object on its way through the detector. -/
theorem stray?_eq (named : o.key = .ok k.key) : w.stray? kind configured (k, o) =
    if Store.matching w.resource w.options (k, o) = true then
      (w.orphan o).toOption.filter fun x => !(configured.filter fun c => c.kind == kind).any fun c =>
        c.sameObject (Orphan.component x : Component σ)
    else none := by
  unfold stray?
  dsimp only
  by_cases hm : Store.matching w.resource w.options (k, o) = true
  · obtain ⟨apiVersion, type, -, selected⟩ := matching_iff.mp hm
    obtain ⟨name, hname⟩ := ((Ownership.selects_kindSelector_iff h o).mp selected).named
    have filed : w.resource.storeKey k.key = k := by
      unfold Resource.storeKey
      rw [← apiVersion, ← type]
    rw [if_pos hm, orphan_eq_ok.mpr ⟨k.key, named, rfl⟩, hname, Option.map_some]
    change _ = (some _).filter _
    by_cases unowned : ∀ c ∈ configured, c.kind = kind → ¬ c.Names k
    · rw [if_pos ((strays_iff h).mpr ⟨hm, unowned⟩), Option.filter_some, if_pos]
      · rfl
      · exact unnamed_iff.mpr (filed.symm ▸ unowned)
    · rw [if_neg fun hs => unowned ((strays_iff h).mp hs).2, Option.filter_some, if_neg]
      exact fun hf => unowned (filed ▸ unnamed_iff.mp hf)
  · rw [if_neg hm, if_neg fun hs => hm ((strays_iff h).mp hs).1]

/-- What is left over of the candidates is what strays. -/
theorem leftOver_eq_strays {s : Store} (filed : s.Filed) : w.leftOver kind configured s = w.strays kind configured s := by
  unfold leftOver candidates listed strays
  split
  · rw [List.filterMap_map, List.filter_filterMap, List.filterMap_filter]
    refine List.filterMap_congr fun e he => ?_
    rw [stray?_eq h (filed e.1 e.2 ((s.objects.mem_entries_iff ..).mp he))]
    rfl
  · rfl

end

theorem mem_strays {w : Watch} {kind : ComponentKind} {configured : List (Component σ)} {s : Store} {x : Orphan} :
    x ∈ w.strays kind configured s ↔ s.Serves w.resource ∧ x.kind = w.kind ∧ x.identity.resource = w.resource ∧
      ∃ o, s.objects.get? x.identity.storeKey = some o ∧ w.Strays kind configured x.identity.storeKey o ∧
        o.label? w.config.componentLabel = some x.name := by
  unfold strays
  by_cases served : s.Serves w.resource
  case neg =>
    rw [if_neg served]
    exact ⟨nofun, fun h => absurd h.1 served⟩
  rw [if_pos served, List.mem_filterMap]
  constructor
  · rintro ⟨⟨k, o⟩, he, hx⟩
    unfold stray? at hx
    split at hx
    case isFalse => cases hx
    rename_i hs
    obtain ⟨name, hname, rfl⟩ := Option.map_eq_some_iff.mp hx
    have filed : w.resource.storeKey k.key = k := by
      unfold Resource.storeKey
      rw [← hs.apiVersion, ← hs.type]
    refine ⟨served, rfl, rfl, o, ?_⟩
    change s.objects.get? (w.resource.storeKey k.key) = _ ∧ w.Strays kind configured (w.resource.storeKey k.key) o ∧ _
    rw [filed]
    exact ⟨(s.objects.mem_entries_iff k o).mp he, hs, hname⟩
  · rintro ⟨-, hkind, hresource, o, ho, hs, hname⟩
    obtain ⟨name, _, resource, key⟩ := x
    cases hkind
    cases hresource
    refine ⟨(_, o), (s.objects.mem_entries_iff _ o).mpr ho, ?_⟩
    unfold stray?
    rw [if_pos hs, hname]
    rfl

end Watch

/-- Every object that detectors list in a store that is filed has a name. -/
theorem Store.Filed.readable {s : Store} (h : s.Filed) (kinds : List (ComponentKind × Option Watch)) : Readable kinds s := by
  intro kind w _ o ho
  unfold Watch.listed at ho
  split at ho
  · obtain ⟨e, he, rfl⟩ := List.mem_map.mp ho
    exact ⟨_, h e.1 e.2 ((s.objects.mem_entries_iff ..).mp (List.mem_filter.mp he).1)⟩
  · cases ho

/-- The orphans of the claimed kinds, the kinds in ascending order. -/
def Claims.strays {σ : Type} (claims : Claims) (configured : List (Component σ)) (s : Store) : List Orphan :=
  claims.kinds.flatMap fun kind => match claims.watch? kind with
    | some w => w.strays kind configured s
    | none => []

theorem Claims.found_watches {σ : Type} {claims : Claims} {s : Store} (filed : s.Filed)
    (legible : ∀ kind w, (kind, some w) ∈ claims → w.config.Legible ∧ Plain w.kind) (configured : List (Component σ)) :
    Watch.found configured s claims.watches.entries = claims.strays configured s := by
  unfold Watch.found strays
  rw [entries_watches, List.flatMap_map]
  congr 1
  funext kind
  cases hw : claims.watch? kind with
  | none => rfl
  | some w =>
    obtain ⟨h, hk⟩ := legible kind w (mem_of_watch? hw)
    exact Watch.leftOver_eq_strays (h.reads hk) filed

namespace ObjectReconciler

/-- One detector by itself finds what strays. -/
theorem run_detect_managedBy {config : Config} {looked : ComponentKind} (h : config.Reads looked) {s : Store} (filed : s.Filed)
    (kind : ComponentKind) (resource : Resource) (configured : List (Component Store)) :
    (detect Store.client configured [(kind, some (.managedBy config looked resource))]).run s =
      (.ok (((⟨config, looked, resource, none⟩ : Watch).strays kind configured s).map Orphan.component), s) := by
  change (detect Store.client configured (detectors [(kind, some ⟨config, looked, resource, none⟩)])).run s = _
  have found : ∀ w : Watch, Watch.found configured s [(kind, some w)] = w.leftOver kind configured s := by
    intro w
    unfold Watch.found
    rw [List.flatMap_singleton]
    rfl
  rw [run_detect (filed.readable _), found, Watch.leftOver_eq_strays (w := ⟨config, looked, resource, none⟩) h filed]

/-- **Orphans are what is there and not configured.** -/
theorem detect_eq_strays (config : Config) (claims : Claims) (configured : List (Component Store)) (s : Store)
    (legible : ∀ kind w, (kind, some w) ∈ claims → w.config.Legible ∧ Plain w.kind) (filed : s.Filed) :
    (detect (claiming config claims).client configured (claiming config claims).kinds.entries).run s =
      (.ok ((claims.strays configured s).map Orphan.component), s) := by
  rw [claiming_eq_watching]
  change (detect Store.client configured (detectors claims.watches.entries)).run s = _
  rw [run_detect (filed.readable _), Claims.found_watches filed legible]

end ObjectReconciler

/-! ## Samples -/

namespace Sample

def token : ObjectIdentity := ⟨secrets, ⟨some "apps", "token"⟩⟩

/-- A secret, labelled as of an old kind. -/
def old (i : ObjectIdentity) : Object := Ownership.stamp {} (component "Old" (.ok i)) i.shell

/-- The credentials and a token, both labelled as of an old kind; config maps are not served. -/
def shelf : Store where
  objects := .ofList [(creds.storeKey, old creds), (token.storeKey, old token)]
  unserved := ["ConfigMap"]

theorem built_shelf : shelf.Built :=
  .seeded (r := secrets) (o := old token) (.seeded (r := secrets) (o := old creds) (.empty ["ConfigMap"]) rfl) rfl

/-- The old kind with a detector, another one with a detector for config maps, and the old one again. -/
def claims : Claims :=
  [("Old", some ⟨{}, "Old", secrets, some "apps"⟩), ("New", some ⟨{}, "New", .ofGroup "" "v1" "ConfigMap" "configmaps", none⟩),
    ("Old", none)]

theorem legible : Config.Legible {} :=
  ⟨LabelText.plain (by decide +kernel), LabelText.plain (by decide +kernel), LabelText.plain (by decide +kernel), by decide⟩

theorem legible_claims : ∀ kind w, (kind, some w) ∈ claims → w.config.Legible ∧ Plain w.kind := by
  intro kind w hw
  simp only [claims, List.mem_cons, Prod.mk.injEq, Option.some.injEq, reduceCtorEq, and_false, List.not_mem_nil, or_false] at hw
  rcases hw with ⟨-, rfl⟩ | ⟨-, rfl⟩ <;> exact ⟨legible, by decide +kernel⟩

/-- A store of one object. -/
def holding (i : ObjectIdentity) (o : Object) : Store where
  objects := .ofList [(i.storeKey, o)]

theorem filed_holding {i : ObjectIdentity} {o : Object} (h : o.key = .ok i.key) : (holding i o).Filed :=
  (Store.Filed.empty []).insert (r := i.resource) h

/-- The credentials with the labels of the manager and the kind only. -/
def unlabelled : Object where
  metadata := { name := some "creds", ns? := some "apps"
                labels := some (.ofList [(managedByLabel, "juggler"), ("juggler.dev/component-kind", "Old")]) }

/-- The old kind with a detector that has no component label to go by. -/
def unlabelledClaims : Claims := [("Old", some ⟨{ componentLabel := "" }, "Old", secrets, none⟩)]

/-- A secret of the old kind after its name was taken away. -/
def unnamed (i : ObjectIdentity) : Object := { old i with metadata := { (old i).metadata with name := none } }

end Sample

namespace ObjectReconciler
open Sample

/-- Of the credentials and the token only the credentials are found when the token is configured. -/
theorem detect_eq_strays_shelf :
    (detect (claiming {} claims).client [component "Old" (.ok token)] (claiming {} claims).kinds.entries).run shelf =
      (.ok [Orphan.component ⟨"Creds", "Old", creds⟩], shelf) := by
  have strays : claims.strays [component "Old" (.ok token)] shelf = [⟨"Creds", "Old", creds⟩] := by decide +kernel
  have found := detect_eq_strays {} claims [component "Old" (.ok token)] shelf legible_claims built_shelf.filed
  rw [strays] at found
  exact found

/-- Without a component label, or of an object whose name was taken away, detection says something else. -/
theorem not_detect_eq_strays :
    (¬ ∀ (config : Config) (claims : Claims) (configured : List (Component Store)) (s : Store),
      (∀ kind w, (kind, some w) ∈ claims → LabelText w.config.managedBy ∧ LabelText w.config.componentLabel ∧
        LabelText w.config.kindLabel ∧ LabelText w.kind) → s.Filed →
      (detect (claiming config claims).client configured (claiming config claims).kinds.entries).run s =
        (.ok ((claims.strays configured s).map Orphan.component), s)) ∧
      ¬ ∀ (config : Config) (claims : Claims) (configured : List (Component Store)) (s : Store),
        (∀ kind w, (kind, some w) ∈ claims → w.config.Legible ∧ LabelText w.kind) →
        (detect (claiming config claims).client configured (claiming config claims).kinds.entries).run s =
          (.ok ((claims.strays configured s).map Orphan.component), s) := by
  constructor
  · intro all
    have texts : ∀ kind w, (kind, some w) ∈ unlabelledClaims → LabelText w.config.managedBy ∧
        LabelText w.config.componentLabel ∧ LabelText w.config.kindLabel ∧ LabelText w.kind := by
      intro kind w hw
      cases List.mem_singleton.mp hw
      decide +kernel
    have filed : (holding creds unlabelled).Filed := filed_holding rfl
    have found := congrArg (fun p => p.1.toOption.map List.length) (all {} unlabelledClaims [] _ texts filed)
    revert found
    decide +kernel
  · intro all
    have texts : ∀ kind w, (kind, some w) ∈ [("Old", some (⟨{}, "Old", secrets, none⟩ : Watch))] →
        w.config.Legible ∧ LabelText w.kind := by
      intro kind w hw
      cases List.mem_singleton.mp hw
      exact ⟨legible, by decide +kernel⟩
    have found := congrArg (fun p => p.1.toOption.map List.length) (all {} _ [] (holding creds (unnamed creds)) texts)
    revert found
    decide +kernel

end ObjectReconciler

end Converge
