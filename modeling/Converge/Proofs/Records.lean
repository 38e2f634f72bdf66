import Converge.Codec.Record
import Converge.Proofs.CodecLaws
import Converge.Proofs.Runs
import Mathlib.Data.List.Nodup
import Mathlib.Data.List.Pairwise

/-!
# Laws of records

What holds of every structure that is read and written by its members.

* `Field.Takes` says what an object with a value for a member, or without one, makes of it. `Record.read_object_iff`: reading
  an object is that, for every member on its own.
* `Record.get?_write`: every member is found in the written form. `Record.read_write_iff` puts both together.
* `Field.Lawful` : the laws of codecs, for one member. `Record.lawful`, `Record.injective`: a record obeys the laws if its
  members do.
-/

namespace Converge

set_option autoImplicit false

/-! ## Members -/

namespace Field

variable {σ β : Type}

instance : Std.Symm (@Apart σ) := ⟨fun _ _ h => ⟨h.right, h.left⟩⟩

/-- What an object with a value for the member, or without one, makes of it. -/
def Takes (f : Field σ) (found : Option Json) (before after : f.Part) : Prop :=
  match found with
  | none => after = before
  | some v => f.readPart v before = .ok after

theorem Takes.unique {f : Field σ} {found : Option Json} {p q q' : f.Part} (h : f.Takes found p q) (h' : f.Takes found p q') :
    q = q' := by
  cases found with
  | none => exact Eq.trans h (Eq.symm h')
  | some v => exact Except.ok.inj (Eq.trans (Eq.symm h) h')

theorem read_eq_ok {f : Field σ} {v : Json} {s t : σ} :
    f.read v s = .ok t ↔ ∃ p, f.readPart v (f.get s) = .ok p ∧ f.set p s = t := by
  unfold read
  cases h : f.readPart v (f.get s) with
  | ok p => exact ⟨fun h' => ⟨p, rfl, Except.ok.inj h'⟩, fun ⟨_, hp, ht⟩ => by cases hp; exact congrArg Except.ok ht⟩
  | error e => exact ⟨nofun, nofun⟩

theorem write_beq_of_get {f : Field σ} {s t : σ} (h : f.get s = f.get t) : (f.write s == f.write t) = true := by
  unfold write
  rw [h]
  exact BEq.rfl

/-- What is written for the member is read, in place of `blank`, as something that is written alike. -/
def Rereads (f : Field σ) (blank p : f.Part) : Prop := ∃ q, f.Takes (f.writePart p) blank q ∧ f.writePart q = f.writePart p

/-- What is written for the member is read, in place of `blank`, as it was. -/
def Kept (f : Field σ) (blank p : f.Part) : Prop := f.Takes (f.writePart p) blank p

/-- What was read from a written form is kept. -/
def Neat (f : Field σ) (blank : f.Part) : Prop := ∀ p q, f.Takes (f.writePart p) blank q → f.Kept blank q

/-- The laws of codecs, for a member that is `blank` unless it is read. -/
structure Lawful (f : Field σ) (blank : f.Part) : Prop where
  rereads_blank : f.Rereads blank blank
  rereads : ∀ {v p q}, f.Rereads blank p → f.readPart v p = .ok q → f.Rereads blank q
  congr : ∀ {v w p p' q}, (v == w) = true → (f.writePart p == f.writePart p') = true → f.readPart v p = .ok q →
    ∃ q', f.readPart w p' = .ok q' ∧ (f.writePart q == f.writePart q') = true
  written : f.needed = true → ∀ p, (f.writePart p).isSome = true

/-- Different values of the member are written differently. -/
def Injective (f : Field σ) : Prop := ∀ p q, (f.writePart p == f.writePart q) = true → p = q

/-- No value of the member has the very written form of another. -/
def Faithful (f : Field σ) : Prop := ∀ p q, f.writePart p = f.writePart q → p = q

theorem Injective.faithful {f : Field σ} (h : f.Injective) : f.Faithful :=
  fun p q hpq => h p q (by rw [hpq]; exact BEq.rfl)

end Field

namespace Record

variable {σ : Type} (r : Record σ)

theorem eq_of_key {f g : Field σ} (hf : f ∈ r.fields) (hg : g ∈ r.fields) (h : f.key = g.key) : f = g :=
  List.inj_on_of_nodup_map r.nodup_keys hf hg h

theorem apart_of_mem {f g : Field σ} (hf : f ∈ r.fields) (hg : g ∈ r.fields) (h : f.key ≠ g.key) : f.Apart g :=
  r.apart.forall hf hg fun he => h (congrArg Field.key he)

/-! ## Reading objects -/

variable {r}

theorem takes_of_readEntries {es : List (String × Json)} {s t : σ} (hes : (es.map (·.1)).Nodup)
    (h : readEntries r.fields es s = .ok t) {f : Field σ} (hf : f ∈ r.fields) :
    f.Takes (Assoc.get? f.key es) (f.get s) (f.get t) := by
  induction es generalizing s with
  | nil =>
    cases h
    rfl
  | cons e es ih =>
    obtain ⟨k, v⟩ := e
    obtain ⟨hk, hnodup⟩ := List.nodup_cons.1 hes
    unfold readEntries at h
    split at h
    · rename_i hnone
      have hne : f.key ≠ k := by simpa using List.find?_eq_none.1 hnone f hf
      have hrest := ih hnodup h
      simpa only [Assoc.get?, if_neg hne] using hrest
    · rename_i g hsome
      have hg : g ∈ r.fields := List.mem_of_find?_eq_some hsome
      have hgk : g.key = k := by simpa using List.find?_some hsome
      split at h
      · cases h
      · rename_i s' hread
        obtain ⟨p, hp, rfl⟩ := Field.read_eq_ok.1 hread
        have hrest := ih hnodup h
        by_cases hfk : f.key = k
        · obtain rfl : f = g := r.eq_of_key hf hg (hfk.trans hgk.symm)
          -- the key does not come again, so that the rest leaves the member as it was read here
          have hlast : f.get t = p := by
            rw [hfk, Assoc.get?_eq_none_iff.2 hk] at hrest
            exact Eq.trans hrest (f.get_set p s)
          simp only [Assoc.get?, if_pos hfk]
          exact hlast ▸ hp
        · have hsame : f.get (g.set p s) = f.get s := (r.apart_of_mem hf hg fun he => hfk (he.trans hgk)).left p s
          rw [hsame] at hrest
          simpa only [Assoc.get?, if_neg hfk] using hrest

theorem exists_readEntries {es : List (String × Json)} {s : σ} (hes : (es.map (·.1)).Nodup)
    (h : ∀ f ∈ r.fields, ∃ q, f.Takes (Assoc.get? f.key es) (f.get s) q) : ∃ t, readEntries r.fields es s = .ok t := by
  induction es generalizing s with
  | nil => exact ⟨s, rfl⟩
  | cons e es ih =>
    obtain ⟨k, v⟩ := e
    obtain ⟨hk, hnodup⟩ := List.nodup_cons.1 hes
    unfold readEntries
    split
    · rename_i hnone
      refine ih hnodup fun f hf => ?_
      have hne : f.key ≠ k := by simpa using List.find?_eq_none.1 hnone f hf
      simpa only [Assoc.get?, if_neg hne] using h f hf
    · rename_i g hsome
      have hg : g ∈ r.fields := List.mem_of_find?_eq_some hsome
      have hgk : g.key = k := by simpa using List.find?_some hsome
      obtain ⟨p, hp⟩ := h g hg
      simp only [Assoc.get?, if_pos hgk, Field.Takes] at hp
      rw [Field.read_eq_ok.2 ⟨p, hp, rfl⟩]
      refine ih hnodup fun f hf => ?_
      by_cases hfk : f.key = k
      · rw [hfk, Assoc.get?_eq_none_iff.2 hk]
        exact ⟨_, rfl⟩
      · have hsame : f.get (g.set p s) = f.get s := (r.apart_of_mem hf hg fun he => hfk (he.trans hgk)).left p s
        rw [hsame]
        simpa only [Assoc.get?, if_neg hfk] using h f hf

theorem missing?_eq_none {es : List (String × Json)} :
    missing? r.fields es = none ↔ ∀ f ∈ r.fields, f.needed = true → (Assoc.get? f.key es).isSome = true := by
  simp [missing?, List.find?_eq_none, Option.isSome_iff_ne_none]

theorem read_of_readEntries {es : List (String × Json)} {s : σ} (h : readEntries r.fields es r.blank = .ok s)
    (hneeded : ∀ f ∈ r.fields, f.needed = true → (Assoc.get? f.key es).isSome = true) : r.read (.object es) = .ok s := by
  simp only [read, h, missing?_eq_none.2 hneeded]

/-- **An object is read member by member, each on its own.** -/
theorem read_object_iff {es : List (String × Json)} (hes : (es.map (·.1)).Nodup) {s : σ} :
    r.read (.object es) = .ok s ↔
      (∀ f ∈ r.fields, f.needed = true → (Assoc.get? f.key es).isSome = true) ∧
      ∀ f ∈ r.fields, f.Takes (Assoc.get? f.key es) (f.get r.blank) (f.get s) := by
  constructor
  · intro h
    unfold read at h
    simp only at h
    split at h
    · cases h
    · rename_i t ht
      split at h
      · cases h
      · rename_i hmissing
        cases h
        exact ⟨missing?_eq_none.1 hmissing, fun f hf => takes_of_readEntries hes ht hf⟩
  · rintro ⟨hneeded, htakes⟩
    obtain ⟨t, ht⟩ := exists_readEntries hes fun f hf => ⟨_, htakes f hf⟩
    have heq : t = s := r.ext t s fun f hf => (takes_of_readEntries hes ht hf).unique (htakes f hf)
    rw [← heq]
    exact read_of_readEntries ht hneeded

/-! ## The written form -/

theorem keys_members_sublist (fields : List (Field σ)) (s : σ) :
    ((fields.filterMap fun f => (f.write s).map fun v => (f.key, v)).map (·.1)).Sublist (fields.map (·.key)) := by
  induction fields with
  | nil => exact .slnil
  | cons f fields ih =>
    cases h : f.write s with
    | none => simpa [List.filterMap_cons, h] using ih.cons f.key
    | some v => simpa [List.filterMap_cons, h] using ih.cons_cons f.key

theorem nodup_keys_members (r : Record σ) (s : σ) : ((r.members s).map (·.1)).Nodup :=
  r.nodup_keys.sublist (keys_members_sublist r.fields s)

theorem get?_members {fields : List (Field σ)} (hkeys : (fields.map (·.key)).Nodup) (s : σ) {f : Field σ} (hf : f ∈ fields) :
    Assoc.get? f.key (fields.filterMap fun f => (f.write s).map fun v => (f.key, v)) = f.write s := by
  induction fields with
  | nil => cases hf
  | cons g fields ih =>
    obtain ⟨hg, hnodup⟩ := List.nodup_cons.1 hkeys
    rcases List.mem_cons.1 hf with rfl | hf
    · cases h : f.write s with
      | none =>
        have hnot : f.key ∉ (fields.filterMap fun f => (f.write s).map fun v => (f.key, v)).map (·.1) :=
          fun hmem => hg ((keys_members_sublist fields s).subset hmem)
        simpa [List.filterMap_cons, h] using Assoc.get?_eq_none_iff.2 hnot
      | some v => simp [h, Assoc.get?]
    · have hne : f.key ≠ g.key := by
        intro he
        exact hg (List.mem_map.2 ⟨f, hf, he⟩)
      cases h : g.write s with
      | none => simpa [List.filterMap_cons, h] using ih hnodup hf
      | some v => simpa [List.filterMap_cons, h, Assoc.get?, hne] using ih hnodup hf

/-- Every member that is written is found in the written form. -/
theorem get?_write (s : σ) {f : Field σ} (hf : f ∈ r.fields) : (r.write s).get? f.key = f.write s := by
  show Assoc.get? f.key (Assoc.ofList (r.members s)) = f.write s
  rw [Assoc.get?_ofList, Assoc.get?_reverse (r.nodup_keys_members s)]
  exact get?_members r.nodup_keys s hf

theorem read_write_iff {s t : σ} :
    r.read (r.write s) = .ok t ↔
      (∀ f ∈ r.fields, f.needed = true → (f.write s).isSome = true) ∧
      ∀ f ∈ r.fields, f.Takes (f.write s) (f.get r.blank) (f.get t) := by
  have hwrite : ∀ f ∈ r.fields, Assoc.get? f.key (Assoc.ofList (r.members s)) = f.write s := fun f hf => get?_write s hf
  refine (read_object_iff (Assoc.ascending_ofList _).nodup_keys).trans (and_congr ?_ ?_)
  · exact forall₂_congr fun f hf => by rw [hwrite f hf]
  · exact forall₂_congr fun f hf => by rw [hwrite f hf]

theorem write_congr {s t : σ} (h : ∀ f ∈ r.fields, f.write s = f.write t) : r.write s = r.write t := by
  have hmembers : r.members s = r.members t := List.filterMap_congr fun f hf => by rw [h f hf]
  rw [write, write, hmembers]

theorem members_beq {fields : List (Field σ)} {s t : σ} (h : ∀ f ∈ fields, (f.write s == f.write t) = true) :
    Json.beqEntries (fields.filterMap fun f => (f.write s).map fun v => (f.key, v))
      (fields.filterMap fun f => (f.write t).map fun v => (f.key, v)) = true := by
  induction fields with
  | nil => rfl
  | cons f fields ih =>
    have hrest := ih fun g hg => h g (List.mem_cons_of_mem _ hg)
    have hf := h f (List.mem_cons_self ..)
    cases hs : f.write s with
    | none =>
      cases ht : f.write t with
      | none => simpa [List.filterMap_cons, hs, ht] using hrest
      | some w => simp [hs, ht] at hf
    | some v =>
      cases ht : f.write t with
      | none => simp [hs, ht] at hf
      | some w =>
        rw [hs, ht] at hf
        have hvw : Json.beq v w = true := hf
        simp [hs, ht, Json.beqEntries, hvw, hrest]

theorem write_beq {s t : σ} (h : ∀ f ∈ r.fields, (f.write s == f.write t) = true) : (r.write s == r.write t) = true :=
  Json.ofEntries_beq (members_beq h)

/-! ## What every way of reading does -/

theorem forall_get_of_read {Q : ∀ f : Field σ, f.Part → Prop} (hblank : ∀ f ∈ r.fields, Q f (f.get r.blank))
    (hstep : ∀ f ∈ r.fields, ∀ v p q, Q f p → f.readPart v p = .ok q → Q f q) {v : Json} {s : σ} (h : r.read v = .ok s) :
    ∀ f ∈ r.fields, Q f (f.get s) := by
  have hread : ∀ g ∈ r.fields, ∀ v s t, (∀ f ∈ r.fields, Q f (f.get s)) → g.read v s = .ok t → ∀ f ∈ r.fields, Q f (f.get t) := by
    intro g hg v s t hs hread f hf
    obtain ⟨p, hp, rfl⟩ := Field.read_eq_ok.1 hread
    by_cases hk : f.key = g.key
    · obtain rfl := r.eq_of_key hf hg hk
      rw [f.get_set]
      exact hstep f hf v _ p (hs f hf) hp
    · rw [(r.apart_of_mem hf hg hk).left]
      exact hs f hf
  have hentries : ∀ es s t, (∀ f ∈ r.fields, Q f (f.get s)) → readEntries r.fields es s = .ok t →
      ∀ f ∈ r.fields, Q f (f.get t) := by
    intro es
    induction es with
    | nil =>
      intro s t hs h
      cases h
      exact hs
    | cons e es ih =>
      intro s t hs h
      unfold readEntries at h
      split at h
      · exact ih s t hs h
      · rename_i g hsome
        split at h
        · cases h
        · rename_i s' hs'
          exact ih s' t (hread g (List.mem_of_find?_eq_some hsome) _ s s' hs hs') h
  have hplaces : ∀ tooFew total fields n vs s t, (∀ f ∈ fields, f ∈ r.fields) → (∀ f ∈ r.fields, Q f (f.get s)) →
      readPlaces tooFew total n fields vs s = .ok t → ∀ f ∈ r.fields, Q f (f.get t) := by
    intro tooFew total fields
    induction fields with
    | nil =>
      intro n vs s t _ hs h
      cases vs with
      | nil => cases h; exact hs
      | cons _ _ => cases h
    | cons g fields ih =>
      intro n vs s t hsub hs h
      have hrest : ∀ f ∈ fields, f ∈ r.fields := fun f hf => hsub f (List.mem_cons_of_mem _ hf)
      cases vs with
      | nil =>
        unfold readPlaces at h
        split at h
        · exact ih n [] s t hrest hs h
        · cases h
      | cons v vs =>
        unfold readPlaces at h
        split at h
        · cases h
        · rename_i s' hs'
          exact ih (n + 1) vs s' t hrest (hread g (hsub g (List.mem_cons_self ..)) v s s' hs hs') h
  unfold read at h
  split at h
  · split at h
    · cases h
    · rename_i t ht
      split at h
      · cases h
      · cases h
        exact hentries _ _ _ hblank ht
  · split at h
    · exact hplaces _ _ _ _ _ _ _ (fun _ hf => hf) hblank h
    · cases h
  · cases h

/-! ## Reading equal values -/

theorem missing?_eq_none_of_beq {es es' : List (String × Json)} (hes : Json.beqEntries es es' = true)
    (h : missing? r.fields es = none) : missing? r.fields es' = none := by
  refine missing?_eq_none.2 fun f hf hn => ?_
  have hfound := missing?_eq_none.1 h f hf hn
  have hsame := Json.get?_beqEntries hes f.key
  cases hes' : Assoc.get? f.key es' with
  | some w => rfl
  | none =>
    obtain ⟨v, hv⟩ := Option.isSome_iff_exists.1 hfound
    rw [hv, hes'] at hsame
    cases hsame

section
variable (lawful : ∀ f ∈ r.fields, f.Lawful (f.get r.blank))
include lawful

theorem exists_read_member_of_beq {g : Field σ} (hg : g ∈ r.fields) {v w : Json} (hv : (v == w) = true) {s s' t : σ}
    (hs : ∀ f ∈ r.fields, (f.write s == f.write s') = true) (h : g.read v s = .ok t) :
    ∃ t', g.read w s' = .ok t' ∧ ∀ f ∈ r.fields, (f.write t == f.write t') = true := by
  obtain ⟨p, hp, rfl⟩ := Field.read_eq_ok.1 h
  obtain ⟨p', hp', hpp⟩ := (lawful g hg).congr hv (hs g hg) hp
  refine ⟨g.set p' s', Field.read_eq_ok.2 ⟨p', hp', rfl⟩, fun f hf => ?_⟩
  by_cases hk : f.key = g.key
  · obtain rfl := r.eq_of_key hf hg hk
    simpa only [Field.write, f.get_set] using hpp
  · have hapart := (r.apart_of_mem hf hg hk).left
    simpa only [Field.write, hapart] using hs f hf

theorem exists_readEntries_of_beq {es es' : List (String × Json)} (hes : Json.beqEntries es es' = true) {s s' t : σ}
    (hs : ∀ f ∈ r.fields, (f.write s == f.write s') = true) (h : readEntries r.fields es s = .ok t) :
    ∃ t', readEntries r.fields es' s' = .ok t' ∧ ∀ f ∈ r.fields, (f.write t == f.write t') = true := by
  induction es generalizing es' s s' with
  | nil => cases es' with
    | nil =>
      cases h
      exact ⟨s', rfl, hs⟩
    | cons _ _ => cases hes
  | cons e es ih => cases es' with
    | nil => cases hes
    | cons e' es' =>
      obtain ⟨k, v⟩ := e
      obtain ⟨k', w⟩ := e'
      simp only [Json.beqEntries, Bool.and_eq_true, beq_iff_eq] at hes
      obtain ⟨⟨rfl, hv⟩, hrest⟩ := hes
      unfold readEntries at h ⊢
      split at h
      · exact ih hrest hs h
      · rename_i g hsome
        split at h
        · cases h
        · rename_i u hu
          obtain ⟨u', hu', huu⟩ := exists_read_member_of_beq lawful (List.mem_of_find?_eq_some hsome) hv hs hu
          simp only [hu']
          exact ih hrest huu h

theorem exists_readPlaces_of_beq {tooFew tooFew' : Misread.Cause} {total total' : Nat} {fields : List (Field σ)}
    (hsub : ∀ f ∈ fields, f ∈ r.fields) {vs ws : List Json} (hvs : Json.beqItems vs ws = true) {n : Nat} {s s' t : σ}
    (hs : ∀ f ∈ r.fields, (f.write s == f.write s') = true) (h : readPlaces tooFew total n fields vs s = .ok t) :
    ∃ t', readPlaces tooFew' total' n fields ws s' = .ok t' ∧ ∀ f ∈ r.fields, (f.write t == f.write t') = true := by
  induction fields generalizing vs ws n s s' with
  | nil => cases vs with
    | nil => cases ws with
      | nil =>
        cases h
        exact ⟨s', rfl, hs⟩
      | cons _ _ => cases hvs
    | cons _ _ => cases h
  | cons g fields ih =>
    have hrest : ∀ f ∈ fields, f ∈ r.fields := fun f hf => hsub f (List.mem_cons_of_mem _ hf)
    cases vs with
    | nil => cases ws with
      | nil =>
        unfold readPlaces at h ⊢
        split at h
        · rename_i homissible
          rw [if_pos homissible]
          exact ih hrest rfl hs h
        · cases h
      | cons _ _ => cases hvs
    | cons v vs => cases ws with
      | nil => cases hvs
      | cons w ws =>
        simp only [Json.beqItems, Bool.and_eq_true] at hvs
        unfold readPlaces at h ⊢
        split at h
        · cases h
        · rename_i u hu
          obtain ⟨u', hu', huu⟩ := exists_read_member_of_beq lawful (hsub g (List.mem_cons_self ..)) hvs.1 hs hu
          simp only [hu']
          exact ih hrest hvs.2 huu h

theorem exists_read_of_beq {v w : Json} (hv : (v == w) = true) {s : σ} (h : r.read v = .ok s) :
    ∃ t, r.read w = .ok t ∧ ∀ f ∈ r.fields, (f.write s == f.write t) = true := by
  have hblank : ∀ f ∈ r.fields, (f.write r.blank == f.write r.blank) = true := fun _ _ => BEq.rfl
  unfold read at h
  split at h
  · rename_i es
    obtain ⟨es', rfl, hes⟩ := Json.exists_object_of_beq hv
    split at h
    · cases h
    · rename_i t ht
      obtain ⟨t', ht', htt⟩ := exists_readEntries_of_beq lawful hes hblank ht
      split at h
      · cases h
      · rename_i hmissing
        cases h
        exact ⟨t', by simp only [read, ht', missing?_eq_none_of_beq hes hmissing], htt⟩
  · rename_i vs
    obtain ⟨ws, rfl, hws⟩ := Json.exists_array_of_beq hv
    split at h
    · rename_i hpositional
      obtain ⟨t', ht', htt⟩ := exists_readPlaces_of_beq lawful (fun _ hf => hf) hws hblank h
      exact ⟨t', by simp only [read, if_pos hpositional]; exact ht', htt⟩
    · cases h
  · cases h

end

/-! ## The laws -/

/-- Every member is reread. -/
def Sound (r : Record σ) (s : σ) : Prop := ∀ f ∈ r.fields, f.Rereads (f.get r.blank) (f.get s)

theorem sound_of_read (lawful : r.fields.Forall fun f => f.Lawful (f.get r.blank)) {v : Json} {s : σ} (h : r.read v = .ok s) :
    r.Sound s := by
  have hfields := List.forall_iff_forall_mem.1 lawful
  exact forall_get_of_read (fun f hf => (hfields f hf).rereads_blank) (fun f hf _ _ _ => (hfields f hf).rereads) h

theorem Sound.rereads (lawful : r.fields.Forall fun f => f.Lawful (f.get r.blank)) {s : σ} (h : r.Sound s) :
    r.codec.Rereads s := by
  have hnodup := (Assoc.ascending_ofList (r.members s)).nodup_keys
  have hwrite : ∀ f ∈ r.fields, Assoc.get? f.key (Assoc.ofList (r.members s)) = f.write s := fun f hf => get?_write s hf
  obtain ⟨t, ht⟩ : ∃ t, readEntries r.fields (Assoc.ofList (r.members s)) r.blank = .ok t := by
    refine exists_readEntries hnodup fun f hf => ?_
    obtain ⟨q, hq, -⟩ := h f hf
    rw [hwrite f hf]
    exact ⟨q, hq⟩
  refine ⟨t, read_of_readEntries ht fun f hf hn => ?_, write_congr fun f hf => ?_⟩
  · rw [hwrite f hf]
    exact (List.forall_iff_forall_mem.1 lawful f hf).written hn _
  · obtain ⟨q, hq, hsame⟩ := h f hf
    have htakes := takes_of_readEntries hnodup ht hf
    rw [hwrite f hf] at htakes
    rw [Field.write, htakes.unique hq, hsame]
    rfl

theorem Sound.set {s : σ} (h : r.Sound s) {g : Field σ} (hg : g ∈ r.fields) {p : g.Part} (hp : g.Rereads (g.get r.blank) p) :
    r.Sound (g.set p s) := by
  intro f hf
  by_cases hk : f.key = g.key
  · obtain rfl := r.eq_of_key hf hg hk
    rw [f.get_set]
    exact hp
  · rw [(r.apart_of_mem hf hg hk).left]
    exact h f hf

/-- Where no member is required, a structure is kept if its members are. -/
theorem kept_iff (hfree : r.fields.all (fun f => !f.needed) = true) {s : σ} :
    r.codec.Kept s ↔ r.fields.Forall fun f => f.Kept (f.get r.blank) (f.get s) := by
  have hneeded : ∀ f ∈ r.fields, f.needed = true → (f.write s).isSome = true := by
    intro f hf hn
    have hnot := List.all_eq_true.1 hfree f hf
    rw [hn] at hnot
    cases hnot
  rw [List.forall_iff_forall_mem]
  exact read_write_iff.trans ⟨fun h => h.2, fun h => ⟨hneeded, h⟩⟩

/-- A record is neat if its members are. -/
theorem neat (hfree : r.fields.all (fun f => !f.needed) = true) (h : r.fields.Forall fun f => f.Neat (f.get r.blank)) :
    r.codec.Neat := by
  intro s t hread
  refine (kept_iff hfree).2 (List.forall_iff_forall_mem.2 fun f hf => ?_)
  exact List.forall_iff_forall_mem.1 h f hf _ _ ((read_write_iff.1 hread).2 f hf)

theorem Kept.set {s : σ} (h : r.codec.Kept s) {g : Field σ} (hg : g ∈ r.fields) {p : g.Part}
    (hp : g.Kept (g.get r.blank) p) (hwritten : g.needed = true → (g.writePart p).isSome = true) :
    r.codec.Kept (g.set p s) := by
  obtain ⟨hneeded, htakes⟩ := read_write_iff.1 h
  refine read_write_iff.2 ⟨fun f hf => ?_, fun f hf => ?_⟩
  all_goals by_cases hk : f.key = g.key
  · obtain rfl := r.eq_of_key hf hg hk
    rw [Field.write, f.get_set]
    exact hwritten
  · rw [Field.write, (r.apart_of_mem hf hg hk).left]
    exact hneeded f hf
  · obtain rfl := r.eq_of_key hf hg hk
    rw [Field.write, f.get_set]
    exact hp
  · rw [Field.write, (r.apart_of_mem hf hg hk).left]
    exact htakes f hf

/-- A record obeys the laws if its members do. -/
theorem lawful (h : r.fields.Forall fun f => f.Lawful (f.get r.blank)) : r.codec.Lawful where
  rereads hread := (sound_of_read h hread).rereads h
  firm _ hnull := by cases hnull
  congr hv hread := by
    obtain ⟨t, ht, hmembers⟩ := exists_read_of_beq (List.forall_iff_forall_mem.1 h) hv hread
    exact ⟨t, ht, write_beq hmembers⟩

theorem members_beq_of_write {s t : σ} (h : (r.write s == r.write t) = true) :
    r.fields.Forall fun f => (f.writePart (f.get s) == f.writePart (f.get t)) = true := by
  refine List.forall_iff_forall_mem.2 fun f hf => ?_
  have hfound := Json.get?_beq h f.key
  rwa [get?_write s hf, get?_write t hf] at hfound

theorem injective (h : r.fields.Forall Field.Injective) : r.codec.Injective := by
  intro s t hst
  have hmembers := List.forall_iff_forall_mem.1 (members_beq_of_write hst)
  exact r.ext s t fun f hf => List.forall_iff_forall_mem.1 h f hf _ _ (hmembers f hf)

/-- What is reread is kept, if no member is written like another value of it. -/
theorem kept_of_rereads (h : r.fields.Forall Field.Faithful) {s : σ} (hs : r.codec.Rereads s) : r.codec.Kept s := by
  obtain ⟨t, hread, hwrite⟩ := hs
  have heq : t = s := by
    refine r.ext t s fun f hf => List.forall_iff_forall_mem.1 h f hf _ _ ?_
    have ht : (r.write t).get? f.key = f.write t := get?_write t hf
    rw [show r.write t = r.write s from hwrite, get?_write s hf] at ht
    exact ht.symm
  rw [heq] at hread
  exact hread

end Record

/-! ## The kinds of members -/

namespace Field

variable {σ β : Type} {key : String} {c : Codec β}

section
variable {get : σ → Option β} {set : Option β → σ → σ} {get_set : ∀ p s, get (set p s) = p} {set_get : ∀ s, set (get s) s = s}

theorem optional_readPart_eq_ok {v : Json} (hv : v ≠ .null) {p q : Option β} :
    (Field.optional key c get set get_set set_get).readPart v p = .ok q ↔ ∃ b, c.read v = .ok b ∧ some b = q := by
  have hpart : (Field.optional key c get set get_set set_get).readPart v p = (c.read v).map some := by
    cases v with
    | null => exact absurd rfl hv
    | _ =>
      simp only [optional]
      cases c.read _ <;> rfl
  exact (Eq.congr_left hpart).trans map_eq_ok

theorem optional_rereads_some {b : β} (hb : c.Rereads b) (hwrite : c.write b ≠ .null) :
    (Field.optional key c get set get_set set_get).Rereads none (some b) := by
  obtain ⟨b', hread, hsame⟩ := hb
  exact ⟨some b', (optional_readPart_eq_ok hwrite).2 ⟨b', hread, rfl⟩, congrArg some hsame⟩

theorem optional_kept_some {b : β} (hb : c.Kept b) (hwrite : c.write b ≠ .null) :
    (Field.optional key c get set get_set set_get).Kept none (some b) :=
  (optional_readPart_eq_ok hwrite).2 ⟨b, hb, rfl⟩

theorem optional_kept (hc : ∀ b, c.Kept b ∧ c.write b ≠ .null) (p : Option β) :
    (Field.optional key c get set get_set set_get).Kept none p := by
  cases p with
  | none => rfl
  | some b => exact optional_kept_some (hc b).1 (hc b).2

theorem Lawful.optional (hc : c.Lawful) : (Field.optional key c get set get_set set_get).Lawful none where
  rereads_blank := ⟨none, rfl, rfl⟩
  rereads {v p q} _ hq := by
    by_cases hv : v = .null
    · subst hv
      cases hq
      exact ⟨none, rfl, rfl⟩
    · obtain ⟨b, hread, rfl⟩ := (optional_readPart_eq_ok hv).1 hq
      exact optional_rereads_some (hc.rereads hread) fun hnull => hv (hc.firm hread hnull)
  congr {v w p p' q} hvw _ hq := by
    by_cases hv : v = .null
    · subst hv
      cases hq
      rw [Json.eq_null_of_beq hvw]
      exact ⟨none, rfl, rfl⟩
    · obtain ⟨b, hread, rfl⟩ := (optional_readPart_eq_ok hv).1 hq
      obtain ⟨b', hread', hbb⟩ := hc.congr hvw hread
      have hw : w ≠ .null := by
        rintro rfl
        exact hv (Json.eq_null_of_beq (BEq.symm hvw))
      exact ⟨some b', (optional_readPart_eq_ok hw).2 ⟨b', hread', rfl⟩, hbb⟩
  written h := by cases h

theorem Neat.optional (hc : c.Lawful) (hn : c.Neat) : (Field.optional key c get set get_set set_get).Neat none := by
  intro p q hq
  cases p with
  | none =>
    obtain rfl : q = none := hq
    rfl
  | some a =>
    have hpart : (Field.optional key c get set get_set set_get).readPart (c.write a) none = .ok q := hq
    by_cases hnull : c.write a = .null
    · rw [hnull] at hpart
      cases hpart
      rfl
    · obtain ⟨b, hread, rfl⟩ := (optional_readPart_eq_ok hnull).1 hpart
      exact optional_kept_some (hn a b hread) fun h => hnull (hc.firm hread h)

theorem Injective.optional (hc : c.Injective) : (Field.optional key c get set get_set set_get).Injective := by
  intro p q h
  cases p with
  | none => cases q with
    | none => rfl
    | some b => cases h
  | some a => cases q with
    | none => cases h
    | some b => exact congrArg some (hc a b h)

theorem Faithful.optional (hc : ∀ a b, c.write a = c.write b → a = b) :
    (Field.optional key c get set get_set set_get).Faithful := by
  intro p q h
  cases p with
  | none => cases q with
    | none => rfl
    | some b => cases h
  | some a => cases q with
    | none => cases h
    | some b => exact congrArg some (hc a b (Option.some.inj h))

end

section
variable {get : σ → β} {set : β → σ → σ} {get_set : ∀ p s, get (set p s) = p} {set_get : ∀ s, set (get s) s = s}

theorem lenient_readPart {v : Json} (hv : v ≠ .null) (p : β) :
    (Field.lenient key c get set get_set set_get).readPart v p = c.read v := by
  cases v with
  | null => exact absurd rfl hv
  | _ => rfl

theorem lenient_rereads {blank b : β} (hb : c.Rereads b) (hwrite : c.write b ≠ .null) :
    (Field.lenient key c get set get_set set_get).Rereads blank b := by
  obtain ⟨b', hread, hsame⟩ := hb
  exact ⟨b', (lenient_readPart hwrite blank).trans hread, congrArg some hsame⟩

theorem Lawful.defaulted (hc : c.Lawful) {blank : β} (hb : c.Rereads blank) :
    (Field.defaulted key c get set get_set set_get).Lawful blank where
  rereads_blank := by
    obtain ⟨b, hread, hsame⟩ := hb
    exact ⟨b, hread, congrArg some hsame⟩
  rereads {v p q} _ hq := by
    obtain ⟨b, hread, hsame⟩ := hc.rereads hq
    exact ⟨b, hread, congrArg some hsame⟩
  congr hvw _ hq := hc.congr hvw hq
  written _ _ := rfl

theorem Lawful.required (hc : c.Lawful) {blank : β} (hb : c.Rereads blank) :
    (Field.required key c get set get_set set_get).Lawful blank := by
  have h : (Field.defaulted key c get set get_set set_get).Lawful blank := Lawful.defaulted hc hb
  exact ⟨h.rereads_blank, h.rereads, h.congr, fun _ _ => rfl⟩

theorem Lawful.lenient (hc : c.Lawful) {blank : β} (hb : c.Rereads blank) (hwrite : c.write blank ≠ .null) :
    (Field.lenient key c get set get_set set_get).Lawful blank where
  rereads_blank := lenient_rereads hb hwrite
  rereads {v p q} hp hq := by
    by_cases hv : v = .null
    · subst hv
      cases hq
      exact hp
    · have hread := (lenient_readPart hv p).symm.trans hq
      exact lenient_rereads (hc.rereads hread) fun hnull => hv (hc.firm hread hnull)
  congr {v w p p' q} hvw hpp hq := by
    by_cases hv : v = .null
    · subst hv
      cases hq
      rw [Json.eq_null_of_beq hvw]
      exact ⟨p', rfl, hpp⟩
    · have hw : w ≠ .null := by
        rintro rfl
        exact hv (Json.eq_null_of_beq (BEq.symm hvw))
      obtain ⟨b, hread, hbb⟩ := hc.congr hvw ((lenient_readPart hv p).symm.trans hq)
      exact ⟨b, (lenient_readPart hw p').trans hread, hbb⟩
  written _ _ := rfl

theorem Neat.lenient (hn : c.Neat) {blank : β} (hb : ∀ b, c.write b ≠ .null) :
    (Field.lenient key c get set get_set set_get).Neat blank := by
  intro p q hq
  have hread : c.read (c.write p) = .ok q := (lenient_readPart (hb p) blank).symm.trans hq
  exact (lenient_readPart (hb q) blank).trans (hn p q hread)

theorem Injective.lenient (hc : c.Injective) : (Field.lenient key c get set get_set set_get).Injective :=
  hc

theorem Injective.defaulted (hc : c.Injective) : (Field.defaulted key c get set get_set set_get).Injective :=
  hc

end

end Field

end Converge
