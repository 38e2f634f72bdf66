import Converge.Proofs.Selectors

/-!
# Selectors go by their terms

* `Selector.selects_append`: a comma joins two selectors into one that asks for what both ask for; `selects_intercalate`: commas join
  any number of them.
* `Blank` texts ask for nothing, `selects_of_blank`; `selects_congr`: only the terms that are not blank count, not their order or
  number.
* `requirements_differs`, `requirements_absent`: terms of plain texts are read as they are written.
* `Selector.Conjoined` : all this of the labels that a selector is held against; `selects_conjoined`: so it is of any.
-/

namespace Converge

set_option autoImplicit false

/-- The text has nothing but blanks. -/
def Blank (s : String) : Prop := ∀ c ∈ s.toList, Text.isBlank c = true

instance (s : String) : Decidable (Blank s) := List.decidableBAll _ s.toList

namespace Text

theorem trim_of_blank {cs : List Char} (h : ∀ c ∈ cs, isBlank c = true) : trim cs = [] := by
  unfold trim trimStart
  rw [← List.append_nil cs, List.dropWhile_append_of_pos h]
  rfl

end Text

namespace Requirement
variable (labels : Labels) (key value : String)

theorem holds_equals : (equals key value).holds labels = true ↔ labels.get? key = some value := beq_iff_eq

theorem holds_differs : (differs key value).holds labels = !(equals key value).holds labels := rfl

theorem holds_present : (present key).holds labels = true ↔ ∃ v, labels.get? key = some v := Option.isSome_iff_exists

theorem holds_absent : (absent key).holds labels = !(present key).holds labels := rfl

end Requirement

namespace Selector

/-! ## Terms in a row -/

theorem selects_append (s t : String) (labels : Labels) :
    selects (s ++ "," ++ t) labels = (selects s labels && selects t labels) := by
  unfold selects
  rw [requirements_append, List.all_append]

/-- A selector that has terms in a row selects what all of them select. -/
theorem selects_intercalate (ts : List String) (labels : Labels) :
    selects (",".intercalate ts) labels = ts.all fun t => selects t labels := by
  induction ts with
  | nil => rfl
  | cons t us ih =>
    cases us with
    | nil => rw [String.intercalate_singleton, List.all_cons, List.all_nil, Bool.and_true]
    | cons u us => rw [String.intercalate_cons_cons, selects_append, ih, List.all_cons (l := u :: us)]

/-- Blanks ask for nothing. -/
theorem selects_of_blank {s : String} (h : Blank s) (labels : Labels) : selects s labels = true := by
  have comma : ',' ∉ s.toList := fun hm => absurd (h _ hm) (by decide)
  unfold selects requirements ofParts
  rw [Text.pieces_of_not_mem comma, List.map_singleton, Text.trim_of_blank h]
  rfl

/-- The terms that are not blank decide, whatever their order and however often they come. -/
theorem selects_congr {ts us : List String} (same : ∀ t, ¬ Blank t → (t ∈ ts ↔ t ∈ us)) (labels : Labels) :
    selects (",".intercalate ts) labels = selects (",".intercalate us) labels := by
  have meets : ∀ xs : List String, selects (",".intercalate xs) labels = true ↔
      ∀ t, ¬ Blank t → t ∈ xs → selects t labels = true := by
    intro xs
    rw [selects_intercalate, List.all_eq_true]
    constructor
    · exact fun h t _ ht => h t ht
    · intro h t ht
      by_cases blank : Blank t
      · exact selects_of_blank blank labels
      · exact h t blank ht
  rw [Bool.eq_iff_iff, meets, meets]
  exact forall₂_congr fun t ht => by rw [same t ht]

/-! ## Terms of plain texts -/

variable {key value : String}

theorem requirement_differs (hk : Plain key) (hv : Plain value) :
    requirement (key.toList ++ '!' :: '=' :: value.toList) = .differs key value := by
  have mark : Text.cut ['!', '='] (key.toList ++ '!' :: '=' :: value.toList) = some (key.toList, value.toList) :=
    Text.cut_append hk.bang ['='] value.toList
  unfold requirement
  rw [mark]
  dsimp only
  rw [plain_toList hk, plain_toList hv]

theorem requirement_absent (hk : Plain key) : requirement ('!' :: key.toList) = .absent key := by
  have later : Text.cut ['!', '='] key.toList = none := Text.cut_of_not_mem hk.bang
  have equals : '=' ∉ '!' :: key.toList := List.not_mem_cons_of_ne_of_not_mem (by decide) hk.equals
  have next : ['='].isPrefixOf key.toList = false := by
    cases h : key.toList with
    | nil => rfl
    | cons c cs =>
      have hc : ('=' == c) = false := beq_eq_false_iff_ne.mpr fun hc => hk.equals (h ▸ hc ▸ List.mem_cons_self)
      rw [List.isPrefixOf_cons_cons, hc]
      rfl
  have first : Text.cut ['!', '='] ('!' :: key.toList) = none := by
    unfold Text.cut
    rw [List.isPrefixOf_cons_cons, next, later]
    rfl
  unfold requirement
  rw [first, Text.cut_of_not_mem equals]
  show Requirement.absent (plain key.toList) = .absent key
  rw [plain_toList hk]

theorem requirements_differs (hk : Plain key) (hv : Plain value) : requirements (key ++ "!=" ++ value) = [.differs key value] := by
  have solid : Solid (key ++ "!=" ++ value) := (hk.solid.append (by decide)).append hv.solid
  rw [requirements_of_solid solid (by simp), String.toList_append, String.toList_append, List.append_assoc]
  exact congrArg (fun q => [q]) (requirement_differs hk hv)

theorem requirements_doubled (hk : Plain key) (hv : Plain value) : requirements (key ++ "==" ++ value) = [.equals key value] := by
  have solid : Solid (key ++ "==" ++ value) := (hk.solid.append (by decide)).append hv.solid
  rw [requirements_of_solid solid (by simp), String.toList_append, String.toList_append, List.append_assoc]
  exact congrArg (fun q => [q]) (requirement_equals hk hv 1)

theorem requirements_absent (hk : Plain key) : requirements ("!" ++ key) = [.absent key] := by
  have solid : Solid ("!" ++ key) := Solid.append (by decide) hk.solid
  rw [requirements_of_solid solid (by simp), String.toList_append]
  exact congrArg (fun q => [q]) (requirement_absent hk)

theorem selects_of_one {s : String} {q : Requirement} (h : requirements s = [q]) (labels : Labels) :
    selects s labels = q.holds labels := by
  unfold selects
  rw [h, List.all_cons, List.all_nil, Bool.and_true]

/-! ## What selectors select -/

/-- A selector that is held against the labels goes by its terms. -/
structure Conjoined (labels : Labels) : Prop where
  comma : ∀ s t, selects (s ++ "," ++ t) labels = true ↔ selects s labels = true ∧ selects t labels = true
  /-- Terms may change places, come again or be left blank. -/
  terms : ∀ ts us : List String, (∀ t, ¬ Blank t → (t ∈ ts ↔ t ∈ us)) →
    selects (",".intercalate ts) labels = selects (",".intercalate us) labels
  managed : ∀ (c : Config) (kind : String), selects (c.kindSelector kind) labels = true → selects c.managedSelector labels = true
  equals : ∀ key value, Plain key → key ≠ "" → Plain value →
    (selects (key ++ "=" ++ value) labels = true ↔ labels.get? key = some value)
  differs : ∀ key value, Plain key → key ≠ "" → Plain value →
    selects (key ++ "!=" ++ value) labels = !selects (key ++ "=" ++ value) labels
  doubled : ∀ key value, Plain key → key ≠ "" → Plain value →
    selects (key ++ "==" ++ value) labels = selects (key ++ "=" ++ value) labels
  present : ∀ key, Plain key → key ≠ "" → (selects key labels = true ↔ ∃ value, labels.get? key = some value)
  absent : ∀ key, Plain key → key ≠ "" → selects ("!" ++ key) labels = !selects key labels

/-- **A selector selects what all its terms select**, and terms of plain texts ask for what they say. -/
theorem selects_conjoined (labels : Labels) : Conjoined labels where
  comma s t := by rw [selects_append, Bool.and_eq_true]
  terms ts us same := selects_congr same labels
  managed c kind h := by
    rw [c.kindSelector_eq, selects_append, Bool.and_eq_true] at h
    exact h.1
  equals key value hk _ hv := by rw [selects_of_one (requirements_equals hk hv), Requirement.holds_equals]
  differs key value hk _ hv := by
    rw [selects_of_one (requirements_differs hk hv), selects_of_one (requirements_equals hk hv), Requirement.holds_differs]
  doubled key value hk _ hv := by
    rw [selects_of_one (requirements_doubled hk hv), selects_of_one (requirements_equals hk hv)]
  present key hk filled := by rw [selects_of_one (requirements_present hk filled), Requirement.holds_present]
  absent key hk filled := by
    rw [selects_of_one (requirements_absent hk), selects_of_one (requirements_present hk filled), Requirement.holds_absent]

end Selector

/-! ## A sample: terms in another order -/

namespace Sample
open Selector

def tags : Labels := .ofList [("team", "apps"), ("tier", "web")]

theorem selects_conjoined_tags : Plain "team" ∧ Plain "apps" ∧
    selects (",".intercalate ["tier", "", "team=apps", "tier"]) tags = selects (",".intercalate ["team=apps", " ", "tier"]) tags ∧
    (selects "team=apps" tags = true ↔ tags.get? "team" = some "apps") ∧
    selects "team!=apps" tags = !selects "team=apps" tags ∧ selects "!tier" tags = !selects "tier" tags := by
  have team : Plain "team" := by decide +kernel
  have apps : Plain "apps" := by decide +kernel
  have conjoined := selects_conjoined tags
  refine ⟨team, apps, conjoined.terms _ _ fun t filled => ?_, conjoined.equals "team" "apps" team (by decide) apps,
    conjoined.differs "team" "apps" team (by decide) apps, conjoined.absent "tier" (by decide +kernel) (by decide)⟩
  have empty : t ≠ "" := fun h => filled (h ▸ by decide)
  have space : t ≠ " " := fun h => filled (h ▸ by decide)
  simp only [List.mem_cons, List.not_mem_nil, or_false, empty, space, false_or]
  exact ⟨fun h => h.elim .inr id, fun h => h.elim (.inr ∘ .inl) .inl⟩

end Sample

end Converge
