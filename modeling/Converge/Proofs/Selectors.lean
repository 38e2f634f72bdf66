import Converge.Cluster.Selector
import Converge.Ownership
import Converge.Proofs.Settings

/-!
# What the selectors of a configuration select

* `Plain` texts have no blank and none of the marks of selectors; `requirement_equals`, `requirement_present`: they are read
  as they are written. `Solid` texts have neither blanks nor commas; `requirements_of_solid`: they ask for one thing.
* `Config.Legible` : a configuration whose texts are plain, with a component label. `Config.Sound` : one that is accepted as well.
* `Config.Reads` : the selector of a kind is read as it is meant; `Legible.reads`: plain texts are enough for that.
* `Ownership.Marks` : an object carries the labels of a component of a kind; `selects_kindSelector_iff`: such a selector goes
  by them; `Ownership.marks_stamp`.
-/

namespace Converge

set_option autoImplicit false

/-! ## Plain text -/

/-- The text has no blank and none of the marks of selectors. -/
def Plain (s : String) : Prop := ∀ c ∈ s.toList, c ≠ ',' ∧ c ≠ '=' ∧ c ≠ '!' ∧ Text.isBlank c = false

instance (s : String) : Decidable (Plain s) := List.decidableBAll _ s.toList

theorem alphanum_ranges {c : Char} (h : c.isAlphanum = true) :
    65 ≤ c.toNat ∧ c.toNat ≤ 90 ∨ 97 ≤ c.toNat ∧ c.toNat ≤ 122 ∨ 48 ≤ c.toNat ∧ c.toNat ≤ 57 := by
  delta Char.isAlphanum Char.isAlpha Char.isUpper Char.isLower Char.isDigit at h
  simp only [Bool.or_eq_true, Bool.and_eq_true, decide_eq_true_eq, ge_iff_le, UInt32.le_iff_toNat_le] at h
  exact or_assoc.mp h

theorem isBlank_of_isAlphanum {c : Char} (h : c.isAlphanum = true) : Text.isBlank c = false := by
  have ranges := alphanum_ranges h
  simp only [Text.isBlank, Bool.or_eq_false_iff, Bool.and_eq_false_iff, decide_eq_false_iff_not, beq_eq_false_iff_ne]
  omega

/-- The text has only letters, digits and the punctuation of labels. -/
def LabelText (s : String) : Prop := ∀ c ∈ s.toList, c.isAlphanum = true ∨ c ∈ ['-', '_', '.', '/']

instance (s : String) : Decidable (LabelText s) := List.decidableBAll _ s.toList

theorem LabelText.plain {s : String} (h : LabelText s) : Plain s := by
  intro c hc
  rcases h c hc with ha | hm
  · refine ⟨?_, ?_, ?_, isBlank_of_isAlphanum ha⟩ <;> (rintro rfl; revert ha; decide)
  · simp only [List.mem_cons, List.not_mem_nil, or_false] at hm
    rcases hm with rfl | rfl | rfl | rfl <;> decide

namespace Text

theorem pieces_of_not_mem {mark : Char} {cs : List Char} (h : mark ∉ cs) : pieces mark cs = [cs] := by
  induction cs with
  | nil => rfl
  | cons c cs ih =>
    unfold pieces
    rw [if_neg fun hc : c = mark => h (hc ▸ List.mem_cons_self), ih fun hm => h (List.mem_cons_of_mem _ hm)]

theorem cut_of_not_mem {mark : Char} {more cs : List Char} (h : mark ∉ cs) : cut (mark :: more) cs = none := by
  induction cs with
  | nil => rfl
  | cons c cs ih =>
    have hc : (mark == c) = false := beq_eq_false_iff_ne.mpr fun hc => h (hc ▸ List.mem_cons_self)
    unfold cut
    rw [List.isPrefixOf_cons_cons, hc, ih fun hm => h (List.mem_cons_of_mem _ hm)]
    rfl

/-- A mark is found where its first character first stands. -/
theorem cut_append {mark : Char} {before : List Char} (h : mark ∉ before) (more behind : List Char) :
    cut (mark :: more) (before ++ (mark :: more ++ behind)) = some (before, behind) := by
  induction before with
  | nil =>
    have here : (mark :: more).isPrefixOf (mark :: (more ++ behind)) = true :=
      List.isPrefixOf_iff_prefix.mpr (List.prefix_append (mark :: more) behind)
    rw [List.nil_append, List.cons_append]
    unfold cut
    rw [if_pos here]
    show some ([], (mark :: more ++ behind).drop (mark :: more).length) = _
    rw [List.drop_left]
  | cons c before ih =>
    have hc : (mark == c) = false := beq_eq_false_iff_ne.mpr fun hc => h (hc ▸ List.mem_cons_self)
    rw [List.cons_append]
    unfold cut
    rw [List.isPrefixOf_cons_cons, hc, ih fun hm => h (List.mem_cons_of_mem _ hm)]
    rfl

end Text

namespace Plain
variable {s : String} (h : Plain s)
include h

theorem equals : '=' ∉ s.toList := fun hm => (h _ hm).2.1 rfl
theorem bang : '!' ∉ s.toList := fun hm => (h _ hm).2.2.1 rfl
theorem blank : ∀ c ∈ s.toList, Text.isBlank c = false := fun c hc => (h c hc).2.2.2

end Plain

/-- The text has no comma and no blank. -/
def Solid (s : String) : Prop := ∀ c ∈ s.toList, c ≠ ',' ∧ Text.isBlank c = false

instance (s : String) : Decidable (Solid s) := List.decidableBAll _ s.toList

theorem Plain.solid {s : String} (h : Plain s) : Solid s := fun c hc => ⟨(h c hc).1, h.blank c hc⟩

theorem Solid.append {s t : String} (hs : Solid s) (ht : Solid t) : Solid (s ++ t) := by
  intro c hc
  rw [String.toList_append, List.mem_append] at hc
  exact hc.elim (hs c) (ht c)

/-! ## Reading a selector -/

namespace Selector
variable {key value : String}

theorem plain_toList (h : Plain key) : plain key.toList = key := by
  unfold plain
  rw [Text.trim_of_forall h.blank, String.ofList_toList]

/-- What stands between key and value may be several equals signs. -/
theorem requirement_equals (hk : Plain key) (hv : Plain value) (n : Nat) :
    requirement (key.toList ++ '=' :: (List.replicate n '=' ++ value.toList)) = .equals key value := by
  have bang : '!' ∉ key.toList ++ '=' :: (List.replicate n '=' ++ value.toList) := by
    rw [List.mem_append, List.mem_cons, List.mem_append]
    rintro (hm | hm | hm | hm)
    · exact hk.bang hm
    · cases hm
    · cases List.eq_of_mem_replicate hm
    · exact hv.bang hm
  have solid : ∀ c ∈ List.replicate n '=' ++ value.toList, Text.isBlank c = false := by
    intro c hc
    rcases List.mem_append.mp hc with hc | hc
    · rw [List.eq_of_mem_replicate hc]
      rfl
    · exact hv.blank c hc
  have marks : ∀ c ∈ List.replicate n '=', decide (c = '=') = true := fun c hc => decide_eq_true (List.eq_of_mem_replicate hc)
  have rest : ∀ c ∈ value.toList, decide (c = '=') = false := fun c hc => decide_eq_false (hv c hc).2.1
  have first : Text.cut ['='] (key.toList ++ '=' :: (List.replicate n '=' ++ value.toList)) =
      some (key.toList, List.replicate n '=' ++ value.toList) := Text.cut_append hk.equals [] _
  unfold requirement
  rw [Text.cut_of_not_mem bang, first]
  dsimp only
  rw [plain_toList hk, Text.trim_of_forall solid, List.dropWhile_append_of_pos marks, Text.dropWhile_of_forall rest,
    String.ofList_toList]

theorem requirement_present (hk : Plain key) : requirement key.toList = .present key := by
  unfold requirement
  rw [Text.cut_of_not_mem hk.bang, Text.cut_of_not_mem hk.equals]
  dsimp only
  split
  · rename_i cs hc
    exact absurd (hc ▸ List.mem_cons_self) hk.bang
  · rw [String.ofList_toList]

theorem ofParts_append (a b : List (List Char)) : ofParts (a ++ b) = ofParts a ++ ofParts b := by
  unfold ofParts
  rw [List.map_append, List.filter_append, List.map_append]

/-- A selector with a comma asks for what both sides ask for. -/
theorem requirements_append (a b : String) : requirements (a ++ "," ++ b) = requirements a ++ requirements b := by
  unfold requirements
  rw [String.toList_append, String.toList_append, show ",".toList = [','] from rfl, List.append_assoc,
    List.singleton_append, Text.pieces_append, ofParts_append]

/-- A text without commas and blanks asks for one thing, unless it is empty. -/
theorem requirements_of_solid {s : String} (h : Solid s) (filled : s ≠ "") : requirements s = [requirement s.toList] := by
  have comma : ',' ∉ s.toList := fun hm => (h _ hm).1 rfl
  have part : s.toList.isEmpty = false := by
    rw [List.isEmpty_eq_false_iff]
    exact fun hn => filled (String.toList_eq_nil_iff.mp hn)
  unfold requirements ofParts
  rw [Text.pieces_of_not_mem comma, List.map_singleton, Text.trim_of_forall fun c hc => (h c hc).2,
    List.filter_cons_of_pos (by rw [part]; rfl), List.filter_nil, List.map_singleton]

theorem requirements_equals (hk : Plain key) (hv : Plain value) : requirements (key ++ "=" ++ value) = [.equals key value] := by
  have solid : Solid (key ++ "=" ++ value) := (hk.solid.append (by decide)).append hv.solid
  rw [requirements_of_solid solid (by simp), String.toList_append, String.toList_append, List.append_assoc]
  exact congrArg (fun q => [q]) (requirement_equals hk hv 0)

theorem requirements_present (hk : Plain key) (filled : key ≠ "") : requirements key = [.present key] := by
  rw [requirements_of_solid hk.solid filled, requirement_present hk]

end Selector

/-! ## The selectors of a configuration -/

namespace Config
variable {c : Config}

/-- The texts of the configuration are plain, and there is a component label. -/
structure Legible (c : Config) : Prop where
  managedBy : Plain c.managedBy
  componentLabel : Plain c.componentLabel
  kindLabel : Plain c.kindLabel
  filled : c.componentLabel ≠ ""

theorem plain_managedByLabel : Plain managedByLabel := by decide +kernel

theorem Legible.requirements_managedSelector (h : c.Legible) :
    Selector.requirements c.managedSelector = [.equals managedByLabel c.managedBy, .present c.componentLabel] := by
  unfold managedSelector
  rw [Selector.requirements_append, Selector.requirements_equals plain_managedByLabel h.managedBy,
    Selector.requirements_present h.componentLabel h.filled]
  rfl

/-- The selector of what is managed goes by two labels. -/
theorem Legible.selects_managedSelector (h : c.Legible) (labels : Labels) : Selector.selects c.managedSelector labels = true ↔
    labels.get? managedByLabel = some c.managedBy ∧ ∃ name, labels.get? c.componentLabel = some name := by
  unfold Selector.selects
  rw [h.requirements_managedSelector]
  simp [Requirement.holds, SortedMap.contains, Option.isSome_iff_exists]

/-- The selector of a kind is read as it is meant. -/
def Reads (c : Config) (kind : String) : Prop := Selector.requirements (c.kindSelector kind) =
  [.equals managedByLabel c.managedBy, .present c.componentLabel, .equals c.kindLabel kind]

instance (c : Config) (kind : String) : Decidable (c.Reads kind) := inferInstanceAs (Decidable (_ = _))

/-- The selector of a kind asks for what is managed, and for the kind. -/
theorem kindSelector_eq (c : Config) (kind : String) :
    c.kindSelector kind = c.managedSelector ++ "," ++ (c.kindLabel ++ "=" ++ kind) := by
  unfold kindSelector
  simp only [String.append_assoc]

theorem Legible.reads (h : c.Legible) {kind : String} (hk : Plain kind) : c.Reads kind := by
  unfold Reads
  rw [kindSelector_eq, Selector.requirements_append, h.requirements_managedSelector, Selector.requirements_equals h.kindLabel hk]
  rfl

/-- The configuration is accepted, and its texts are plain. -/
structure Sound (c : Config) : Prop where
  valid : c.validate = .ok ()
  managedBy : Plain c.managedBy
  componentLabel : Plain c.componentLabel
  kindLabel : Plain c.kindLabel

theorem Sound.legible (h : c.Sound) : c.Legible :=
  ⟨h.managedBy, h.componentLabel, h.kindLabel, (validate_eq_ok_iff.mp h.valid).componentLabel⟩

end Config

/-! ## Ownership labels -/

namespace Ownership
variable {σ : Type} {config : Config}

/-- The object carries the labels of a component of the kind. -/
structure Marks (config : Config) (kind : ComponentKind) (o : Object) : Prop where
  managed : o.label? managedByLabel = some config.managedBy
  named : ∃ name, o.label? config.componentLabel = some name
  kind : o.label? config.kindLabel = some kind

/-- The selector of a kind selects what is marked as of the kind. -/
theorem selects_kindSelector_iff {kind : ComponentKind} (h : config.Reads kind) (o : Object) :
    Selector.selects (config.kindSelector kind) o.metadata.labelMap = true ↔ Marks config kind o := by
  unfold Selector.selects
  rw [h]
  simp only [List.all_cons, List.all_nil, Requirement.holds, Bool.and_true, Bool.and_eq_true, beq_iff_eq, SortedMap.contains,
    Option.isSome_iff_exists]
  constructor
  · rintro ⟨managed, named, kind⟩
    exact ⟨managed, named, kind⟩
  · rintro ⟨managed, named, kind⟩
    exact ⟨managed, named, kind⟩

theorem Marks.selected (h : config.Sound) {kind : ComponentKind} {o : Object} (hm : Marks config kind o) :
    Selector.selects config.managedSelector o.metadata.labelMap = true :=
  (h.legible.selects_managedSelector _).mpr ⟨hm.managed, hm.named⟩

theorem labelMap_stamp (config : Config) (c : Component σ) (o : Object) :
    (stamp config c o).metadata.labelMap = o.metadata.labelMap.insertAll (entries config c) := rfl

/-- Usable configurations label under keys that differ. -/
theorem nodup_keys_entries (usable : config.Usable) (c : Component σ) : ((entries config c).map (·.1)).Nodup := usable.distinct

/-- A stamped object carries the labels that are written. -/
theorem label?_stamp (valid : config.validate = .ok ()) (c : Component σ) (o : Object) :
    ∀ l ∈ entries config c, (stamp config c o).label? l.1 = some l.2 := by
  intro l hl
  unfold Object.label?
  rw [labelMap_stamp]
  exact SortedMap.get?_insertAll_of_mem _ (nodup_keys_entries (Config.validate_eq_ok_iff.mp valid) c) hl

/-- What carries the labels of a component is marked as of its kind. -/
theorem marks_of_labels {c : Component σ} {o : Object} (h : ∀ l ∈ entries config c, o.label? l.1 = some l.2) :
    Marks config c.kind o :=
  ⟨h (managedByLabel, config.managedBy) (by simp [entries]), ⟨c.name, h (config.componentLabel, c.name) (by simp [entries])⟩,
    h (config.kindLabel, c.kind) (by simp [entries])⟩

/-- Stamping an object marks it. -/
theorem marks_stamp (valid : config.validate = .ok ()) (c : Component σ) (o : Object) : Marks config c.kind (stamp config c o) :=
  marks_of_labels (label?_stamp valid c o)

theorem key_stamp (config : Config) (c : Component σ) (o : Object) : (stamp config c o).key = o.key := rfl

end Ownership

/-- The component leaves the name, the namespace and the ownership labels of its object alone. -/
structure ObjectView.Respects (config : Config) (v : ObjectView) : Prop where
  name : ∀ o d, v.shape o = .ok d → d.metadata.name = o.metadata.name
  ns? : ∀ o d, v.shape o = .ok d → d.metadata.ns? = o.metadata.ns?
  labels : ∀ o d, v.shape o = .ok d →
    ∀ l ∈ [managedByLabel, config.componentLabel, config.kindLabel], d.label? l = o.label? l

theorem ObjectView.Respects.key {config : Config} {v : ObjectView} (h : v.Respects config) {o d : Object}
    (hd : v.shape o = .ok d) : d.key = o.key := by
  unfold Object.key
  rw [h.name o d hd, h.ns? o d hd]

theorem Ownership.Marks.shaped {config : Config} {v : ObjectView} (h : v.Respects config) {kind : ComponentKind} {o d : Object}
    (hd : v.shape o = .ok d) (hm : Marks config kind o) : Marks config kind d := by
  have same := h.labels o d hd
  obtain ⟨name, hn⟩ := hm.named
  refine ⟨?_, ⟨name, ?_⟩, ?_⟩
  · rw [same _ (by simp), hm.managed]
  · rw [same _ (by simp), hn]
  · rw [same _ (by simp), hm.kind]

end Converge
