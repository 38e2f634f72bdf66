import Converge.Config

/-!
# Which settings are accepted

* `Says` : a text is a word but for blanks around it; `says_iff_trim`. `Config.readSwitch_eq_ok_iff`: switches are read so.
* `Setting.text` : what is looked up for a setting, over its default. `Setting.Right` : what is asked of it; `Setting.complaint` : how
  it is refused. `Setting.FirstWrong` : it is the first one, in the order of the checks, that is not as it is asked to be.
* `Config.Usable` : no text of a configuration is empty, and its label keys differ; `validate_cases`: validation refuses the first
  wrong setting or accepts what is usable.
* `Config.Overlays` : a configuration is the defaults with settings over them; `ofLookup_eq_ok_iff`, `ofLookup_eq_error_iff`: which
  lookups make which configuration, and how the others are refused.
-/

namespace Converge

set_option autoImplicit false

/-! ## Blanks around text -/

namespace Text

theorem dropWhile_of_forall {p : Char → Bool} {cs : List Char} (h : ∀ c ∈ cs, p c = false) : cs.dropWhile p = cs := by
  cases cs with
  | nil => rfl
  | cons c cs => rw [List.dropWhile_cons_of_neg (Bool.eq_false_iff.mp (h c List.mem_cons_self))]

theorem trim_of_forall {cs : List Char} (h : ∀ c ∈ cs, isBlank c = false) : trim cs = cs := by
  unfold trim trimStart trimEnd
  rw [dropWhile_of_forall h, dropWhile_of_forall fun c hc => h c (List.mem_reverse.mp hc), List.reverse_reverse]

/-- Blanks are dropped up to the first character that is none. -/
theorem dropWhile_blanks {before word : List Char} (after : List Char) (blank : ∀ c ∈ before, isBlank c = true)
    (filled : word ≠ []) (solid : ∀ c ∈ word, isBlank c = false) :
    (before ++ word ++ after).dropWhile isBlank = word ++ after := by
  rw [List.append_assoc, List.dropWhile_append_of_pos blank]
  cases word with
  | nil => exact absurd rfl filled
  | cons c word =>
    rw [List.cons_append, List.dropWhile_cons_of_neg (Bool.eq_false_iff.mp (solid c List.mem_cons_self))]

/-- What trimming leaves of a word with blanks around it is the word. -/
theorem trim_surrounded {before word after : List Char} (blank : ∀ c ∈ before ++ after, isBlank c = true) (filled : word ≠ [])
    (solid : ∀ c ∈ word, isBlank c = false) : trim (before ++ word ++ after) = word := by
  have first : ∀ c ∈ before, isBlank c = true := fun c hc => blank c (List.mem_append_left _ hc)
  have last : ∀ c ∈ after.reverse, isBlank c = true := fun c hc => blank c (List.mem_append_right _ (List.mem_reverse.mp hc))
  unfold trim trimStart trimEnd
  rw [dropWhile_blanks after first filled solid, List.reverse_append, ← List.append_nil (after.reverse ++ word.reverse),
    dropWhile_blanks [] last (by simpa using filled) fun c hc => solid c (List.mem_reverse.mp hc), List.append_nil,
    List.reverse_reverse]

/-- A text is what trimming leaves of it, with blanks around. -/
theorem exists_trim (cs : List Char) : ∃ before after, cs = before ++ trim cs ++ after ∧ ∀ c ∈ before ++ after, isBlank c = true := by
  refine ⟨cs.takeWhile isBlank, ((trimStart cs).reverse.takeWhile isBlank).reverse, ?_, fun c hc => ?_⟩
  · have back : trim cs ++ ((trimStart cs).reverse.takeWhile isBlank).reverse = trimStart cs := by
      unfold trim trimEnd
      rw [← List.reverse_append, List.takeWhile_append_dropWhile, List.reverse_reverse]
    rw [List.append_assoc, back, trimStart, List.takeWhile_append_dropWhile]
  · rcases List.mem_append.mp hc with hc | hc
    · exact List.all_eq_true.mp List.all_takeWhile c hc
    · exact List.all_eq_true.mp List.all_takeWhile c (List.mem_reverse.mp hc)

end Text

/-- The text is the word, but for blanks around it. -/
def Says (text word : String) : Prop :=
  ∃ before after : List Char, text.toList = before ++ word.toList ++ after ∧ ∀ c ∈ before ++ after, Text.isBlank c = true

theorem says_iff_trim {text word : String} (filled : word.toList ≠ []) (solid : ∀ c ∈ word.toList, Text.isBlank c = false) :
    Says text word ↔ Text.trim text.toList = word.toList := by
  constructor
  · rintro ⟨before, after, htext, blank⟩
    rw [htext, Text.trim_surrounded blank filled solid]
  · intro h
    obtain ⟨before, after, htext, blank⟩ := Text.exists_trim text.toList
    exact ⟨before, after, h ▸ htext, blank⟩

theorem says_true_iff {text : String} : Says text "true" ↔ Text.trim text.toList = "true".toList :=
  says_iff_trim (by decide) (by simp [Text.isBlank])

theorem says_false_iff {text : String} : Says text "false" ↔ Text.trim text.toList = "false".toList :=
  says_iff_trim (by decide) (by simp [Text.isBlank])

/-! ## What is asked of settings -/

namespace Setting

/-- The text of a setting that is not looked up. -/
def default : Setting → String
  | managedBy => "juggler"
  | componentLabel => "juggler.dev/component"
  | kindLabel => "juggler.dev/component-kind"
  | fieldManager => "juggler-controller"
  | honorKeep => "true"

/-- The text of a setting: what is looked up, or else the default. -/
def text (lookup : String → Option String) (s : Setting) : String := (lookup s.variable).getD s.default

variable (text : Setting → String)

/-- What is asked of the text of a setting. -/
def Right : Setting → Prop
  | honorKeep => Says (text honorKeep) "true" ∨ Says (text honorKeep) "false"
  | managedBy => text managedBy ≠ ""
  | componentLabel => text componentLabel ≠ "" ∧ text componentLabel ≠ managedByLabel
  | kindLabel => text kindLabel ≠ "" ∧ text kindLabel ≠ managedByLabel ∧ text kindLabel ≠ text componentLabel
  | fieldManager => text fieldManager ≠ ""

/-- How a setting is refused. -/
def complaint : Setting → String
  | honorKeep => "expected true or false, got " ++ Text.quoted (text honorKeep)
  | managedBy => "must not be empty"
  | componentLabel =>
    if text componentLabel = "" then "must not be empty" else "must differ from " ++ managedByLabel
  | kindLabel =>
    if text kindLabel = "" then "must not be empty"
    else "must differ from " ++ managedByLabel ++ " and " ++ text componentLabel
  | fieldManager => "must not be empty"

/-- The place of a setting in the order of the checks. -/
def place : Setting → Nat
  | honorKeep => 0
  | managedBy => 1
  | componentLabel => 2
  | kindLabel => 3
  | fieldManager => 4

/-- The setting is wrong, and all that are checked before it are right. -/
structure FirstWrong (s : Setting) : Prop where
  wrong : ¬ s.Right text
  first : ∀ s' : Setting, s'.place < s.place → s'.Right text

variable {text}

theorem place_injective {s s' : Setting} (h : s.place = s'.place) : s = s' := by
  cases s <;> cases s' <;> simp_all [place]

theorem right_of_switch {b : Bool} (h : Says (text honorKeep) (if b then "true" else "false")) : honorKeep.Right text := by
  cases b
  · exact .inr h
  · exact .inl h

/-- If a setting is right and so are those before it, those before the next one are. -/
theorem right_before_next {t : Setting} (before : ∀ s : Setting, s.place < t.place → s.Right text) (right : t.Right text) :
    ∀ s : Setting, s.place < t.place + 1 → s.Right text := fun s lt =>
  (Nat.lt_succ_iff_lt_or_eq.mp lt).elim (before s) fun same => place_injective same ▸ right

/-- There is one first wrong setting at most. -/
theorem FirstWrong.unique {s s' : Setting} (h : FirstWrong text s) (h' : FirstWrong text s') : s = s' := by
  refine place_injective (Nat.le_antisymm ?_ ?_)
  · exact Nat.le_of_not_lt fun lt => h'.wrong (h.first s' lt)
  · exact Nat.le_of_not_lt fun lt => h.wrong (h'.first s lt)

end Setting

namespace Config

/-- The texts of the settings of a configuration. -/
def text (c : Config) : Setting → String
  | .managedBy => c.managedBy
  | .componentLabel => c.componentLabel
  | .kindLabel => c.kindLabel
  | .fieldManager => c.fieldManager
  | .honorKeep => if c.honorKeep then "true" else "false"

/-- No text of the configuration is empty, and the label keys differ. -/
structure Usable (c : Config) : Prop where
  managedBy : c.managedBy ≠ ""
  componentLabel : c.componentLabel ≠ ""
  kindLabel : c.kindLabel ≠ ""
  fieldManager : c.fieldManager ≠ ""
  distinct : [managedByLabel, c.componentLabel, c.kindLabel].Nodup

theorem right_honorKeep (c : Config) : Setting.honorKeep.Right c.text :=
  Setting.right_of_switch ⟨[], [], (List.append_nil _).symm, fun _ h => absurd h List.not_mem_nil⟩

theorem usable_iff_right {c : Config} : c.Usable ↔ ∀ s : Setting, s.Right c.text := by
  constructor
  · rintro ⟨h₁, h₂, h₃, h₄, h₅⟩ s
    simp only [List.nodup_cons, List.mem_cons, List.not_mem_nil, or_false, not_or] at h₅
    cases s with
    | managedBy => exact h₁
    | componentLabel => exact ⟨h₂, Ne.symm h₅.1.1⟩
    | kindLabel => exact ⟨h₃, Ne.symm h₅.1.2, Ne.symm h₅.2.1⟩
    | fieldManager => exact h₄
    | honorKeep => exact right_honorKeep c
  · intro h
    obtain ⟨filled, hc⟩ := h .componentLabel
    obtain ⟨filled', hk, hck⟩ := h .kindLabel
    refine ⟨h .managedBy, filled, filled', h .fieldManager, ?_⟩
    simp only [List.nodup_cons, List.mem_cons, List.not_mem_nil, or_false, not_or, not_false_eq_true, List.nodup_nil, and_true]
    exact ⟨⟨Ne.symm hc, Ne.symm hk⟩, Ne.symm hck⟩

/-! ## Validation -/

/-- Validation accepts a configuration whose settings are right, and refuses the first one that is wrong. -/
theorem validate_cases (c : Config) : (c.validate = .ok () ∧ ∀ s : Setting, s.Right c.text) ∨
    ∃ s : Setting, c.validate = .error (s.error (s.complaint c.text)) ∧ s.FirstWrong c.text := by
  have before₁ := Setting.right_before_next (t := .honorKeep) (fun _ lt => absurd lt (Nat.not_lt_zero _)) (right_honorKeep c)
  -- one case for each check, in their order: it fails, or the next ones are gone through
  unfold validate
  simp only [String.isEmpty_iff]
  by_cases h₁ : c.managedBy = ""
  · rw [if_pos h₁]
    exact .inr ⟨.managedBy, rfl, fun right => right h₁, before₁⟩
  rw [if_neg h₁]
  have before₂ := Setting.right_before_next (t := .managedBy) before₁ h₁
  by_cases h₂ : c.componentLabel = ""
  · have words : Setting.componentLabel.complaint c.text = "must not be empty" := if_pos h₂
    rw [if_pos h₂]
    exact .inr ⟨.componentLabel, words ▸ rfl, fun right => right.1 h₂, before₂⟩
  rw [if_neg h₂]
  by_cases h₃ : c.componentLabel = managedByLabel
  · have words : Setting.componentLabel.complaint c.text = "must differ from " ++ managedByLabel := if_neg h₂
    rw [if_pos h₃]
    exact .inr ⟨.componentLabel, words ▸ rfl, fun right => right.2 h₃, before₂⟩
  rw [if_neg h₃]
  have before₃ := Setting.right_before_next (t := .componentLabel) before₂ ⟨h₂, h₃⟩
  by_cases h₄ : c.kindLabel = ""
  · have words : Setting.kindLabel.complaint c.text = "must not be empty" := if_pos h₄
    rw [if_pos h₄]
    exact .inr ⟨.kindLabel, words ▸ rfl, fun right => right.1 h₄, before₃⟩
  rw [if_neg h₄]
  by_cases h₅ : c.kindLabel = managedByLabel ∨ c.kindLabel = c.componentLabel
  · have words : Setting.kindLabel.complaint c.text = "must differ from " ++ managedByLabel ++ " and " ++ c.componentLabel :=
      if_neg h₄
    rw [if_pos h₅]
    exact .inr ⟨.kindLabel, words ▸ rfl, fun right => h₅.elim right.2.1 right.2.2, before₃⟩
  rw [if_neg h₅]
  have before₄ := Setting.right_before_next (t := .kindLabel) before₃ ⟨h₄, not_or.mp h₅⟩
  by_cases h₆ : c.fieldManager = ""
  · rw [if_pos h₆]
    exact .inr ⟨.fieldManager, rfl, fun right => right h₆, before₄⟩
  rw [if_neg h₆]
  exact .inl ⟨rfl, fun s => Setting.right_before_next (t := .fieldManager) before₄ h₆ s (by cases s <;> decide)⟩

theorem validate_eq_ok_iff {c : Config} : c.validate = .ok () ↔ c.Usable := by
  rw [usable_iff_right]
  rcases validate_cases c with ⟨valid, right⟩ | ⟨s, refused, wrong⟩
  · exact ⟨fun _ => right, fun _ => valid⟩
  · refine ⟨fun valid => ?_, fun right => absurd (right s) wrong.wrong⟩
    cases valid.symm.trans refused

/-! ## Lookups -/

/-- A switch is on, off, or refused with what it said. -/
theorem readSwitch_cases (s : Setting) (value : String) : (readSwitch s value = .ok true ∧ Says value "true") ∨
    (readSwitch s value = .ok false ∧ Says value "false") ∨
    (readSwitch s value = .error (s.error ("expected true or false, got " ++ Text.quoted value)) ∧
      ¬ (Says value "true" ∨ Says value "false")) := by
  rw [says_true_iff, says_false_iff]
  unfold readSwitch
  dsimp only
  by_cases on : Text.trim value.toList = "true".toList
  · rw [if_pos on]
    exact .inl ⟨rfl, on⟩
  rw [if_neg on]
  by_cases off : Text.trim value.toList = "false".toList
  · rw [if_pos off]
    exact .inr (.inl ⟨rfl, off⟩)
  · rw [if_neg off]
    exact .inr (.inr ⟨rfl, not_or.mpr ⟨on, off⟩⟩)

theorem not_says_false {value : String} (h : Says value "true") : ¬ Says value "false" := fun h' =>
  absurd ((says_true_iff.mp h).symm.trans (says_false_iff.mp h')) (by decide)

theorem readSwitch_eq_ok_iff {s : Setting} {value : String} {b : Bool} :
    readSwitch s value = .ok b ↔ Says value (if b then "true" else "false") := by
  rcases readSwitch_cases s value with ⟨read, on⟩ | ⟨read, off⟩ | ⟨read, neither⟩ <;> rw [read] <;> cases b
  · exact iff_of_false (by simp) (not_says_false on)
  · exact iff_of_true rfl on
  · exact iff_of_true rfl off
  · exact iff_of_false (by simp) fun on => not_says_false on off
  · exact iff_of_false (by simp) fun off => neither (.inr off)
  · exact iff_of_false (by simp) fun on => neither (.inl on)

/-- The configuration of these texts. -/
def ofTexts (text : Setting → String) (honorKeep : Bool) : Config where
  managedBy := text .managedBy
  componentLabel := text .componentLabel
  kindLabel := text .kindLabel
  fieldManager := text .fieldManager
  honorKeep

/-- The configuration is the defaults with the settings over them. -/
structure Overlays (text : Setting → String) (c : Config) : Prop where
  managedBy : c.managedBy = text .managedBy
  componentLabel : c.componentLabel = text .componentLabel
  kindLabel : c.kindLabel = text .kindLabel
  fieldManager : c.fieldManager = text .fieldManager
  eventAction : c.eventAction = "Reconcile"
  honorKeep : Says (text .honorKeep) (if c.honorKeep then "true" else "false")

theorem overlays_iff {text : Setting → String} {c : Config} : c.Overlays text ↔
    c = ofTexts text c.honorKeep ∧ Says (text .honorKeep) (if c.honorKeep then "true" else "false") := by
  constructor
  · rintro ⟨h₁, h₂, h₃, h₄, h₅, honorKeep⟩
    refine ⟨?_, honorKeep⟩
    rw [ofTexts, ← h₁, ← h₂, ← h₃, ← h₄, ← h₅]
  · rintro ⟨h, honorKeep⟩
    rw [h]
    exact ⟨rfl, rfl, rfl, rfl, rfl, honorKeep⟩

theorem overlay_eq (lookup : String → Option String) : overlay (fun s => lookup s.variable) =
    (readSwitch .honorKeep (Setting.text lookup .honorKeep)).map (ofTexts (Setting.text lookup)) := by
  unfold overlay Setting.text
  dsimp only
  cases lookup Setting.honorKeep.variable with
  | none => rfl
  | some value => cases readSwitch .honorKeep value <;> rfl

section
variable {text : Setting → String} {honorKeep : Bool}

/-- A configuration is as right as the texts that it is made of. -/
theorem right_ofTexts (readable : Setting.honorKeep.Right text) (s : Setting) :
    s.Right (ofTexts text honorKeep).text ↔ s.Right text := by
  cases s with
  | honorKeep => exact iff_of_true (right_honorKeep _) readable
  | _ => exact Iff.rfl

theorem firstWrong_ofTexts (readable : Setting.honorKeep.Right text) {s : Setting} (h : s.FirstWrong (ofTexts text honorKeep).text) :
    s.FirstWrong text ∧ s.complaint (ofTexts text honorKeep).text = s.complaint text := by
  refine ⟨⟨fun right => h.wrong ((right_ofTexts readable s).mpr right), fun s' lt =>
    (right_ofTexts readable s').mp (h.first s' lt)⟩, ?_⟩
  cases s with
  | honorKeep => exact absurd (right_honorKeep _) h.wrong
  | _ => rfl

end

variable (lookup : String → Option String)

theorem ofLookup_cases : (∃ c, ofLookup lookup = .ok c ∧ c.Overlays (Setting.text lookup) ∧ c.Usable) ∨
    ∃ s : Setting, ofLookup lookup = .error (s.error (s.complaint (Setting.text lookup))) ∧ s.FirstWrong (Setting.text lookup) := by
  unfold ofLookup
  rw [overlay_eq]
  by_cases readable : ∃ b, readSwitch .honorKeep (Setting.text lookup .honorKeep) = .ok b
  · obtain ⟨b, hb⟩ := readable
    have switch := readSwitch_eq_ok_iff.mp hb
    rw [hb]
    change (∃ c, ((ofTexts (Setting.text lookup) b).validate >>= fun _ => pure _) = _ ∧ _) ∨
      ∃ s, ((ofTexts (Setting.text lookup) b).validate >>= fun _ => pure _) = _ ∧ _
    rcases validate_cases (ofTexts (Setting.text lookup) b) with ⟨valid, right⟩ | ⟨s, refused, wrong⟩
    · rw [valid]
      exact .inl ⟨_, rfl, overlays_iff.mpr ⟨rfl, switch⟩, usable_iff_right.mpr right⟩
    · obtain ⟨first, words⟩ := firstWrong_ofTexts (Setting.right_of_switch switch) wrong
      rw [refused, words]
      exact .inr ⟨s, rfl, first⟩
  · rcases readSwitch_cases .honorKeep (Setting.text lookup .honorKeep) with ⟨read, -⟩ | ⟨read, -⟩ | ⟨read, neither⟩
    · exact absurd ⟨_, read⟩ readable
    · exact absurd ⟨_, read⟩ readable
    · rw [read]
      exact .inr ⟨.honorKeep, rfl, neither, fun s lt => absurd lt (Nat.not_lt_zero _)⟩

/-- What is made of settings is refused by none of the checks. -/
theorem Overlays.right {text : Setting → String} {c : Config} (h : c.Overlays text) (usable : c.Usable) (s : Setting) :
    s.Right text := by
  obtain ⟨hc, switch⟩ := overlays_iff.mp h
  rw [hc] at usable
  exact (right_ofTexts (Setting.right_of_switch switch) s).mp (usable_iff_right.mp usable s)

theorem Overlays.unique {text : Setting → String} {c d : Config} (hc : c.Overlays text) (hd : d.Overlays text) : c = d := by
  obtain ⟨ec, sc⟩ := overlays_iff.mp hc
  obtain ⟨ed, sd⟩ := overlays_iff.mp hd
  have same : Except.ok c.honorKeep = Except.ok d.honorKeep :=
    (readSwitch_eq_ok_iff (s := .honorKeep).mpr sc).symm.trans (readSwitch_eq_ok_iff.mpr sd)
  rw [ec, ed, Except.ok.inj same]

variable {lookup}

/-- A configuration is made of settings iff it is the defaults with them over it, and usable. -/
theorem ofLookup_eq_ok_iff {c : Config} : ofLookup lookup = .ok c ↔ c.Overlays (Setting.text lookup) ∧ c.Usable := by
  rcases ofLookup_cases lookup with ⟨d, made, overlays, usable⟩ | ⟨s, refused, wrong⟩
  · rw [made, Except.ok.injEq]
    refine ⟨fun h => h ▸ ⟨overlays, usable⟩, fun h => overlays.unique h.1⟩
  · rw [refused]
    exact iff_of_false (by simp) fun h => wrong.wrong (h.1.right h.2 s)

/-- Otherwise the error names the first setting that is wrong. -/
theorem ofLookup_eq_error_iff {e : Error} : ofLookup lookup = .error e ↔
    ∃ s : Setting, s.FirstWrong (Setting.text lookup) ∧ e = .config (s.complaint (Setting.text lookup)) (some s.variable) := by
  rcases ofLookup_cases lookup with ⟨d, made, overlays, usable⟩ | ⟨s, refused, wrong⟩
  · rw [made]
    exact iff_of_false (by simp) fun ⟨s, wrong, _⟩ => wrong.wrong (overlays.right usable s)
  · rw [refused, Except.error.injEq]
    constructor
    · rintro rfl
      exact ⟨s, wrong, rfl⟩
    · rintro ⟨s', wrong', rfl⟩
      rw [wrong.unique wrong']
      rfl

end Config

end Converge
