import Converge.Codec.Basic
import Converge.Proofs.PrintedTimes

/-!
# Laws of codecs

* `Json.beq` goes through lookups, insertions and objects: `get?_beq`, `ofEntries_beq`.
* `Codec.Kept c a` : what is written for `a` is read as `a`. `Codec.Rereads c a` : it is read as something that is written alike.
* `Codec.Neat` : what was read from a written form is kept.
* `Codec.Lawful` : whatever was read is reread from its written form, is not written as `null` unless `null` was read, and
  values that are equal as JSON are read as values whose written forms are. `Codec.Injective` : the written form tells values
  apart, so that rereading keeps them (`Injective.kept`).
* The codecs of the plain types are neat and lawful.
-/

namespace Converge

set_option autoImplicit false

/-! ## Equal JSON values -/

namespace Json

theorem beq_def (v w : Json) : (v == w) = beq v w := rfl

instance : EquivBEq Json where
  symm {v w} h := (beq_symm w v).trans h
  trans {u v w} h h' := beq_trans u v w h h'

theorem eq_null_of_beq {v : Json} (h : (null == v) = true) : v = null := by
  cases v <;> simp_all [beq_def, beq]

theorem eq_string_of_beq {s : String} {v : Json} (h : (string s == v) = true) : v = string s := by
  cases v <;> simp_all [beq_def, beq]

theorem eq_bool_of_beq {b : Bool} {v : Json} (h : (bool b == v) = true) : v = bool b := by
  cases v <;> simp_all [beq_def, beq]

theorem eq_int_of_beq {n : Int} {v : Json} (h : (int n == v) = true) : v = int n := by
  cases v <;> simp_all [beq_def, beq]

theorem exists_array_of_beq {vs : List Json} {v : Json} (h : (array vs == v) = true) :
    ∃ ws, v = array ws ∧ beqItems vs ws = true := by
  cases v <;> simp_all [beq_def, beq]

theorem exists_object_of_beq {es : List (String × Json)} {v : Json} (h : (object es == v) = true) :
    ∃ es', v = object es' ∧ beqEntries es es' = true := by
  cases v <;> simp_all [beq_def, beq]

theorem get?_beqEntries {es es' : List (String × Json)} (h : beqEntries es es' = true) (k : String) :
    (Assoc.get? k es == Assoc.get? k es') = true := by
  induction es generalizing es' with
  | nil => cases es' with
    | nil => rfl
    | cons _ _ => cases h
  | cons e es ih => cases es' with
    | nil => cases h
    | cons e' es' =>
      obtain ⟨k₁, v⟩ := e
      obtain ⟨k₂, v'⟩ := e'
      simp only [beqEntries, Bool.and_eq_true, beq_iff_eq] at h
      obtain ⟨⟨rfl, hv⟩, hrest⟩ := h
      simp only [Assoc.get?]
      split
      · exact hv
      · exact ih hrest

theorem entries_beq {v w : Json} (h : (v == w) = true) : beqEntries v.entries w.entries = true := by
  cases v with
  | object es =>
    obtain ⟨es', rfl, hes⟩ := exists_object_of_beq h
    exact hes
  | _ => cases w <;> simp_all [beq_def, beq, entries, beqEntries]

theorem get?_beq {v w : Json} (h : (v == w) = true) (k : String) : (v.get? k == w.get? k) = true :=
  get?_beqEntries (entries_beq h) k

theorem insert_beqEntries {es es' : List (String × Json)} (h : beqEntries es es' = true) {v v' : Json} (hv : (v == v') = true)
    (k : String) : beqEntries (Assoc.insert k v es) (Assoc.insert k v' es') = true := by
  induction es generalizing es' with
  | nil => cases es' with
    | nil => simpa [Assoc.insert, beqEntries, ← beq_def] using hv
    | cons _ _ => cases h
  | cons e es ih => cases es' with
    | nil => cases h
    | cons e' es' =>
      obtain ⟨k₁, w⟩ := e
      obtain ⟨k₂, w'⟩ := e'
      have h' := h
      simp only [beqEntries, Bool.and_eq_true, beq_iff_eq] at h'
      obtain ⟨⟨rfl, hw⟩, hrest⟩ := h'
      simp only [Assoc.insert]
      split
      · simpa [beqEntries, hrest, ← beq_def] using hv
      · split
        · simpa [beqEntries, hrest, hw, ← beq_def] using hv
        · simpa [beqEntries, hw] using ih hrest

theorem ofEntries_beq {es es' : List (String × Json)} (h : beqEntries es es' = true) :
    (ofEntries es == ofEntries es') = true := by
  suffices hfold : ∀ m m', beqEntries m m' = true →
      beqEntries (es.foldl (fun m e => Assoc.insert e.1 e.2 m) m) (es'.foldl (fun m e => Assoc.insert e.1 e.2 m) m') = true from
    hfold [] [] rfl
  induction es generalizing es' with
  | nil => cases es' with
    | nil => exact fun _ _ h => h
    | cons _ _ => cases h
  | cons e es ih => cases es' with
    | nil => cases h
    | cons e' es' =>
      obtain ⟨k₁, w⟩ := e
      obtain ⟨k₂, w'⟩ := e'
      simp only [beqEntries, Bool.and_eq_true, beq_iff_eq] at h
      obtain ⟨⟨rfl, hw⟩, hrest⟩ := h
      exact fun m m' hm => ih hrest _ _ (insert_beqEntries hm hw _)

end Json

namespace Codec

variable {α : Type} {c : Codec α}

/-! ## Laws -/

/-- What is written for a value is read as the value. -/
def Kept (c : Codec α) (a : α) : Prop := c.read (c.write a) = .ok a

/-- What is written for a value is read as something that is written alike. -/
def Rereads (c : Codec α) (a : α) : Prop := ∃ b, c.read (c.write a) = .ok b ∧ c.write b = c.write a

structure Lawful (c : Codec α) : Prop where
  rereads : ∀ {v a}, c.read v = .ok a → c.Rereads a
  /-- Only `null` is read as what is written as `null`. -/
  firm : ∀ {v a}, c.read v = .ok a → c.write a = .null → v = .null
  congr : ∀ {v w a}, (v == w) = true → c.read v = .ok a → ∃ b, c.read w = .ok b ∧ (c.write a == c.write b) = true

/-- What was read from a written form is kept: nothing more is lost by writing again. -/
def Neat (c : Codec α) : Prop := ∀ a b, c.read (c.write a) = .ok b → c.Kept b

/-- Different values are written differently. -/
def Injective (c : Codec α) : Prop := ∀ a b, (c.write a == c.write b) = true → a = b

/-- Values that are equal as JSON are read alike. -/
def Steady (c : Codec α) : Prop := ∀ {v w a}, (v == w) = true → c.read v = .ok a → c.read w = .ok a

theorem Kept.rereads {a : α} (h : c.Kept a) : c.Rereads a := ⟨a, h, rfl⟩

theorem Stable.neat (h : c.Stable) : c.Neat := fun _ _ hb => h _ _ hb

theorem Injective.kept {a : α} (h : c.Injective) (ha : c.Rereads a) : c.Kept a := by
  obtain ⟨b, hread, hwrite⟩ := ha
  obtain rfl : b = a := h b a (by rw [hwrite]; exact Json.beq_refl _)
  exact hread

theorem Steady.congr (h : c.Steady) {v w : Json} {a : α} (hv : (v == w) = true) (ha : c.read v = .ok a) :
    ∃ b, c.read w = .ok b ∧ (c.write a == c.write b) = true :=
  ⟨a, h hv ha, Json.beq_refl _⟩

/-! ## Plain types -/

theorem string_kept (s : String) : string.Kept s ∧ string.write s ≠ .null := ⟨rfl, nofun⟩

theorem bool_kept (b : Bool) : bool.Kept b ∧ bool.write b ≠ .null := ⟨rfl, nofun⟩

theorem string_lawful : string.Lawful where
  rereads _ := Kept.rereads rfl
  firm _ h := by cases h
  congr := Steady.congr fun {v w a} hv ha => by
    cases v with
    | string s => rw [Json.eq_string_of_beq hv, ha]
    | _ => cases ha

theorem string_injective : string.Injective := fun a b h => by
  simpa [string] using (Json.eq_string_of_beq h).symm

theorem bool_lawful : bool.Lawful where
  rereads _ := Kept.rereads rfl
  firm _ h := by cases h
  congr := Steady.congr fun {v w a} hv ha => by
    cases v with
    | bool b => rw [Json.eq_bool_of_beq hv, ha]
    | _ => cases ha

theorem bool_injective : bool.Injective := fun a b h => by
  simpa [bool] using (Json.eq_bool_of_beq h).symm

theorem int64_lawful : int64.Lawful where
  rereads h := Kept.rereads (stable_int64 _ _ h)
  firm _ h := by cases h
  congr := Steady.congr fun {v w a} hv ha => by
    cases v with
    | int n => rw [Json.eq_int_of_beq hv, ha]
    | _ => cases ha

theorem string_neat : string.Neat := stable_string.neat

theorem bool_neat : bool.Neat := stable_bool.neat

theorem json_neat : json.Neat := stable_json.neat

theorem int64_neat : int64.Neat := stable_int64.neat

theorem int64_injective : int64.Injective := fun a b h => by
  simpa [int64] using (Json.eq_int_of_beq h).symm

theorem json_lawful : json.Lawful where
  rereads _ := ⟨_, rfl, rfl⟩
  firm ha hnull := by cases ha; exact hnull
  congr hv ha := by cases ha; exact ⟨_, rfl, hv⟩

theorem instant_rereads {t : Instant} (h : t.hasDate = true) : (instant Instant.wholeSeconds).Rereads t := by
  refine ⟨t.shown, ?_, congrArg Json.string t.wholeSeconds_shown⟩
  simp only [instant, Instant.read_wholeSeconds, if_pos h]

theorem instant_neat : (instant Instant.wholeSeconds).Neat := by
  intro t u h
  have hwrite (t : Instant) : (instant Instant.wholeSeconds).write t = .string t.wholeSeconds := rfl
  rw [hwrite] at h
  by_cases hdate : t.hasDate = true
  · have hread : (instant Instant.wholeSeconds).read (.string t.wholeSeconds) = .ok t.shown := by
      simp only [instant, Instant.read_wholeSeconds, if_pos hdate]
    rw [hread] at h
    obtain rfl : t.shown = u := Except.ok.inj h
    rw [Kept, hwrite, t.wholeSeconds_shown]
    exact hread
  · have hread : (instant Instant.wholeSeconds).read (.string t.wholeSeconds) = .error (.here (.time .outOfRange)) := by
      simp only [instant, Instant.read_wholeSeconds, if_neg hdate]
    rw [hread] at h
    cases h

theorem instant_lawful : (instant Instant.wholeSeconds).Lawful where
  rereads {v a} ha := by
    cases v with
    | string s =>
      simp only [instant] at ha
      split at ha
      · rename_i t ht
        cases ha
        exact instant_rereads (Instant.hasDate_of_read ht)
      · cases ha
    | _ => cases ha
  firm _ h := by cases h
  congr := Steady.congr fun {v w a} hv ha => by
    cases v with
    | string s => rw [Json.eq_string_of_beq hv, ha]
    | _ => cases ha

/-! ## Lists -/

theorem exists_readItems_map_write {as : List α} (h : ∀ a ∈ as, c.Rereads a) (n : Nat) :
    ∃ bs, readItems c.read n (as.map c.write) = .ok bs ∧ bs.map c.write = as.map c.write := by
  induction as generalizing n with
  | nil => exact ⟨[], rfl, rfl⟩
  | cons a as ih =>
    obtain ⟨b, hread, hwrite⟩ := h a (List.mem_cons_self ..)
    obtain ⟨bs, hreads, hwrites⟩ := ih (fun b hb => h b (List.mem_cons_of_mem _ hb)) (n + 1)
    exact ⟨b :: bs, by simp only [List.map_cons, readItems, hread, hreads], by simp only [List.map_cons, hwrite, hwrites]⟩

theorem exists_readItems_of_beq (hc : c.Lawful) {vs ws : List Json} (h : Json.beqItems vs ws = true) {n : Nat} {as : List α}
    (ha : readItems c.read n vs = .ok as) :
    ∃ bs, readItems c.read n ws = .ok bs ∧ Json.beqItems (as.map c.write) (bs.map c.write) = true := by
  induction vs generalizing ws n as with
  | nil => cases ws with
    | nil => cases ha; exact ⟨[], rfl, rfl⟩
    | cons _ _ => cases h
  | cons v vs ih => cases ws with
    | nil => cases h
    | cons w ws =>
      simp only [Json.beqItems, Bool.and_eq_true] at h
      unfold readItems at ha
      split at ha
      · cases ha
      · rename_i a hv
        split at ha
        · cases ha
        · rename_i as' hvs
          cases ha
          obtain ⟨b, hw, hab⟩ := hc.congr h.1 hv
          obtain ⟨bs, hws, habs⟩ := ih h.2 hvs
          exact ⟨b :: bs, by simp only [readItems, hw, hws],
            by simpa only [List.map_cons, Json.beqItems, Bool.and_eq_true] using ⟨hab, habs⟩⟩

theorem list_lawful (hc : c.Lawful) : (list c).Lawful where
  rereads {v as} ha := by
    cases v with
    | array items =>
      have hitems : ∀ a ∈ as, c.Rereads a := by
        intro a hmem
        obtain ⟨w, -, hw⟩ := exists_mem_read_of_mem_readItems ha hmem
        exact hc.rereads hw
      obtain ⟨bs, hread, hwrite⟩ := exists_readItems_map_write hitems 0
      exact ⟨bs, hread, congrArg Json.array hwrite⟩
    | _ => cases ha
  firm _ h := by cases h
  congr {v w as} hv ha := by
    cases v with
    | array items =>
      obtain ⟨ws, rfl, hws⟩ := Json.exists_array_of_beq hv
      exact exists_readItems_of_beq hc hws ha
    | _ => cases ha

theorem list_neat (hc : c.Neat) : (list c).Neat := by
  intro as bs h
  have hkept : ∀ b ∈ bs, c.read (c.write b) = .ok b := by
    intro b hb
    obtain ⟨v, hv, hread⟩ := exists_mem_read_of_mem_readItems h hb
    obtain ⟨a, -, rfl⟩ := List.mem_map.1 hv
    exact hc a b hread
  exact readItems_map_write hkept 0

/-! ## Maps of texts -/

theorem readTexts_map (m : SortedMap String String) (es : List (String × String)) :
    readTexts m (es.map fun e => (e.1, .string e.2)) = .ok (m.insertAll es) := by
  induction es generalizing m with
  | nil => rfl
  | cons e es ih => exact ih _

theorem stringMap_kept (m : SortedMap String String) : stringMap.Kept m := by
  have h := readTexts_map .empty m.entries
  rw [SortedMap.insertAll_entries] at h
  exact h

theorem readTexts_beq {es es' : List (String × Json)} (h : Json.beqEntries es es' = true) {m r : SortedMap String String}
    (hr : readTexts m es = .ok r) : readTexts m es' = .ok r := by
  induction es generalizing es' m with
  | nil => cases es' with
    | nil => exact hr
    | cons _ _ => cases h
  | cons e es ih => cases es' with
    | nil => cases h
    | cons e' es' =>
      obtain ⟨k₁, v⟩ := e
      obtain ⟨k₂, v'⟩ := e'
      simp only [Json.beqEntries, Bool.and_eq_true, beq_iff_eq] at h
      obtain ⟨⟨rfl, hv⟩, hrest⟩ := h
      cases v with
      | string s =>
        rw [Json.eq_string_of_beq hv]
        exact ih hrest hr
      | _ => cases hr

theorem stringMap_neat : stringMap.Neat := fun _ m _ => stringMap_kept m

theorem stringMap_lawful : stringMap.Lawful where
  rereads _ := (stringMap_kept _).rereads
  firm _ h := by cases h
  congr := Steady.congr fun {v w a} hv ha => by
    cases v with
    | object es =>
      obtain ⟨es', rfl, hes⟩ := Json.exists_object_of_beq hv
      exact readTexts_beq hes ha
    | _ => cases ha

theorem stringMap_injective : stringMap.Injective := fun a b h => by
  have hread : stringMap.read (stringMap.write b) = .ok a := by
    obtain ⟨es', hes', hes⟩ := Json.exists_object_of_beq h
    rw [hes']
    exact readTexts_beq hes (stringMap_kept a)
  exact Except.ok.inj (hread.symm.trans (stringMap_kept b))

end Codec

end Converge
