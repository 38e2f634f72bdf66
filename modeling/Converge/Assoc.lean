/-!
# Ascending association lists

Lists of key and value pairs, kept in ascending order of the keys by `insert`.

* `Assoc.get?`, `Assoc.insert`, `Assoc.erase`; the equations `get?_insert_self`, `get?_insert_of_ne`, `get?_erase_of_ne`
  hold of every list, `get?_erase_self` of ascending ones. `get?_ofList`: of several entries for a key the last one counts.
* `Assoc.Ascending` says that the keys ascend strictly; `Ascending.insert` and `Ascending.erase` keep it.
* `SortedMap` is an ascending list with its proof; `SortedMap.ext_get?` says that what can be looked up determines it, and
  `SortedMap.get?_insertAll_of_mem` that entries with different keys are all there once they are inserted. `SortedMap.size_insert`,
  `SortedMap.size_erase`: how many entries there are.
-/

namespace Converge

set_option autoImplicit false

universe u v w
variable {κ : Type u} {β : Type v}

namespace Assoc

def get? [DecidableEq κ] (k : κ) : List (κ × β) → Option β
  | [] => none
  | (k', v) :: rest => if k = k' then some v else get? k rest

/-- The list with the value under the key, in place of an earlier one or before the first greater key. -/
def insert [DecidableEq κ] [Ord κ] (k : κ) (v : β) : List (κ × β) → List (κ × β)
  | [] => [(k, v)]
  | (k', v') :: rest =>
    if k = k' then (k, v) :: rest
    else if (compare k k').isLT then (k, v) :: (k', v') :: rest
    else (k', v') :: insert k v rest

/-- The list without the first entry under the key. -/
def erase [DecidableEq κ] (k : κ) : List (κ × β) → List (κ × β)
  | [] => []
  | (k', v) :: rest => if k = k' then rest else (k', v) :: erase k rest

/-- The list with the value under the key changed, if there is one. -/
def modify [DecidableEq κ] (k : κ) (f : β → β) : List (κ × β) → List (κ × β)
  | [] => []
  | (k', v) :: rest => if k = k' then (k', f v) :: rest else (k', v) :: modify k f rest

/-- The list with later entries inserted over earlier ones, in ascending order of the keys. -/
def ofList [DecidableEq κ] [Ord κ] (entries : List (κ × β)) : List (κ × β) :=
  entries.foldl (fun m e => insert e.1 e.2 m) []

section
variable [DecidableEq κ]

@[simp] theorem get?_nil (k : κ) : get? (β := β) k [] = none := rfl

@[simp] theorem get?_insert_self [Ord κ] (k : κ) (v : β) (m : List (κ × β)) : get? k (insert k v m) = some v := by
  induction m with
  | nil => simp [insert, get?]
  | cons e rest ih =>
    unfold insert
    split
    · simp [get?]
    · split
      · simp [get?]
      · rename_i h _; simp [get?, h, ih]

theorem get?_insert_of_ne [Ord κ] {k k' : κ} (h : k' ≠ k) (v : β) (m : List (κ × β)) :
    get? k' (insert k v m) = get? k' m := by
  induction m with
  | nil => simp [insert, get?, h]
  | cons e rest ih =>
    unfold insert
    split
    · rename_i he; simp [get?, ← he, h]
    · split
      · simp [get?, h]
      · simp [get?, ih]

theorem get?_erase_of_ne {k k' : κ} (h : k' ≠ k) (m : List (κ × β)) : get? k' (erase k m) = get? k' m := by
  induction m with
  | nil => rfl
  | cons e rest ih =>
    unfold erase
    split
    · rename_i he; simp [get?, ← he, h]
    · simp [get?, ih]

theorem get?_map {γ : Type w} (f : β → γ) (k : κ) (m : List (κ × β)) :
    get? k (m.map fun e => (e.1, f e.2)) = (get? k m).map f := by
  induction m with
  | nil => rfl
  | cons e rest ih =>
    simp only [List.map_cons, get?]
    split
    · rfl
    · exact ih

theorem mem_of_get?_eq_some {k : κ} {v : β} {m : List (κ × β)} (h : get? k m = some v) : (k, v) ∈ m := by
  induction m with
  | nil => simp at h
  | cons e rest ih =>
    simp only [get?] at h
    split at h
    · rename_i he; obtain rfl : e.2 = v := by simpa using h
      simp [he]
    · exact List.mem_cons_of_mem _ (ih h)

theorem mem_erase {k : κ} {e : κ × β} {m : List (κ × β)} (h : e ∈ erase k m) : e ∈ m := by
  induction m with
  | nil => exact h
  | cons e' rest ih =>
    unfold erase at h
    split at h
    · exact List.mem_cons_of_mem _ h
    · rcases List.mem_cons.1 h with rfl | h
      · exact List.mem_cons_self ..
      · exact List.mem_cons_of_mem _ (ih h)

theorem mem_insert [Ord κ] {k : κ} {v : β} {e : κ × β} {m : List (κ × β)} (h : e ∈ insert k v m) :
    e = (k, v) ∨ e ∈ m := by
  induction m with
  | nil => simpa [insert] using h
  | cons e' rest ih =>
    unfold insert at h
    split at h
    · rcases List.mem_cons.1 h with rfl | h
      · exact .inl rfl
      · exact .inr (List.mem_cons_of_mem _ h)
    · split at h
      · rcases List.mem_cons.1 h with rfl | h
        · exact .inl rfl
        · exact .inr h
      · rcases List.mem_cons.1 h with rfl | h
        · exact .inr (List.mem_cons_self ..)
        · exact (ih h).imp_right (List.mem_cons_of_mem _)

theorem get?_eq_none_iff {k : κ} {m : List (κ × β)} : get? k m = none ↔ k ∉ m.map (·.1) := by
  induction m with
  | nil => simp
  | cons e rest ih =>
    unfold get?
    split
    · rename_i he; simp [he]
    · rename_i he; simp [ih, he]

/-- Where no key comes twice, looking for a key finds its entry. -/
theorem mem_iff_get? {m : List (κ × β)} (h : (m.map (·.1)).Nodup) (e : κ × β) : e ∈ m ↔ get? e.1 m = some e.2 := by
  refine ⟨fun he => ?_, mem_of_get?_eq_some⟩
  induction m with
  | nil => cases he
  | cons e' rest ih =>
    obtain ⟨fresh, hrest⟩ := List.nodup_cons.1 h
    unfold get?
    rcases List.mem_cons.1 he with rfl | he
    · exact if_pos rfl
    · rw [if_neg fun same => fresh (List.mem_map.2 ⟨e, he, same⟩)]
      exact ih hrest he

theorem get?_append (k : κ) (m m' : List (κ × β)) : get? k (m ++ m') = (get? k m).or (get? k m') := by
  induction m with
  | nil => rfl
  | cons e rest ih =>
    simp only [List.cons_append, get?]
    split
    · rfl
    · exact ih

/-- Where no key comes twice, the order does not count. -/
theorem get?_reverse {m : List (κ × β)} (h : (m.map (·.1)).Nodup) (k : κ) : get? k m.reverse = get? k m := by
  induction m with
  | nil => rfl
  | cons e rest ih =>
    obtain ⟨hnot, hrest⟩ := List.nodup_cons.1 h
    rw [List.reverse_cons, get?_append, ih hrest]
    by_cases he : k = e.1
    · rw [he, get?_eq_none_iff.2 hnot]
      simp [get?]
    · simp [get?, he]

theorem get?_foldl_insert [Ord κ] (k : κ) (es m : List (κ × β)) :
    get? k (es.foldl (fun m e => insert e.1 e.2 m) m) = (get? k es.reverse).or (get? k m) := by
  induction es generalizing m with
  | nil => rfl
  | cons e rest ih =>
    rw [List.foldl_cons, ih, List.reverse_cons, get?_append, Option.or_assoc]
    congr 1
    by_cases he : k = e.1
    · simp [he, get?]
    · simp [get?_insert_of_ne he, get?, he]

/-- A key that was not there makes the list longer. -/
theorem length_insert_of_none [Ord κ] {k : κ} {m : List (κ × β)} (h : get? k m = none) (v : β) :
    (insert k v m).length = m.length + 1 := by
  induction m with
  | nil => rfl
  | cons e rest ih =>
    simp only [get?] at h
    split at h
    · cases h
    · rename_i hne
      unfold insert
      rw [if_neg hne]
      split
      · rfl
      · rw [List.length_cons, ih h, List.length_cons]

theorem length_erase {k : κ} {m : List (κ × β)} (h : get? k m ≠ none) : (erase k m).length + 1 = m.length := by
  induction m with
  | nil => exact absurd rfl h
  | cons e rest ih =>
    simp only [get?] at h
    unfold erase
    split
    · rfl
    · rename_i hne
      rw [if_neg hne] at h
      rw [List.length_cons, ih h, List.length_cons]

/-- The last entry for a key is the one that stays. -/
theorem get?_ofList [Ord κ] (k : κ) (es : List (κ × β)) : get? k (ofList es) = get? k es.reverse := by
  simp [ofList, get?_foldl_insert]

end

/-! ## Order -/

/-- The keys ascend strictly. -/
def Ascending [Ord κ] (m : List (κ × β)) : Prop := m.Pairwise fun a b => (compare a.1 b.1).isLT = true

theorem Ascending.nodup_keys [Ord κ] [Std.LawfulEqOrd κ] {m : List (κ × β)} (h : Ascending m) : (m.map (·.1)).Nodup := by
  refine List.pairwise_map.mpr (h.imp fun {a b} hlt he => ?_)
  rw [he, Std.ReflOrd.compare_self] at hlt
  cases hlt

theorem Ascending.erase [DecidableEq κ] [Ord κ] {m : List (κ × β)} (h : Ascending m) (k : κ) :
    Ascending (erase k m) := by
  induction m with
  | nil => exact h
  | cons e rest ih =>
    obtain ⟨h₁, h₂⟩ := List.pairwise_cons.1 h
    unfold Assoc.erase
    split
    · exact h₂
    · exact List.pairwise_cons.2 ⟨fun e' he' => h₁ e' (mem_erase he'), ih h₂⟩

theorem Ascending.insert [DecidableEq κ] [Ord κ] [Std.TransOrd κ] [Std.LawfulEqOrd κ] {m : List (κ × β)}
    (h : Ascending m) (k : κ) (v : β) : Ascending (insert k v m) := by
  induction m with
  | nil => simp [Assoc.insert, Ascending]
  | cons e rest ih =>
    obtain ⟨h₁, h₂⟩ := List.pairwise_cons.1 h
    unfold Assoc.insert
    split
    · rename_i he; exact List.pairwise_cons.2 ⟨fun e' he' => he ▸ h₁ e' he', h₂⟩
    · rename_i hne
      split
      · rename_i hlt
        refine List.pairwise_cons.2 ⟨fun e' he' => ?_, h⟩
        rcases List.mem_cons.1 he' with rfl | he'
        · exact hlt
        · exact Ordering.isLT_iff_eq_lt.2
            (Std.TransCmp.lt_trans (Ordering.isLT_iff_eq_lt.1 hlt) (Ordering.isLT_iff_eq_lt.1 (h₁ e' he')))
      · rename_i hnlt
        refine List.pairwise_cons.2 ⟨fun e' he' => ?_, ih h₂⟩
        rcases mem_insert he' with rfl | he'
        · have hgt : compare k e.1 = .gt := by
            cases hc : compare k e.1 with
            | lt => simp [hc] at hnlt
            | eq => exact absurd (Std.LawfulEqOrd.eq_of_compare hc) hne
            | gt => rfl
          exact Ordering.isLT_iff_eq_lt.2 (Std.OrientedCmp.lt_of_gt hgt)
        · exact h₁ e' he'

/-- A key that was there does not make an ascending list longer. -/
theorem Ascending.length_insert [DecidableEq κ] [Ord κ] [Std.OrientedOrd κ] {m : List (κ × β)} (h : Ascending m) {k : κ}
    (there : get? k m ≠ none) (v : β) : (Assoc.insert k v m).length = m.length := by
  induction m with
  | nil => exact absurd rfl there
  | cons e rest ih =>
    obtain ⟨above, h⟩ := List.pairwise_cons.1 h
    simp only [get?] at there
    unfold Assoc.insert
    split
    · rfl
    · rename_i hne
      rw [if_neg hne] at there
      split
      · -- the key would stand before the first one, but it stands behind it
        rename_i hlt
        obtain ⟨v', hv'⟩ := Option.ne_none_iff_exists'.mp there
        have hgt := above _ (mem_of_get?_eq_some hv')
        rw [Ordering.isLT_iff_eq_lt] at hlt hgt
        exact absurd hgt (Std.OrientedCmp.not_lt_of_lt hlt)
      · rw [List.length_cons, ih h there, List.length_cons]

section
variable [DecidableEq κ] [Ord κ] [Std.LawfulEqOrd κ]

theorem Ascending.get?_eq_none {e : κ × β} {rest : List (κ × β)} (h : Ascending (e :: rest)) : get? e.1 rest = none :=
  get?_eq_none_iff.2 (List.nodup_cons.1 h.nodup_keys).1

theorem get?_erase_self {m : List (κ × β)} (h : Ascending m) (k : κ) : get? k (erase k m) = none := by
  induction m with
  | nil => rfl
  | cons e rest ih =>
    unfold Assoc.erase
    split
    · rename_i he; exact he ▸ h.get?_eq_none
    · rename_i he; simp [get?, he, ih (List.pairwise_cons.1 h).2]

theorem Ascending.mem_iff {m : List (κ × β)} (h : Ascending m) (k : κ) (v : β) : (k, v) ∈ m ↔ get? k m = some v :=
  mem_iff_get? h.nodup_keys (k, v)

theorem Ascending.ext [Std.TransOrd κ] {a b : List (κ × β)} (ha : Ascending a) (hb : Ascending b) (h : ∀ k, get? k a = get? k b) :
    a = b := by
  induction a generalizing b with
  | nil =>
    cases b with
    | nil => rfl
    | cons e r => have := h e.1; simp [get?] at this
  | cons e r ih =>
    cases b with
    | nil => have := h e.1; simp [get?] at this
    | cons e' r' =>
      have hk : e.1 = e'.1 := by
        have hm : (e.1, e.2) ∈ e' :: r' := (hb.mem_iff ..).2 (by rw [← h]; simp [get?])
        have hm' : (e'.1, e'.2) ∈ e :: r := (ha.mem_iff ..).2 (by rw [h]; simp [get?])
        rcases List.mem_cons.1 hm with hm | hm
        · exact congrArg Prod.fst hm
        · rcases List.mem_cons.1 hm' with hm' | hm'
          · exact (congrArg Prod.fst hm').symm
          · have h₁ := (List.pairwise_cons.1 hb).1 _ hm
            have h₂ := (List.pairwise_cons.1 ha).1 _ hm'
            rw [Ordering.isLT_iff_eq_lt] at h₁ h₂
            rw [show compare e.1 e'.1 = (compare e'.1 e.1).swap from Std.OrientedCmp.eq_swap, h₁] at h₂
            cases h₂
      have hv : e.2 = e'.2 := by simpa [get?, hk] using h e.1
      have hr : r = r' := by
        refine ih (List.pairwise_cons.1 ha).2 (List.pairwise_cons.1 hb).2 fun k => ?_
        by_cases hke : k = e.1
        · rw [hke, ha.get?_eq_none, hk, hb.get?_eq_none]
        · simpa [get?, hke, hk ▸ hke] using h k
      rw [hr, Prod.ext hk hv]

end

theorem Ascending.foldl_insert [DecidableEq κ] [Ord κ] [Std.TransOrd κ] [Std.LawfulEqOrd κ] (es : List (κ × β))
    {m : List (κ × β)} (h : Ascending m) : Ascending (es.foldl (fun m e => Assoc.insert e.1 e.2 m) m) := by
  induction es generalizing m with
  | nil => exact h
  | cons e rest ih => exact ih (h.insert e.1 e.2)

theorem ascending_ofList [DecidableEq κ] [Ord κ] [Std.TransOrd κ] [Std.LawfulEqOrd κ] (es : List (κ × β)) :
    Ascending (ofList es) :=
  Ascending.foldl_insert es .nil

end Assoc

/-- A finite map as the ascending list of its entries. -/
structure SortedMap (κ : Type u) (β : Type v) [Ord κ] where
  entries : List (κ × β)
  ascending : Assoc.Ascending entries

namespace SortedMap

variable [Ord κ]

instance [DecidableEq κ] [DecidableEq β] : DecidableEq (SortedMap κ β) := fun a b =>
  decidable_of_iff (a.entries = b.entries) (by cases a; cases b; simp)

/-- The map without entries. -/
def empty : SortedMap κ β := ⟨[], List.Pairwise.nil⟩

instance : Inhabited (SortedMap κ β) := ⟨empty⟩

def get? [DecidableEq κ] (m : SortedMap κ β) (k : κ) : Option β := Assoc.get? k m.entries

def keys (m : SortedMap κ β) : List κ := m.entries.map (·.1)

def size (m : SortedMap κ β) : Nat := m.entries.length

def contains [DecidableEq κ] (m : SortedMap κ β) (k : κ) : Bool := (m.get? k).isSome

def erase [DecidableEq κ] (m : SortedMap κ β) (k : κ) : SortedMap κ β := ⟨Assoc.erase k m.entries, m.ascending.erase k⟩

def map {γ : Type w} (f : β → γ) (m : SortedMap κ β) : SortedMap κ γ :=
  ⟨m.entries.map fun e => (e.1, f e.2), by simpa [Assoc.Ascending, List.pairwise_map] using m.ascending⟩

@[simp] theorem get?_empty [DecidableEq κ] (k : κ) : (empty : SortedMap κ β).get? k = none := rfl

@[simp] theorem get?_erase_self [DecidableEq κ] [Std.LawfulEqOrd κ] (m : SortedMap κ β) (k : κ) :
    (m.erase k).get? k = none :=
  Assoc.get?_erase_self m.ascending k

theorem get?_erase_of_ne [DecidableEq κ] (m : SortedMap κ β) {k k' : κ} (h : k' ≠ k) :
    (m.erase k).get? k' = m.get? k' :=
  Assoc.get?_erase_of_ne h ..

theorem size_erase [DecidableEq κ] (m : SortedMap κ β) {k : κ} (h : m.get? k ≠ none) : (m.erase k).size + 1 = m.size :=
  Assoc.length_erase h

theorem get?_map {γ : Type w} [DecidableEq κ] (f : β → γ) (m : SortedMap κ β) (k : κ) :
    (m.map f).get? k = (m.get? k).map f :=
  Assoc.get?_map ..

theorem contains_map {γ : Type w} [DecidableEq κ] (f : β → γ) (m : SortedMap κ β) (k : κ) :
    (m.map f).contains k = m.contains k := by
  unfold contains
  rw [get?_map, Option.isSome_map]

theorem mem_entries_iff [DecidableEq κ] [Std.LawfulEqOrd κ] (m : SortedMap κ β) (k : κ) (v : β) :
    (k, v) ∈ m.entries ↔ m.get? k = some v :=
  m.ascending.mem_iff k v

theorem nodup_keys [Std.LawfulEqOrd κ] (m : SortedMap κ β) : m.keys.Nodup := m.ascending.nodup_keys

theorem ext_get? [DecidableEq κ] [Std.TransOrd κ] [Std.LawfulEqOrd κ] {a b : SortedMap κ β}
    (h : ∀ k, a.get? k = b.get? k) : a = b := by
  obtain ⟨a, ha⟩ := a
  obtain ⟨b, hb⟩ := b
  obtain rfl : a = b := ha.ext hb h
  rfl

section
variable [DecidableEq κ] [Std.TransOrd κ] [Std.LawfulEqOrd κ]

def insert (m : SortedMap κ β) (k : κ) (v : β) : SortedMap κ β := ⟨Assoc.insert k v m.entries, m.ascending.insert k v⟩

def insertAll (m : SortedMap κ β) (entries : List (κ × β)) : SortedMap κ β :=
  entries.foldl (fun m e => m.insert e.1 e.2) m

/-- The map of the entries, the last one for each key. -/
def ofList (entries : List (κ × β)) : SortedMap κ β := empty.insertAll entries

@[simp] theorem get?_insert_self (m : SortedMap κ β) (k : κ) (v : β) : (m.insert k v).get? k = some v :=
  Assoc.get?_insert_self ..

theorem get?_insert_of_ne (m : SortedMap κ β) {k k' : κ} (h : k' ≠ k) (v : β) : (m.insert k v).get? k' = m.get? k' :=
  Assoc.get?_insert_of_ne h ..

/-- Inserting adds an entry unless there is one under the key. -/
theorem size_insert (m : SortedMap κ β) (k : κ) (v : β) :
    (m.insert k v).size = m.size + if m.get? k = none then 1 else 0 := by
  unfold insert size
  by_cases h : m.get? k = none
  · rw [if_pos h]
    exact Assoc.length_insert_of_none h v
  · rw [if_neg h]
    exact m.ascending.length_insert h v

theorem map_insert {γ : Type w} (f : β → γ) (m : SortedMap κ β) (k : κ) (v : β) :
    (m.insert k v).map f = (m.map f).insert k (f v) := by
  refine ext_get? fun k' => ?_
  by_cases h : k' = k
  · rw [h, get?_map, get?_insert_self, get?_insert_self, Option.map_some]
  · rw [get?_map, get?_insert_of_ne _ h, get?_insert_of_ne _ h, get?_map]

theorem entries_insertAll (m : SortedMap κ β) (es : List (κ × β)) :
    (m.insertAll es).entries = es.foldl (fun m e => Assoc.insert e.1 e.2 m) m.entries := by
  induction es generalizing m with
  | nil => rfl
  | cons e es ih => exact ih _

theorem get?_insertAll (m : SortedMap κ β) (es : List (κ × β)) (k : κ) :
    (m.insertAll es).get? k = (Assoc.get? k es.reverse).or (m.get? k) := by
  unfold get?
  rw [entries_insertAll, Assoc.get?_foldl_insert]

theorem get?_ofList (es : List (κ × β)) (k : κ) : (ofList es).get? k = Assoc.get? k es.reverse := by
  rw [ofList, get?_insertAll, get?_empty, Option.or_none]

/-- Entries with different keys are all there once they are inserted. -/
theorem get?_insertAll_of_mem (m : SortedMap κ β) {es : List (κ × β)} (distinct : (es.map (·.1)).Nodup) {e : κ × β}
    (h : e ∈ es) : (m.insertAll es).get? e.1 = some e.2 := by
  rw [get?_insertAll, Assoc.get?_reverse distinct, (Assoc.mem_iff_get? distinct e).mp h, Option.some_or]

/-- A map is what its entries make of the empty one. -/
theorem insertAll_entries (m : SortedMap κ β) : empty.insertAll m.entries = m := by
  refine ext_get? fun k => ?_
  rw [get?_insertAll, Assoc.get?_reverse m.ascending.nodup_keys, get?_empty, Option.or_none]
  rfl

/-- Entries that are there already change nothing. -/
theorem insertAll_insertAll (m : SortedMap κ β) (es : List (κ × β)) : (m.insertAll es).insertAll es = m.insertAll es := by
  refine ext_get? fun k => ?_
  rw [get?_insertAll, get?_insertAll, ← Option.or_assoc, Option.or_self]

end

end SortedMap

/-- A finite set as an ascending list. -/
abbrev SortedSet (κ : Type u) [Ord κ] := SortedMap κ Unit

def SortedSet.ofList [Ord κ] [DecidableEq κ] [Std.TransOrd κ] [Std.LawfulEqOrd κ] (ks : List κ) : SortedSet κ :=
  SortedMap.ofList (ks.map fun k => (k, ()))

theorem SortedSet.get?_ofList [Ord κ] [DecidableEq κ] [Std.TransOrd κ] [Std.LawfulEqOrd κ] (ks : List κ) (k : κ) :
    (ofList ks).get? k = if k ∈ ks then some () else none := by
  have there : (ofList ks).get? k = none ↔ k ∉ ks := by
    unfold ofList
    rw [SortedMap.get?_ofList, Assoc.get?_eq_none_iff]
    simp
  by_cases h : k ∈ ks
  · rw [if_pos h]
    exact Option.eq_some_iff_get_eq.mpr ⟨Option.isSome_iff_ne_none.mpr fun hn => there.mp hn h, rfl⟩
  · rw [if_neg h, there.mpr h]

end Converge
