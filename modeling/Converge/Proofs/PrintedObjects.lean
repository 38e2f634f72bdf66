import Converge.Cluster.Object

/-!
# Objects in print

* `Assoc.last?` is what counts of several values under one key.
* `Object.get?_written`: a member of a printed object is found in its data, or is its metadata.
* `Object.Parted` : the metadata of an object are not in its data as well.
* `Object.toJson_withStatus_self`: giving an object the status that it shows changes nothing in print.
-/

namespace Converge

set_option autoImplicit false

/-! ## Last values -/

/-- The last value under a key. -/
def Assoc.last? {β : Type} (k : String) (m : List (String × β)) : Option β := Assoc.get? k m.reverse

theorem Assoc.last?_eq_get? {β : Type} {m : List (String × β)} (h : (m.map (·.1)).Nodup) (k : String) :
    Assoc.last? k m = Assoc.get? k m :=
  Assoc.get?_reverse h k

theorem Assoc.last?_eq_none {β : Type} {m : List (String × β)} {k : String} (h : Assoc.get? k m = none) :
    Assoc.last? k m = none := by
  have hk := Assoc.get?_eq_none_iff.1 h
  refine Assoc.get?_eq_none_iff.2 fun hmem => hk ?_
  rwa [List.map_reverse, List.mem_reverse] at hmem

/-- Entries that ascend are the members of an object in their order. -/
theorem Assoc.ofList_of_ascending {β : Type} {m : List (String × β)} (h : Assoc.Ascending m) : Assoc.ofList m = m := by
  refine (Assoc.ascending_ofList m).ext h fun k => ?_
  rw [Assoc.get?_ofList, Assoc.get?_reverse h.nodup_keys]

theorem Assoc.last?_append {β : Type} (k : String) (m m' : List (String × β)) :
    Assoc.last? k (m ++ m') = (Assoc.last? k m').or (Assoc.last? k m) := by
  unfold last?
  rw [List.reverse_append, get?_append]

theorem Assoc.last?_cons {β : Type} (k : String) (e : String × β) (m : List (String × β)) :
    Assoc.last? k (e :: m) = (Assoc.last? k m).or (if k = e.1 then some e.2 else none) := by
  unfold last?
  rw [List.reverse_cons, get?_append]
  rfl

theorem Assoc.isSome_last?_of_get? {β : Type} {m : List (String × β)} {k : String} {v : β} (h : Assoc.get? k m = some v) :
    (Assoc.last? k m).isSome = true := by
  cases hl : Assoc.last? k m with
  | some w => rfl
  | none =>
    have hmem : k ∈ m.map (·.1) := List.mem_map.2 ⟨_, mem_of_get?_eq_some h, rfl⟩
    have hnot := Assoc.get?_eq_none_iff.1 hl
    rw [List.map_reverse, List.mem_reverse] at hnot
    exact absurd hmem hnot

/-- Putting in what is found changes nothing, as far as the last values go. -/
theorem Assoc.last?_insert_of_get? {β : Type} {m : List (String × β)} {k : String} {v : β} (h : Assoc.get? k m = some v)
    (k' : String) : Assoc.last? k' (Assoc.insert k v m) = Assoc.last? k' m := by
  induction m with
  | nil => cases h
  | cons e m ih =>
    unfold Assoc.insert
    split
    · rename_i hk
      simp only [Assoc.get?, if_pos hk] at h
      cases h
      rw [hk]
    · rename_i hk
      have hrest : Assoc.get? k m = some v := by simpa only [Assoc.get?, if_neg hk] using h
      split
      · rw [last?_cons]
        by_cases hk' : k' = k
        · obtain ⟨w, hw⟩ := Option.isSome_iff_exists.1 (isSome_last?_of_get? h)
          rw [hk', hw]
          rfl
        · rw [if_neg hk', Option.or_none]
      · rw [last?_cons, last?_cons, ih hrest]

theorem Assoc.erase_of_get? {β : Type} {m : List (String × β)} {k : String} (h : Assoc.get? k m = none) :
    Assoc.erase k m = m := by
  induction m with
  | nil => rfl
  | cons e m ih =>
    unfold Assoc.erase
    split
    · rename_i hk
      simp only [Assoc.get?, if_pos hk] at h
      cases h
    · rename_i hk
      rw [ih (by simpa only [Assoc.get?, if_neg hk] using h)]

namespace Object

/-! ## Printing -/

theorem dataEntries_eq {v : Json} {data : List (String × Json)} (h : dataEntries v = .ok data) : data = v.entries := by
  cases v with
  | null => cases h; rfl
  | object es => cases h; rfl
  | _ => cases h

theorem toJson_of_data {o : Object} {data : List (String × Json)} (h : dataEntries o.data = .ok data) :
    o.toJson = .ok (.ofEntries (o.typeEntries ++ ("metadata", Metadata.codec.write o.metadata) :: data)) := by
  unfold toJson write
  rw [h]
  rfl

theorem exists_data_of_toJson {o : Object} {v : Json} (h : o.toJson = .ok v) : ∃ data, dataEntries o.data = .ok data := by
  unfold toJson write at h
  cases hd : dataEntries o.data with
  | ok data => exact ⟨data, rfl⟩
  | error e => rw [hd] at h; cases h

/-- A member of a written object that names no type. -/
theorem get?_written {o : Object} {data : List (String × Json)} {key : String} (hversion : key ≠ "apiVersion")
    (hkind : key ≠ "kind") :
    Assoc.get? key (Assoc.ofList (o.typeEntries ++ ("metadata", Metadata.codec.write o.metadata) :: data)) =
      (Assoc.last? key data).or (if key = "metadata" then some (Metadata.codec.write o.metadata) else none) := by
  have htypes : Assoc.get? key o.typeEntries.reverse = none := by
    unfold typeEntries
    split
    · simp [Assoc.get?, hversion, hkind]
    · rfl
  rw [Assoc.get?_ofList, List.reverse_append, List.reverse_cons, Assoc.get?_append, Assoc.get?_append, htypes, Option.or_none]
  rfl

theorem get?_withStatus_of_ne {k : String} (h : k ≠ "status") (o : Object) (status : Option Json) :
    (o.withStatus status).data.get? k = o.data.get? k := by
  obtain ⟨types, metadata, data⟩ := o
  cases data with
  | object es =>
    cases status with
    | some v => exact Assoc.get?_insert_of_ne h v es
    | none => exact Assoc.get?_erase_of_ne h es
  | _ => rfl

/-- The data has no member that is named as the metadata are. -/
def Parted (o : Object) : Prop := o.data.get? "metadata" = none

theorem Parted.withStatus {o : Object} (h : o.Parted) (status : Option Json) : (o.withStatus status).Parted :=
  (get?_withStatus_of_ne (by decide) o status).trans h

/-- An object prints as before when it is given the status that it shows. -/
theorem toJson_withStatus_self {o : Object} {v : Json} (h : o.toJson = .ok v) : (o.withStatus o.status).toJson = .ok v := by
  obtain ⟨types, metadata, data⟩ := o
  cases data with
  | object es =>
    cases hstatus : Assoc.get? "status" es with
    | none =>
      have hsame : withStatus ⟨types, metadata, .object es⟩ (status ⟨types, metadata, .object es⟩) =
          ⟨types, metadata, .object es⟩ := by
        show withStatus ⟨types, metadata, .object es⟩ (Assoc.get? "status" es) = _
        rw [hstatus]
        show (⟨types, metadata, .object (Assoc.erase "status" es)⟩ : Object) = _
        rw [Assoc.erase_of_get? hstatus]
      rw [hsame, h]
    | some st =>
      have hchanged : withStatus ⟨types, metadata, .object es⟩ (status ⟨types, metadata, .object es⟩) =
          ⟨types, metadata, .object (Assoc.insert "status" st es)⟩ := by
        show withStatus ⟨types, metadata, .object es⟩ (Assoc.get? "status" es) = _
        rw [hstatus]
        rfl
      rw [hchanged, toJson_of_data rfl, ← h, toJson_of_data rfl]
      refine congrArg (fun es => Except.ok (Json.object es)) ?_
      refine (Assoc.ascending_ofList _).ext (Assoc.ascending_ofList _) fun k => ?_
      rw [Assoc.get?_ofList, Assoc.get?_ofList]
      show Assoc.last? k _ = Assoc.last? k _
      rw [Assoc.last?_append, Assoc.last?_append, Assoc.last?_cons, Assoc.last?_cons, Assoc.last?_insert_of_get? hstatus]
      rfl
  | _ => exact h

theorem key_eq_ok {o : Object} {key : ObjectKey} :
    o.key = .ok key ↔ o.metadata.name = some key.name ∧ o.metadata.ns? = key.ns? := by
  unfold Object.key
  cases o.metadata.name with
  | none => simp
  | some name =>
    obtain ⟨ns?, keyName⟩ := key
    simp [and_comm]

end Object

end Converge
