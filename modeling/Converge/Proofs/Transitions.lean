import Converge.Proofs.Conditions
import Converge.Proofs.FirstSeen

/-!
# Conditions over a run of updates

What a list of conditions has come to after any number of updates, those of several types in any order.

* `types_setAll`: the types of the list grow by the new ones of the updates only.
* `LastRun` : a history of conditions, split where the run of its last status begins. `LastRun.same`, `LastRun.other`: what one more
  condition does to it.
* `Tells` : a condition says what the last one of a history says, since the first one of the last run. `Tells.replacing`: one update
  keeps that so; `tells_setAll`: so do all.
* `setAll_recounts`: types stay apart, in the order of first appearance; what is not updated stays; what is updated tells its history.
-/

namespace Converge.Condition

set_option autoImplicit false

/-! ## Types -/

theorem types_set_of_mem {c : Condition} {cs : List Condition} (h : c.type ∈ cs.map (·.type)) :
    (set c cs).map (·.type) = cs.map (·.type) := by
  induction cs with
  | nil => cases h
  | cons old rest ih =>
    unfold set
    by_cases hold : old.type = c.type
    · rw [if_pos hold, List.map_cons, List.map_cons, hold]
      split <;> rfl
    · have later : c.type ∈ rest.map (·.type) := (List.mem_cons.mp h).resolve_left (Ne.symm hold)
      rw [if_neg hold, List.map_cons, List.map_cons, ih later]

theorem types_set (c : Condition) (cs : List Condition) : (set c cs).map (·.type) = Engine.addNew (cs.map (·.type)) [c.type] := by
  change _ = if c.type ∈ cs.map (·.type) then cs.map (·.type) else cs.map (·.type) ++ [c.type]
  split
  · rename_i there
    exact types_set_of_mem there
  · rename_i new
    rw [set_of_new_type fun old hold heq => new (List.mem_map.mpr ⟨old, hold, heq⟩), List.map_append, List.map_singleton]

theorem types_setAll (ks cs : List Condition) :
    (setAll ks cs).map (·.type) = Engine.addNew (cs.map (·.type)) (ks.map (·.type)) := by
  induction ks generalizing cs with
  | nil => rfl
  | cons k ks ih =>
    change (setAll ks (set k cs)).map (·.type) = _
    rw [ih, types_set]
    rfl

theorem distinct_cons {c : Condition} {cs : List Condition} (h : ((c :: cs).map (·.type)).Nodup) :
    (∀ d ∈ cs, d.type ≠ c.type) ∧ (cs.map (·.type)).Nodup := by
  obtain ⟨fresh, rest⟩ := List.nodup_cons.mp h
  exact ⟨fun d hd heq => fresh (List.mem_map.mpr ⟨d, hd, heq⟩), rest⟩

/-- Where no type comes twice, looking for a type finds every condition. -/
theorem mem_iff_find? {cs : List Condition} (distinct : (cs.map (·.type)).Nodup) (k : Condition) :
    k ∈ cs ↔ cs.find? (·.type = k.type) = some k := by
  refine ⟨fun hk => ?_, List.mem_of_find?_eq_some⟩
  induction cs with
  | nil => exact absurd hk List.not_mem_nil
  | cons c cs ih =>
    obtain ⟨fresh, rest⟩ := distinct_cons distinct
    rcases List.mem_cons.mp hk with rfl | hk
    · exact List.find?_cons_of_pos (by simp)
    · rw [List.find?_cons_of_neg (by simpa using (fresh k hk).symm)]
      exact ih rest hk

/-! ## Histories -/

/-- A history of conditions, split where the run of its last status begins. -/
structure LastRun (earlier run : List Condition) (first last : Condition) : Prop where
  head : run.head? = some first
  final : run.getLast? = some last
  steady : ∀ k ∈ run, k.status = last.status
  /-- The run is no longer than that: just before it the status was another one, or there was none. -/
  turned : ∀ k, earlier.getLast? = some k → k.status ≠ last.status

namespace LastRun
variable {earlier run : List Condition} {first last c : Condition}

theorem single (c : Condition) : LastRun [] [c] c c :=
  ⟨rfl, rfl, fun _ hk => List.mem_singleton.mp hk ▸ rfl, fun _ hk => nomatch hk⟩

/-- One more condition of the same status goes on with the run. -/
theorem same (h : LastRun earlier run first last) (status : last.status = c.status) : LastRun earlier (run ++ [c]) first c where
  head := by rw [List.head?_append, h.head, Option.some_or]
  final := List.getLast?_concat
  steady k hk := (List.mem_append.mp hk).elim (fun hk => (h.steady k hk).trans status) fun hk => List.mem_singleton.mp hk ▸ rfl
  turned k hk := status ▸ h.turned k hk

/-- One more condition of another status begins a run. -/
theorem other (h : LastRun earlier run first last) (status : last.status ≠ c.status) : LastRun (earlier ++ run) [c] c c where
  head := rfl
  final := rfl
  steady _ hk := List.mem_singleton.mp hk ▸ rfl
  turned k hk := by
    rw [List.getLast?_append, h.final, Option.some_or] at hk
    exact Option.some.inj hk ▸ status

end LastRun

/-- What is found of a type tells its history: nothing if there is none, else what the last condition of it says, since the time
of the first one of the last run. -/
def Tells (history : List Condition) : Option Condition → Prop
  | none => history = []
  | some k => ∃ earlier run first last, history = earlier ++ run ∧ LastRun earlier run first last ∧
      k = { last with lastTransitionTime := first.lastTransitionTime }

/-- Putting in one more condition keeps that so. -/
theorem Tells.replacing {history : List Condition} {found : Option Condition} (h : Tells history found) (c : Condition) :
    Tells (history ++ [c]) (some (c.replacing found)) := by
  cases found with
  | none =>
    obtain rfl : history = [] := h
    exact ⟨[], [c], c, c, rfl, .single c, rfl⟩
  | some old =>
    obtain ⟨earlier, run, first, last, rfl, hrun, rfl⟩ := h
    by_cases status : last.status = c.status
    · rw [Condition.replacing, if_pos status]
      exact ⟨earlier, run ++ [c], first, c, List.append_assoc .., hrun.same status, rfl⟩
    · rw [Condition.replacing, if_neg status]
      exact ⟨earlier ++ run, [c], c, c, rfl, hrun.other status, rfl⟩

/-- The conditions of a type. -/
def ofType (t : String) (cs : List Condition) : List Condition := cs.filter (·.type = t)

theorem ofType_append (t : String) (cs ds : List Condition) : ofType t (cs ++ ds) = ofType t cs ++ ofType t ds :=
  List.filter_append ..

theorem ofType_eq_nil_iff {t : String} {cs : List Condition} : ofType t cs = [] ↔ ∀ c ∈ cs, c.type ≠ t := by
  simp [ofType]

/-- Where no type comes twice, what is found is the whole history. -/
theorem tells_find? {cs : List Condition} (distinct : (cs.map (·.type)).Nodup) (t : String) :
    Tells (ofType t cs) (cs.find? (·.type = t)) := by
  induction cs with
  | nil => rfl
  | cons c cs ih =>
    obtain ⟨fresh, rest⟩ := distinct_cons distinct
    unfold ofType at ih ⊢
    by_cases hc : c.type = t
    · have none : cs.filter (·.type = t) = [] := ofType_eq_nil_iff.mpr fun d hd => hc ▸ fresh d hd
      rw [List.find?_cons_of_pos (by simpa using hc), List.filter_cons_of_pos (by simpa using hc), none]
      exact ⟨[], [c], c, c, rfl, .single c, rfl⟩
    · rw [List.find?_cons_of_neg (by simpa using hc), List.filter_cons_of_neg (by simpa using hc)]
      exact ih rest

/-! ## Runs of updates -/

/-- After any updates, what is found of a type tells the history of the type. -/
theorem tells_setAll {cs : List Condition} (distinct : (cs.map (·.type)).Nodup) (ks : List Condition) (t : String) :
    Tells (ofType t (cs ++ ks)) ((setAll ks cs).find? (·.type = t)) := by
  -- by the last update, as the run that an update goes on with is the last one so far
  induction ks using List.reverseRecOn with
  | nil => exact (List.append_nil cs).symm ▸ tells_find? distinct t
  | append_singleton ks c ih =>
    have last : setAll (ks ++ [c]) cs = set c (setAll ks cs) := List.foldl_append
    rw [last, ← List.append_assoc, ofType_append]
    by_cases hc : c.type = t
    · have one : ofType t [c] = [c] := List.filter_cons_of_pos (by simpa using hc)
      rw [one, find?_set hc]
      exact ih.replacing c
    · have none : ofType t [c] = [] := ofType_eq_nil_iff.mpr fun d hd => List.mem_singleton.mp hd ▸ hc
      rw [none, List.append_nil, find?_set_of_ne hc]
      exact ih

/-- **Conditions recount their updates.** After any updates of a list with one condition a type, there still is one a type, in the
order in which the types first appeared; what was not updated is as it was; and what was updated says what its last update says,
since the time of the first condition of its type, initial or update, from which on the status was the same. -/
theorem setAll_recounts {cs : List Condition} (distinct : (cs.map (·.type)).Nodup) (ks : List Condition) :
    ((setAll ks cs).map (·.type)).Nodup ∧
      FirstSeen ((cs ++ ks).map (·.type)) ((setAll ks cs).map (·.type)) ∧
      (∀ k, (∀ u ∈ ks, u.type ≠ k.type) → (k ∈ setAll ks cs ↔ k ∈ cs)) ∧
      ∀ t, (∃ u ∈ ks, u.type = t) → ∃ earlier run first last,
        ofType t (cs ++ ks) = earlier ++ run ∧ LastRun earlier run first last ∧ (ofType t ks).getLast? = some last ∧
          { last with lastTransitionTime := first.lastTransitionTime } ∈ setAll ks cs := by
  have seen : FirstSeen ((cs ++ ks).map (·.type)) ((setAll ks cs).map (·.type)) := by
    rw [types_setAll, List.map_append]
    exact (FirstSeen.of_nodup distinct).addNew _
  refine ⟨seen.nodup, seen, fun k untouched => ?_, fun t updated => ?_⟩
  · rw [mem_iff_find? seen.nodup, mem_iff_find? distinct, find?_setAll_of_ne untouched]
  · have some : ofType t ks ≠ [] := fun none => by
      obtain ⟨u, hu, ht⟩ := updated
      exact ofType_eq_nil_iff.mp none u hu ht
    have tells := tells_setAll distinct ks t
    rw [ofType_append] at tells ⊢
    cases found : (setAll ks cs).find? (·.type = t) with
    | none =>
      rw [found] at tells
      exact absurd (List.append_eq_nil_iff.mp tells).2 some
    | some k =>
      rw [found] at tells
      obtain ⟨earlier, run, first, last, split, hrun, rfl⟩ := tells
      refine ⟨earlier, run, first, last, split, hrun, ?_, List.mem_of_find?_eq_some found⟩
      -- the last condition of the history is an update, as there is one
      have whole := congrArg List.getLast? split
      rw [List.getLast?_append, List.getLast?_append, hrun.final, Option.some_or] at whole
      rwa [List.getLast?_eq_some_getLast some, Option.some_or, ← List.getLast?_eq_some_getLast some] at whole

end Converge.Condition

/-! ## A sample: a status that turns -/

namespace Converge.Sample

def steady : List Condition := [⟨"FluxReady", .true, "Healthy", "", ⟨100, 0⟩⟩]

/-- Flux stays healthy, and then does not for two updates, between which another component installs. -/
def flapping : List Condition :=
  [⟨"FluxReady", .true, "Healthy", "still fine", ⟨200, 0⟩⟩, ⟨"FluxReady", .false, "Unhealthy", "", ⟨300, 0⟩⟩,
    ⟨"crossplaneReady", .true, "Installed", "", ⟨350, 0⟩⟩, ⟨"FluxReady", .false, "UpdateFailed", "gone", ⟨400, 0⟩⟩]

theorem setAll_recounts_flapping :
    (steady.map (·.type)).Nodup ∧ ((Condition.setAll flapping steady).map (·.type)).Nodup ∧
      Condition.setAll flapping steady =
        [⟨"FluxReady", .false, "UpdateFailed", "gone", ⟨300, 0⟩⟩, ⟨"crossplaneReady", .true, "Installed", "", ⟨350, 0⟩⟩] ∧
      ∃ earlier run first last, Condition.ofType "FluxReady" (steady ++ flapping) = earlier ++ run ∧
        Condition.LastRun earlier run first last ∧ (Condition.ofType "FluxReady" flapping).getLast? = some last ∧
        { last with lastTransitionTime := first.lastTransitionTime } ∈ Condition.setAll flapping steady := by
  have distinct : (steady.map (·.type)).Nodup := by decide
  obtain ⟨apart, -, -, recounts⟩ := Condition.setAll_recounts distinct flapping
  exact ⟨distinct, apart, by decide, recounts "FluxReady" ⟨_, List.mem_cons_self, rfl⟩⟩

end Converge.Sample
