import Converge.Engine
import Mathlib.Data.List.Nodup

/-!
# In the order of first appearance

Lists that grow only by what they do not have yet.

* `FirstSeen xs ys` : `ys` has the items of `xs`, in the order in which they first come up. `FirstSeen.push` adds one more item to
  both, `FirstSeen.addNew` a list of them.
* `Engine.addNew_eq_self_iff`: nothing is added iff nothing is new.
* `Component.contributes` : the rules of a component that is wanted; `Engine.policyRules_register`: registering components adds
  what is new of theirs.
* `Engine.AggregatesRules` : the rules are those of the wanted components, each once, as they first come up, and grow only at the
  end; `policyRules_aggregated`: so they are, whatever is registered.
-/

namespace Converge

set_option autoImplicit false

section
variable {α : Type} [DecidableEq α]

/-- The second list has the items of the first one, in the order in which they first come up there. -/
structure FirstSeen (xs ys : List α) : Prop where
  mem : ∀ a, a ∈ ys ↔ a ∈ xs
  order : ys.Pairwise fun a b => xs.idxOf a < xs.idxOf b

namespace FirstSeen
variable {xs ys : List α}

theorem nodup (h : FirstSeen xs ys) : ys.Nodup :=
  h.order.imp fun hlt heq => absurd (heq ▸ hlt) (Nat.lt_irrefl _)

/-- A list without repetitions is in the order of first appearance itself. -/
theorem of_nodup (h : xs.Nodup) : FirstSeen xs xs := by
  refine ⟨fun _ => Iff.rfl, List.pairwise_iff_getElem.mpr fun i j hi hj hlt => ?_⟩
  rwa [h.idxOf_getElem i hi, h.idxOf_getElem j hj]

/-- What has come up keeps its place when something else comes up. -/
theorem order_append (h : FirstSeen xs ys) (zs : List α) :
    ys.Pairwise fun a b => (xs ++ zs).idxOf a < (xs ++ zs).idxOf b := by
  refine h.order.imp_of_mem fun {a b} ha hb hlt => ?_
  rwa [List.idxOf_append_of_mem ((h.mem a).mp ha), List.idxOf_append_of_mem ((h.mem b).mp hb)]

/-- One more item comes up: it goes to the end unless it is there. -/
theorem push (h : FirstSeen xs ys) (a : α) : FirstSeen (xs ++ [a]) (if a ∈ ys then ys else ys ++ [a]) := by
  by_cases ha : a ∈ ys
  · rw [if_pos ha]
    refine ⟨fun b => ?_, h.order_append [a]⟩
    rw [List.mem_append, List.mem_singleton, ← h.mem b]
    exact ⟨.inl, fun hb => hb.elim id fun heq => heq ▸ ha⟩
  · rw [if_neg ha]
    refine ⟨fun b => ?_, List.pairwise_append.mpr ⟨h.order_append [a], List.pairwise_singleton _ _, fun b hb c hc => ?_⟩⟩
    · rw [List.mem_append, List.mem_append, h.mem b]
    · obtain rfl := List.mem_singleton.mp hc
      have seen : b ∈ xs := (h.mem b).mp hb
      have fresh : c ∉ xs := fun hc => ha ((h.mem c).mpr hc)
      rw [List.idxOf_append_of_mem seen, List.idxOf_append_of_notMem fresh]
      exact Nat.lt_add_right _ (List.idxOf_lt_length_of_mem seen)

/-- More items come up. -/
theorem addNew (h : FirstSeen xs ys) (zs : List α) : FirstSeen (xs ++ zs) (Engine.addNew ys zs) := by
  induction zs generalizing xs ys with
  | nil => exact (List.append_nil xs).symm ▸ h
  | cons a zs ih =>
    have next := ih (h.push a)
    rwa [List.append_assoc] at next

end FirstSeen

namespace Engine

theorem addNew_append (present xs ys : List α) : addNew present (xs ++ ys) = addNew (addNew present xs) ys := by
  induction xs generalizing present with
  | nil => rfl
  | cons a xs ih => exact ih _

theorem prefix_addNew (present xs : List α) : present <+: addNew present xs := by
  induction xs generalizing present with
  | nil => exact List.prefix_refl present
  | cons a xs ih =>
    have step : present <+: if a ∈ present then present else present ++ [a] := by
      split
      · exact List.prefix_refl present
      · exact List.prefix_append present [a]
    exact step.trans (ih _)

/-- Nothing is added iff nothing is new. -/
theorem addNew_eq_self_iff {present xs : List α} : addNew present xs = present ↔ ∀ a ∈ xs, a ∈ present := by
  induction xs with
  | nil => exact ⟨fun _ _ h => absurd h List.not_mem_nil, fun _ => rfl⟩
  | cons a xs ih =>
    rw [List.forall_mem_cons, ← ih, addNew]
    by_cases ha : a ∈ present
    · rw [if_pos ha]
      exact ⟨fun h => ⟨ha, h⟩, And.right⟩
    · rw [if_neg ha]
      refine ⟨fun h => ?_, fun h => absurd h.1 ha⟩
      -- the new item is in what comes of it, which is what was there
      have new : a ∈ addNew (present ++ [a]) xs := (prefix_addNew _ xs).subset List.mem_concat_self
      exact absurd (h ▸ new) ha

end Engine

end

/-! ## Policy rules -/

variable {σ : Type}

/-- The rules that a component contributes: its own if it is wanted, else none. -/
def Component.contributes (c : Component σ) : List PolicyRule := if c.enabled then c.policyRules else []

theorem Component.mem_contributes {c : Component σ} {rule : PolicyRule} :
    rule ∈ c.contributes ↔ c.enabled = true ∧ rule ∈ c.policyRules := by
  unfold contributes
  split <;> simp_all

namespace Engine
variable (e : Engine σ)

theorem flatMap_filter_enabled (cs : List (Component σ)) :
    (cs.filter (·.enabled)).flatMap (·.policyRules) = cs.flatMap Component.contributes := by
  induction cs with
  | nil => rfl
  | cons c cs ih =>
    rw [List.flatMap_cons, ← ih, List.filter_cons, Component.contributes]
    split
    · rw [List.flatMap_cons]
    · rfl

theorem policyRules_eq : e.policyRules = addNew [] (e.components.flatMap Component.contributes) :=
  congrArg (addNew []) (flatMap_filter_enabled e.components)

/-- Registering components adds what is new of their rules. -/
theorem policyRules_register (cs : List (Component σ)) :
    (e.register cs).policyRules = addNew e.policyRules (cs.flatMap Component.contributes) := by
  rw [policyRules_eq, policyRules_eq, ← addNew_append, ← List.flatMap_append]
  rfl

/-- How the rules of the registered components come together. -/
structure AggregatesRules (e : Engine σ) : Prop where
  once : e.policyRules.Nodup
  exact : ∀ rule, rule ∈ e.policyRules ↔ ∃ c ∈ e.components, c.enabled = true ∧ rule ∈ c.policyRules
  /-- Earlier components come first, and of one component the rules that it names first. -/
  order : e.policyRules.Pairwise fun a b => (e.components.flatMap Component.contributes).idxOf a <
    (e.components.flatMap Component.contributes).idxOf b
  /-- A component that is not wanted could as well not be there. -/
  unwanted : ∀ before c after, e.components = before ++ c :: after → c.enabled = false →
    { e with components := before ++ after : Engine σ }.policyRules = e.policyRules
  grows : ∀ cs, e.policyRules <+: (e.register cs).policyRules
  /-- One more component changes the rules only if it is wanted and has a new one. -/
  settled : ∀ c, (e.register [c]).policyRules = e.policyRules ↔
    (c.enabled = true → ∀ rule ∈ c.policyRules, rule ∈ e.policyRules)

/-- **Policy rules are aggregated** from the wanted components: each rule once, where it first comes up. -/
theorem policyRules_aggregated : e.AggregatesRules := by
  have seen : FirstSeen (e.components.flatMap Component.contributes) e.policyRules :=
    e.policyRules_eq ▸ (FirstSeen.of_nodup List.nodup_nil).addNew _
  refine ⟨seen.nodup, fun rule => ?_, seen.order, fun before c after hcs hc => ?_, fun cs => ?_, fun c => ?_⟩
  · rw [seen.mem, List.mem_flatMap]
    simp only [Component.mem_contributes]
  · have none : c.contributes = [] := by
      unfold Component.contributes
      rw [hc]
      rfl
    rw [policyRules_eq, policyRules_eq, hcs, List.flatMap_append, List.flatMap_append, List.flatMap_cons, none, List.nil_append]
  · rw [policyRules_register]
    exact prefix_addNew _ _
  · rw [policyRules_register, addNew_eq_self_iff, List.flatMap_singleton]
    simp only [Component.mem_contributes, and_imp]
    exact ⟨fun h hc rule => h rule hc, fun h rule hc => h hc rule⟩

end Engine

end Converge
