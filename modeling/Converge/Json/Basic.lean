import Converge.Assoc
import Converge.Json.Double
import Converge.Text.Quoted

/-!
# JSON values

* `Json` tells integers from doubles. The entries of an object ascend by key; `Json.ofEntries` brings them into that
  order and `Json.canonical` does so at every depth.
* `==` compares by value: an integer never equals a double, and the two zeros of a double are equal.
* `Json.get?`, `Json.setAt`, `Json.removeAt` look up and edit; `Json.describe` names a value in an error text.
* `beq_refl`, `beq_symm`, `beq_trans`: comparison is an equivalence.
-/

namespace Converge

set_option autoImplicit false

inductive Json where
  | null
  | bool (value : Bool)
  | int (value : Int)
  | double (value : Double)
  | string (text : String)
  | array (items : List Json)
  | object (entries : List (String × Json))
deriving Inhabited

namespace Json

/-! ## Comparison -/

mutual
def beq : Json → Json → Bool
  | null, null => true
  | bool a, bool b => a == b
  | int a, int b => a == b
  | double a, double b => a.same b
  | string a, string b => a == b
  | array a, array b => beqItems a b
  | object a, object b => beqEntries a b
  | _, _ => false

def beqItems : List Json → List Json → Bool
  | [], [] => true
  | a :: as, b :: bs => beq a b && beqItems as bs
  | _, _ => false

def beqEntries : List (String × Json) → List (String × Json) → Bool
  | [], [] => true
  | (k, a) :: as, (k', b) :: bs => k == k' && beq a b && beqEntries as bs
  | _, _ => false
end

instance : BEq Json := ⟨beq⟩

mutual
theorem beq_refl : ∀ a : Json, beq a a = true
  | null => rfl
  | bool _ => by simp [beq]
  | int _ => by simp [beq]
  | double d => by simp [beq, d.same_refl]
  | string _ => by simp [beq]
  | array items => by simp [beq, beqItems_refl items]
  | object entries => by simp [beq, beqEntries_refl entries]

theorem beqItems_refl : ∀ a : List Json, beqItems a a = true
  | [] => rfl
  | a :: as => by simp [beqItems, beq_refl a, beqItems_refl as]

theorem beqEntries_refl : ∀ a : List (String × Json), beqEntries a a = true
  | [] => rfl
  | (_, a) :: as => by simp [beqEntries, beq_refl a, beqEntries_refl as]
end

mutual
theorem beq_symm : ∀ a b : Json, beq a b = beq b a
  | null, b => by cases b <;> simp [beq]
  | bool _, b => by cases b <;> simp [beq, BEq.comm]
  | int _, b => by cases b <;> simp [beq, BEq.comm]
  | double d, b => by cases b <;> simp [beq, Double.same_symm d]
  | string _, b => by cases b <;> simp [beq, BEq.comm]
  | array items, b => by
    cases b with
    | array items' => simp [beq, beqItems_symm items items']
    | _ => simp [beq]
  | object entries, b => by
    cases b with
    | object entries' => simp [beq, beqEntries_symm entries entries']
    | _ => simp [beq]

theorem beqItems_symm : ∀ a b : List Json, beqItems a b = beqItems b a
  | [], b => by cases b <;> simp [beqItems]
  | _ :: _, [] => by simp [beqItems]
  | a :: as, b :: bs => by simp [beqItems, beq_symm a b, beqItems_symm as bs]

theorem beqEntries_symm : ∀ a b : List (String × Json), beqEntries a b = beqEntries b a
  | [], b => by cases b <;> simp [beqEntries]
  | _ :: _, [] => by simp [beqEntries]
  | (k, a) :: as, (k', b) :: bs => by
    simp [beqEntries, beq_symm a b, beqEntries_symm as bs, BEq.comm (a := k)]
end

mutual
theorem beq_trans : ∀ (a b c : Json), beq a b = true → beq b c = true → beq a c = true
  | null, b, c => by cases b <;> cases c <;> simp [beq]
  | bool _, b, c => by cases b <;> cases c <;> simp +contextual [beq]
  | int _, b, c => by cases b <;> cases c <;> simp +contextual [beq]
  | double _, b, c => by
    intro h h'
    cases b <;> simp only [beq, Bool.false_eq_true] at h
    cases c <;> simp only [beq, Bool.false_eq_true] at h'
    simp only [beq, Double.same_trans h h']
  | string _, b, c => by cases b <;> cases c <;> simp +contextual [beq]
  | array items, b, c => by
    intro h h'
    cases b <;> simp only [beq, Bool.false_eq_true] at h
    cases c <;> simp only [beq, Bool.false_eq_true] at h'
    simp only [beq, beqItems_trans items _ _ h h']
  | object entries, b, c => by
    intro h h'
    cases b <;> simp only [beq, Bool.false_eq_true] at h
    cases c <;> simp only [beq, Bool.false_eq_true] at h'
    simp only [beq, beqEntries_trans entries _ _ h h']

theorem beqItems_trans : ∀ a b c : List Json, beqItems a b = true → beqItems b c = true → beqItems a c = true
  | [], b, c => by cases b <;> cases c <;> simp [beqItems]
  | _ :: _, [], _ => by simp [beqItems]
  | _ :: _, _ :: _, [] => by simp [beqItems]
  | a :: as, b :: bs, c :: cs => by
    simp only [beqItems, Bool.and_eq_true]
    exact fun h h' => ⟨beq_trans a b c h.1 h'.1, beqItems_trans as bs cs h.2 h'.2⟩

theorem beqEntries_trans : ∀ a b c : List (String × Json),
    beqEntries a b = true → beqEntries b c = true → beqEntries a c = true
  | [], b, c => by cases b <;> cases c <;> simp [beqEntries]
  | _ :: _, [], _ => by simp [beqEntries]
  | _ :: _, _ :: _, [] => by simp [beqEntries]
  | (_, a) :: as, (_, b) :: bs, (_, c) :: cs => by
    simp only [beqEntries, Bool.and_eq_true, beq_iff_eq]
    exact fun h h' => ⟨⟨h.1.1.trans h'.1.1, beq_trans a b c h.1.2 h'.1.2⟩, beqEntries_trans as bs cs h.2 h'.2⟩
end

instance : ReflBEq Json := ⟨beq_refl _⟩

/-! ## Objects -/

/-- The object of the entries, the last one for each key, in ascending order of the keys. -/
def ofEntries (entries : List (String × Json)) : Json := object (Assoc.ofList entries)

mutual
/-- The value with the entries of every object in ascending order. -/
def canonical : Json → Json
  | array items => array (canonicalItems items)
  | object entries => ofEntries (canonicalEntries entries)
  | v => v

def canonicalItems : List Json → List Json
  | [] => []
  | v :: rest => canonical v :: canonicalItems rest

def canonicalEntries : List (String × Json) → List (String × Json)
  | [] => []
  | (k, v) :: rest => (k, canonical v) :: canonicalEntries rest
end

/-- The entries of an object; no other value has any. -/
def entries : Json → List (String × Json)
  | object es => es
  | _ => []

def get? (v : Json) (key : String) : Option Json := Assoc.get? key v.entries

/-- The object with the value under the key; whatever is no object counts as the empty one. -/
def insert (v : Json) (key : String) (value : Json) : Json := object (Assoc.insert key value v.entries)

/-- The object without the key; other values stay as they are. -/
def erase (v : Json) (key : String) : Json :=
  match v with
  | object es => object (Assoc.erase key es)
  | v => v

def at? (v : Json) : List String → Option Json
  | [] => some v
  | k :: path => (v.get? k).bind (·.at? path)

/-- The value with `value` put at the path; on the way, missing members and values that are no objects become objects. -/
def setAt (value : Json) : List String → Json → Json
  | [], _ => value
  | k :: path, v => v.insert k (setAt value path ((v.get? k).getD null))

/-- The value without the member at the path, if there is one. -/
def removeAt : List String → Json → Json
  | [], v => v
  | [k], v => v.erase k
  | k :: path, v =>
    match v.get? k with
    | some inner => v.insert k (removeAt path inner)
    | none => v

/-- How an error text names the value. -/
def describe : Json → String
  | null => "null"
  | bool b => "boolean `" ++ (if b then "true" else "false") ++ "`"
  | int n => "integer `" ++ toString n ++ "`"
  | double d => "floating point `" ++ d.text ++ "`"
  | string s => "string " ++ Text.quoted s
  | array _ => "sequence"
  | object _ => "map"

end Json

end Converge
