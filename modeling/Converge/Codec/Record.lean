import Converge.Codec.Basic

/-!
# Records

Codecs of structures, put together from their members.

* `Field σ` is one member of `σ`: where it is found in `σ` and how it is read and written. `Field.optional` leaves an unset
  member out and reads `null` as unset; `Field.defaulted` and `Field.required` always write the member; `Field.lenient`
  also reads `null` as the default.
* `Record σ` lists the members in their order: no two share a key or overlap, and together they are all of `σ`. An object
  is read member by member in the order of its entries, unknown keys aside, and then must have had every required member.
  Where `positional` allows it, an array is read as the members in their order.
* `Record.codec` is the codec; an object is written with its keys in ascending order.
-/

namespace Converge

set_option autoImplicit false

structure Field (σ : Type) where
  key : String
  /-- Whether an object must have it. -/
  needed : Bool
  /-- Whether an array may end before it. -/
  omissible : Bool
  {Part : Type}
  get : σ → Part
  set : Part → σ → σ
  /-- Reads the member; what it was before stays where the value says nothing. -/
  readPart : Json → Part → Except Misread Part
  /-- Writes the member, unless it is to be left out. -/
  writePart : Part → Option Json
  get_set : ∀ p s, get (set p s) = p
  set_get : ∀ s, set (get s) s = s

namespace Field

variable {σ β : Type}

/-- Reads the member into a structure. -/
def read (f : Field σ) (v : Json) (s : σ) : Except Misread σ :=
  match f.readPart v (f.get s) with
  | .ok p => .ok (f.set p s)
  | .error e => .error e

def write (f : Field σ) (s : σ) : Option Json := f.writePart (f.get s)

/-- Reading either member leaves the other as it is. -/
structure Apart (f g : Field σ) : Prop where
  left : ∀ p s, f.get (g.set p s) = f.get s
  right : ∀ p s, g.get (f.set p s) = g.get s

/-- A member that may be unset: then it is not written, and `null` reads as unset. -/
def optional (key : String) (c : Codec β) (get : σ → Option β) (set : Option β → σ → σ)
    (get_set : ∀ p s, get (set p s) = p := by intros; rfl) (set_get : ∀ s, set (get s) s = s := by intros; rfl) :
    Field σ where
  key
  needed := false
  omissible := true
  get
  set
  readPart v _ :=
    match v with
    | .null => .ok none
    | v =>
      match c.read v with
      | .ok b => .ok (some b)
      | .error e => .error e
  writePart p := p.map c.write
  get_set
  set_get

/-- A member that keeps its default where it is missing. -/
def defaulted (key : String) (c : Codec β) (get : σ → β) (set : β → σ → σ)
    (get_set : ∀ p s, get (set p s) = p := by intros; rfl) (set_get : ∀ s, set (get s) s = s := by intros; rfl) :
    Field σ where
  key
  needed := false
  omissible := true
  get
  set
  readPart v _ := c.read v
  writePart p := some (c.write p)
  get_set
  set_get

def required (key : String) (c : Codec β) (get : σ → β) (set : β → σ → σ)
    (get_set : ∀ p s, get (set p s) = p := by intros; rfl) (set_get : ∀ s, set (get s) s = s := by intros; rfl) :
    Field σ :=
  { defaulted key c get set get_set set_get with needed := true, omissible := false }

/-- A member that may be unset in an object, but must have its place in an array. -/
def placed (key : String) (c : Codec β) (get : σ → Option β) (set : Option β → σ → σ)
    (get_set : ∀ p s, get (set p s) = p := by intros; rfl) (set_get : ∀ s, set (get s) s = s := by intros; rfl) :
    Field σ :=
  { optional key c get set get_set set_get with omissible := false }

/-- A member that keeps its default where it is missing or `null`. -/
def lenient (key : String) (c : Codec β) (get : σ → β) (set : β → σ → σ)
    (get_set : ∀ p s, get (set p s) = p := by intros; rfl) (set_get : ∀ s, set (get s) s = s := by intros; rfl) :
    Field σ where
  key
  needed := false
  omissible := true
  get
  set
  readPart v p :=
    match v with
    | .null => .ok p
    | v => c.read v
  writePart p := some (c.write p)
  get_set
  set_get

end Field

structure Record (σ : Type) where
  /-- How an error text names the structure. -/
  name : String
  blank : σ
  fields : List (Field σ)
  /-- Whether an array of the members reads as the structure. -/
  positional : Bool
  nodup_keys : (fields.map (·.key)).Nodup := by decide
  apart : fields.Pairwise Field.Apart := by
    repeat' first | exact .nil | refine .cons ?_ ?_ | (refine List.forall_mem_cons.mpr ⟨⟨fun _ _ => rfl, fun _ _ => rfl⟩, ?_⟩) | exact List.forall_mem_nil _
  /-- The members are all of the structure. -/
  ext : ∀ s t, (∀ f ∈ fields, f.get s = f.get t) → s = t := by
    intro s t h; cases s; cases t; simp_all [Field.optional, Field.defaulted, Field.required, Field.placed, Field.lenient]

namespace Record

variable {σ : Type}

/-- Reads the entries of an object into a structure, unknown keys aside. -/
def readEntries (fields : List (Field σ)) : List (String × Json) → σ → Except Misread σ
  | [], s => .ok s
  | (k, v) :: rest, s =>
    match fields.find? (·.key = k) with
    | none => readEntries fields rest s
    | some f =>
      match f.read v s with
      | .error e => .error (e.under (.key k))
      | .ok s => readEntries fields rest s

/-- The first required member that the entries do not have. -/
def missing? (fields : List (Field σ)) (entries : List (String × Json)) : Option String :=
  (fields.find? fun f => f.needed && (Assoc.get? f.key entries).isNone).map (·.key)

/-- Reads items in turn as members; `total` is the number of all items and `n` the number of the next. -/
def readPlaces (tooFew : Misread.Cause) (total : Nat) :
    Nat → List (Field σ) → List Json → σ → Except Misread σ
  | _, [], [], s => .ok s
  | _, [], _ :: _, _ => .error (.here (.tooMany total))
  | n, f :: fields, [], s =>
    if f.omissible then readPlaces tooFew total n fields [] s else .error (.here tooFew)
  | n, f :: fields, v :: rest, s =>
    match f.read v s with
    | .error e => .error (e.under (.index n))
    | .ok s => readPlaces tooFew total (n + 1) fields rest s

def read (r : Record σ) (v : Json) : Except Misread σ :=
  match v with
  | .object entries =>
    match readEntries r.fields entries r.blank with
    | .error e => .error e
    | .ok s =>
      match missing? r.fields entries with
      | some key => .error (.here (.missing key))
      | none => .ok s
  | .array items =>
    if r.positional then
      let want := r.name ++ " with " ++ toString r.fields.length ++ " elements"
      readPlaces (.tooFew items.length want) items.length 0 r.fields items r.blank
    else Codec.wrongKind v r.name
  | v => Codec.wrongKind v r.name

/-- The members that are written, in their order. -/
def members (r : Record σ) (s : σ) : List (String × Json) :=
  r.fields.filterMap fun f => (f.write s).map fun v => (f.key, v)

def write (r : Record σ) (s : σ) : Json := .ofEntries (r.members s)

def codec (r : Record σ) : Codec σ := ⟨r.read, r.write⟩

end Record

end Converge
