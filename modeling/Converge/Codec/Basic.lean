import Converge.Codec.Misread

/-!
# Codecs

How values of a type are read from JSON and written to it.

* `Codec` is a reader and a writer. `Codec.Stable` says that what was read is read again from its written form.
* `Codec.string`, `bool`, `int64`, `int32`, `word32`, `word16`, `choice`, `json`, `instant`, `list`, `stringMap` are the codecs of
  plain types.
-/

namespace Converge

set_option autoImplicit false

/-- A reader of JSON values into `α`, and a writer. -/
structure Codec (α : Type) where
  read : Json → Except Misread α
  write : α → Json

namespace Codec

/-- Whatever the codec reads, it reads again from the written form. -/
def Stable {α : Type} (c : Codec α) : Prop := ∀ v a, c.read v = .ok a → c.read (c.write a) = .ok a

def wrongKind {α : Type} (got : Json) (want : String) : Except Misread α := .error (.here (.kind got want))

def string : Codec String where
  read
    | .string s => .ok s
    | v => wrongKind v "a string"
  write := .string

def bool : Codec Bool where
  read
    | .bool b => .ok b
    | v => wrongKind v "a boolean"
  write := .bool

def int64 : Codec Int where
  read
    | .int n => if -9223372036854775808 ≤ n ∧ n ≤ 9223372036854775807 then .ok n else .error (.here (.value (.int n) "i64"))
    | v => wrongKind v "i64"
  write := .int

def int32 : Codec Int where
  read
    | .int n => if -2147483648 ≤ n ∧ n ≤ 2147483647 then .ok n else .error (.here (.value (.int n) "i32"))
    | v => wrongKind v "i32"
  write := .int

def word16 : Codec Nat where
  read
    | .int n => if 0 ≤ n ∧ n ≤ 65535 then .ok n.toNat else .error (.here (.value (.int n) "u16"))
    | v => wrongKind v "u16"
  write n := .int n

def word32 : Codec Nat where
  read
    | .int n => if 0 ≤ n ∧ n ≤ 4294967295 then .ok n.toNat else .error (.here (.value (.int n) "u32"))
    | v => wrongKind v "u32"
  write n := .int n

/-- A value that goes by one of some names: the name, or an object of only the name, with `null` under it. -/
def choice {α : Type} (known : List String) (ofText? : String → Option α) (text : α → String) : Codec α where
  read v :=
    let named (name : String) : Except Misread α :=
      match ofText? name with
      | some a => .ok a
      | none => .error (.here (.variant name known))
    match v with
    | .string name => named name
    | .object [(name, inner)] =>
      match named name with
      | .error e => .error e
      | .ok a =>
        match inner with
        | .null => .ok a
        | inner => wrongKind inner "unit"
    | .object entries => .error (.here (.value (.object entries) "map with a single key"))
    | v => wrongKind v "string or map"
  write a := .string (text a)

def json : Codec Json where
  read := .ok
  write := id

/-- A point in time, read to the nanosecond and written by `print`. -/
def instant (print : Instant → String) : Codec Instant where
  read
    | .string s =>
      match Instant.read s with
      | .ok t => .ok t
      | .error e => .error (.here (.time e))
    | v => wrongKind v "an RFC 3339 formatted date and time string"
  write t := .string (print t)

def readItems {α : Type} (read : Json → Except Misread α) : Nat → List Json → Except Misread (List α)
  | _, [] => .ok []
  | n, v :: rest =>
    match read v with
    | .error e => .error (e.under (.index n))
    | .ok a =>
      match readItems read (n + 1) rest with
      | .error e => .error e
      | .ok as => .ok (a :: as)

def list {α : Type} (c : Codec α) : Codec (List α) where
  read
    | .array items => readItems c.read 0 items
    | v => wrongKind v "a sequence"
  write as := .array (as.map c.write)

def readTexts : SortedMap String String → List (String × Json) → Except Misread (SortedMap String String)
  | m, [] => .ok m
  | m, (k, v) :: rest =>
    match string.read v with
    | .error e => .error (e.under (.key k))
    | .ok s => readTexts (m.insert k s) rest

def stringMap : Codec (SortedMap String String) where
  read
    | .object entries => readTexts .empty entries
    | v => wrongKind v "a map"
  write m := .object (m.entries.map fun e => (e.1, .string e.2))

/-! ## Stability -/

theorem stable_string : string.Stable := fun _ _ _ => rfl

theorem stable_bool : bool.Stable := fun _ _ _ => rfl

theorem stable_json : json.Stable := fun _ _ _ => rfl

theorem stable_int64 : int64.Stable := by
  intro v a h
  cases v with
  | int n =>
    simp only [int64] at h ⊢
    split at h
    · rename_i hn; cases h; exact if_pos hn
    · cases h
  | _ => cases h

theorem readItems_map_write {α : Type} {c : Codec α} {as : List α} (h : ∀ a ∈ as, c.read (c.write a) = .ok a) (n : Nat) :
    readItems c.read n (as.map c.write) = .ok as := by
  induction as generalizing n with
  | nil => rfl
  | cons a as ih =>
    simp only [List.map_cons, readItems, h a (List.mem_cons_self ..),
      ih (fun b hb => h b (List.mem_cons_of_mem _ hb))]

theorem exists_mem_read_of_mem_readItems {α : Type} {read : Json → Except Misread α} {n : Nat} {vs : List Json} {as : List α}
    (h : readItems read n vs = .ok as) {a : α} (ha : a ∈ as) : ∃ v ∈ vs, read v = .ok a := by
  induction vs generalizing n as with
  | nil => cases h; cases ha
  | cons v vs ih =>
    unfold readItems at h
    split at h
    · cases h
    · rename_i b hb
      split at h
      · cases h
      · rename_i bs hbs
        cases h
        rcases List.mem_cons.1 ha with rfl | ha
        · exact ⟨v, List.mem_cons_self .., hb⟩
        · obtain ⟨w, hw, hread⟩ := ih hbs ha
          exact ⟨w, List.mem_cons_of_mem _ hw, hread⟩

end Codec

end Converge
