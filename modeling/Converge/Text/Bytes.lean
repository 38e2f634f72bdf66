/-!
# Length in bytes

Lengths and cuts of text measured in UTF-8 bytes.

* `Text.byteLength` is the length of a list of characters; `byteLength_toList` ties it to the size of a string.
* `Text.fit` is the longest prefix of whole characters within a limit: `byteLength_fit_le`, `fit_prefix`, `fit_longest`, and
  `fit_eq_self_iff`, which says that nothing is cut exactly when everything fits.
* `Text.boundaryBefore` looks for a boundary between characters, from a byte backwards; `boundaryBefore_near`: it never goes
  back more than three bytes. `copy_sliceTo_boundaryBefore`: what is before that boundary is what fits.
-/

namespace Converge.Text

set_option autoImplicit false

def byteLength : List Char → Nat
  | [] => 0
  | c :: rest => c.utf8Size + byteLength rest

/-- The longest prefix of whole characters that takes at most `limit` bytes. -/
def fit : Nat → List Char → List Char
  | _, [] => []
  | limit, c :: rest => if c.utf8Size ≤ limit then c :: fit (limit - c.utf8Size) rest else []

@[simp] theorem byteLength_nil : byteLength [] = 0 := rfl

@[simp] theorem byteLength_cons (c : Char) (cs : List Char) : byteLength (c :: cs) = c.utf8Size + byteLength cs :=
  rfl

theorem byteLength_toList (s : String) : byteLength s.toList = s.utf8ByteSize := by
  have h (cs : List Char) : byteLength cs = (String.ofList cs).utf8ByteSize := by
    induction cs with
    | nil => simp [String.ofList_nil]
    | cons c rest ih =>
      rw [byteLength_cons, ih, show String.ofList (c :: rest) = String.ofList [c] ++ String.ofList rest by
        rw [← String.ofList_append]; rfl, String.utf8ByteSize_append, ← String.singleton_eq_ofList,
        String.utf8ByteSize_singleton]
  rw [h, String.ofList_toList]

theorem byteLength_fit_le (limit : Nat) (cs : List Char) : byteLength (fit limit cs) ≤ limit := by
  induction cs generalizing limit with
  | nil => simp [fit]
  | cons c rest ih =>
    unfold fit
    split
    · have := ih (limit - c.utf8Size)
      simp only [byteLength_cons]; omega
    · simp

theorem fit_prefix (limit : Nat) (cs : List Char) : fit limit cs <+: cs := by
  induction cs generalizing limit with
  | nil => simp [fit]
  | cons c rest ih =>
    unfold fit
    split
    · simpa using ih _
    · exact List.nil_prefix

theorem fit_longest {limit : Nat} {cs part : List Char} (start : part <+: cs) (fits : byteLength part ≤ limit) :
    part <+: fit limit cs := by
  induction cs generalizing limit part with
  | nil => simpa [fit] using start
  | cons c rest ih =>
    cases part with
    | nil => exact List.nil_prefix
    | cons d part =>
      obtain ⟨rfl, hrest⟩ := List.cons_prefix_cons.mp start
      rw [byteLength_cons] at fits
      have hc : d.utf8Size ≤ limit := by omega
      have hpart : byteLength part ≤ limit - d.utf8Size := by omega
      rw [fit, if_pos hc]
      exact List.cons_prefix_cons.mpr ⟨rfl, ih hrest hpart⟩

theorem fit_eq_self_iff (limit : Nat) (cs : List Char) : fit limit cs = cs ↔ byteLength cs ≤ limit := by
  induction cs generalizing limit with
  | nil => simp [fit]
  | cons c rest ih =>
    unfold fit
    split
    · rename_i h
      simp only [List.cons.injEq, true_and, ih, byteLength_cons]; omega
    · rename_i h
      simp only [byteLength_cons]
      constructor
      · intro h'; cases h'
      · intro h'; omega

theorem byteLength_append (as bs : List Char) : byteLength (as ++ bs) = byteLength as + byteLength bs := by
  induction as with
  | nil => simp
  | cons c as ih => rw [List.cons_append, byteLength_cons, ih, byteLength_cons, Nat.add_assoc]

theorem byteLength_replicate (n : Nat) (c : Char) : byteLength (List.replicate n c) = n * c.utf8Size := by
  induction n with
  | zero => rw [Nat.zero_mul]; rfl
  | succ n ih => rw [List.replicate_succ, byteLength_cons, ih, Nat.succ_mul, Nat.add_comm]

/-- A beginning that is as long as the whole is the whole. -/
theorem eq_of_prefix_of_byteLength_le {as bs : List Char} (start : as <+: bs) (le : byteLength bs ≤ byteLength as) :
    as = bs := by
  obtain ⟨rest, rfl⟩ := start
  rw [byteLength_append] at le
  cases rest with
  | nil => exact (List.append_nil as).symm
  | cons c rest =>
    have := c.utf8Size_pos
    rw [byteLength_cons] at le
    omega

/-- A character takes at most four bytes, so that less than four are left over if there is more text. -/
theorem le_byteLength_fit {limit : Nat} {cs : List Char} (h : limit ≤ byteLength cs) :
    limit ≤ byteLength (fit limit cs) + 3 := by
  induction cs generalizing limit with
  | nil => exact Nat.le_add_right_of_le h
  | cons c rest ih =>
    rw [byteLength_cons] at h
    unfold fit
    split
    · have left : limit - c.utf8Size ≤ byteLength rest := by omega
      have := ih left
      rw [byteLength_cons]
      omega
    · have := c.utf8Size_le_four
      rw [byteLength_nil]
      omega

/-! ## Boundaries between characters -/

/-- The boundary at byte `n` of the text, or else the last one before. Its start is one. -/
def boundaryBefore (s : String) : Nat → s.Pos
  | 0 => s.startPos
  | n + 1 => if h : (⟨n + 1⟩ : String.Pos.Raw).IsValid s then s.pos ⟨n + 1⟩ h else boundaryBefore s n

theorem boundaryBefore_le (s : String) (n : Nat) : (boundaryBefore s n).offset.byteIdx ≤ n := by
  induction n with
  | zero => exact Nat.le_refl 0
  | succ n ih =>
    unfold boundaryBefore
    split
    · exact Nat.le_refl (n + 1)
    · exact Nat.le_succ_of_le ih

/-- No boundary is passed. -/
theorem not_isValid_of_boundaryBefore_lt {s : String} {n m : Nat} (lt : (boundaryBefore s n).offset.byteIdx < m)
    (le : m ≤ n) : ¬ (⟨m⟩ : String.Pos.Raw).IsValid s := by
  induction n with
  | zero => exact absurd lt (Nat.not_lt_of_le (Nat.le_trans le (Nat.zero_le _)))
  | succ n ih =>
    unfold boundaryBefore at lt
    split at lt
    · exact absurd le (Nat.not_le_of_lt lt)
    · rename_i h
      rcases Nat.le_succ_iff.mp le with le | rfl
      · exact ih lt le
      · exact h

/-- The bytes of whole characters end at a boundary. -/
theorem isValid_byteLength {s : String} {part : List Char} (start : part <+: s.toList) :
    (⟨byteLength part⟩ : String.Pos.Raw).IsValid s := by
  rw [String.Pos.Raw.isValid_iff_exists_take_toList]
  refine ⟨part.length, ?_⟩
  rw [← List.prefix_iff_eq_take.mp start, ← byteLength_toList, String.toList_ofList]

theorem byteLength_sliceTo {s : String} (p : s.Pos) : byteLength (s.sliceTo p).copy.toList = p.offset.byteIdx := by
  rw [byteLength_toList, p.splits.offset_eq_rawEndPos, String.byteIdx_rawEndPos]

/-- What is before the boundary that is found is the longest beginning within the limit. -/
theorem copy_sliceTo_boundaryBefore (s : String) (n : Nat) :
    (s.sliceTo (boundaryBefore s n)).copy = String.ofList (fit n s.toList) := by
  have start : (s.sliceTo (boundaryBefore s n)).copy.toList <+: s.toList :=
    ⟨_, (String.toList_append.symm.trans (congrArg String.toList (boundaryBefore s n).splits.eq_append.symm))⟩
  have within : byteLength (s.sliceTo (boundaryBefore s n)).copy.toList ≤ n :=
    byteLength_sliceTo _ ▸ boundaryBefore_le s n
  have all : byteLength (fit n s.toList) ≤ byteLength (s.sliceTo (boundaryBefore s n)).copy.toList := by
    have fitting : fit n s.toList <+: s.toList := fit_prefix n s.toList
    rw [byteLength_sliceTo]
    exact Nat.le_of_not_lt fun lt =>
      not_isValid_of_boundaryBefore_lt lt (byteLength_fit_le n _) (isValid_byteLength fitting)
  rw [← eq_of_prefix_of_byteLength_le (fit_longest start within) all, String.ofList_toList]

/-- The search does not go back more than three bytes within a text. -/
theorem boundaryBefore_near {s : String} {n : Nat} (h : n ≤ s.utf8ByteSize) :
    n ≤ (boundaryBefore s n).offset.byteIdx + 3 := by
  rw [← byteLength_sliceTo, copy_sliceTo_boundaryBefore, String.toList_ofList]
  exact le_byteLength_fit (byteLength_toList s ▸ h)

end Converge.Text
