import Converge.Proofs.Calendar
import Converge.Proofs.Runs

/-!
# Points in time in print

What is left of a point in time when it is printed to the second.

* `Instant.digits`, `Instant.yearChars`: the characters that are printed; `readDigits_append`, `readYear_yearChars` read them.
* `Instant.shown` is the second that print leaves. `read_wholeSeconds`: the printed text is read as that;
  `wholeSeconds_shown`: nothing more is lost by printing again.
* `hasDate_of_read`: what was read from a text has a date, so that its printed form is read again.
-/

namespace Converge.Instant

set_option autoImplicit false

/-! ## Digits -/

/-- The characters of a number, behind zeros up to a width. -/
def digits (width n : Nat) : List Char := List.replicate (width - (Nat.toDigits 10 n).length) '0' ++ Nat.toDigits 10 n

@[simp] theorem toList_padded (width n : Nat) : (padded width n).toList = digits width n := by
  simp [padded, digits]

theorem isDigit_of_mem_digits {width n : Nat} {c : Char} (h : c ∈ digits width n) : c.isDigit = true := by
  rcases List.mem_append.1 h with h | h
  · rw [(List.mem_replicate.1 h).2]; rfl
  · exact Nat.isDigit_of_mem_toDigits (by decide) (by decide) h

theorem exists_digits_eq_cons (width n : Nat) : ∃ c cs, digits width n = c :: cs ∧ c.isDigit = true := by
  cases h : digits width n with
  | nil => exact absurd (List.append_eq_nil_iff.1 h).2 Nat.toDigits_ne_nil
  | cons c cs => exact ⟨c, cs, rfl, isDigit_of_mem_digits (h ▸ List.mem_cons_self ..)⟩

theorem length_digits {width n : Nat} (hw : 0 < width) (h : n < 10 ^ width) : (digits width n).length = width := by
  have := (Nat.length_toDigits_le_iff (by decide) hw).2 h
  simp only [digits, List.length_append, List.length_replicate]
  omega

/-- The number that digits stand for. -/
theorem foldl_digits (width n : Nat) : (digits width n).foldl (fun n d => n * 10 + digit d) 0 = n := by
  have hstep : (fun n d => n * 10 + digit d) = fun n (d : Char) => 10 * n + (d.toNat - '0'.toNat) := by
    funext n d
    rw [Nat.mul_comm]
    rfl
  rw [hstep, ← Nat.ofDigitChars, digits, Nat.ofDigitChars_append, Nat.ofDigitChars_replicate_zero, Nat.mul_zero,
    Nat.ofDigitChars_ten_toDigits]

theorem isBlank_of_isDigit {c : Char} (h : c.isDigit = true) : Text.isBlank c = false := by
  simp only [Char.isDigit, Bool.and_eq_true, decide_eq_true_eq, UInt32.le_iff_toNat_le] at h
  have h₁ : 48 ≤ c.toNat := h.1
  have h₂ : c.toNat ≤ 57 := h.2
  simp only [Text.isBlank, Bool.or_eq_false_iff, Bool.and_eq_false_iff, decide_eq_false_iff_not, beq_eq_false_iff_ne]
  omega

/-- Whether a text goes on with something else than a digit. -/
def Stops (cs : List Char) : Prop := ∀ c ∈ cs.head?, c.isDigit = false

theorem takeWhile_take_of_stops {rest : List Char} (h : Stops rest) (n : Nat) :
    (rest.take n).takeWhile Char.isDigit = [] := by
  cases rest with
  | nil => simp
  | cons c rest =>
    cases n with
    | zero => rfl
    | succ n => simp [h c rfl]

/-- Digits are read as far as the width goes or the text goes on with something else. -/
theorem readDigits_append {width width' n : Nat} {rest : List Char} (hle : (digits width n).length ≤ width')
    (hstop : (digits width n).length = width' ∨ Stops rest) :
    readDigits width' (digits width n ++ rest) = .ok (n, rest) := by
  have hall : ∀ c ∈ digits width n, c.isDigit = true := fun c => isDigit_of_mem_digits
  have htake : ((digits width n ++ rest).take width').takeWhile Char.isDigit = digits width n := by
    rw [List.take_append, List.take_of_length_le hle, List.takeWhile_append_of_pos hall]
    rcases hstop with h | h
    · simp [h]
    · rw [takeWhile_take_of_stops h, List.append_nil]
  obtain ⟨c, cs, hcons, hc⟩ := exists_digits_eq_cons width n
  unfold readDigits
  split
  · rename_i h
    rw [hcons] at h
    cases h
  · rename_i c' tail h
    obtain rfl : c' = c := by rw [hcons] at h; cases h; rfl
    simp only [hc, htake, foldl_digits, List.drop_left, Bool.not_true, Bool.false_eq_true, if_false]

theorem trimStart_digits (width n : Nat) (rest : List Char) :
    Text.trimStart (digits width n ++ rest) = digits width n ++ rest := by
  obtain ⟨c, cs, hcons, hc⟩ := exists_digits_eq_cons width n
  rw [hcons]
  exact Text.trimStart_of_not_blank _ (isBlank_of_isDigit hc)

theorem readPart_digits {low high n : Nat} (rest : List Char) (hn : n < 100) (hlow : low ≤ n) (hhigh : n ≤ high) :
    readPart low high (digits 2 n ++ rest) = .ok (n, rest) := by
  have hlen := @length_digits 2 n (by decide) hn
  simp only [readPart, trimStart_digits, readDigits_append hlen.le (.inl hlen)]
  exact if_pos ⟨hlow, hhigh⟩

/-! ## Years -/

/-- The characters of a year. -/
def yearChars (year : Int) : List Char :=
  if 0 ≤ year ∧ year ≤ 9999 then digits 4 year.toNat
  else (if year < 0 then '-' else '+') :: digits 4 year.natAbs

theorem readYear_yearChars (year : Int) {rest : List Char} (hstop : Stops rest) :
    readYear (yearChars year ++ rest) =
      if -2147483648 ≤ year ∧ year ≤ 2147483647 then .ok (year, rest) else .error .outOfRange := by
  have hread (n : Nat) : readDigits (digits 4 n ++ rest).length (digits 4 n ++ rest) = .ok (n, rest) :=
    readDigits_append (by simp) (.inr hstop)
  unfold yearChars
  split
  · have hlen := @length_digits 4 year.toNat (by decide) (by omega)
    obtain ⟨c, cs, hcons, hc⟩ := exists_digits_eq_cons 4 year.toNat
    have hplain : readDigits 4 (digits 4 year.toNat ++ rest) = .ok (year.toNat, rest) :=
      readDigits_append hlen.le (.inl hlen)
    simp only [readYear, trimStart_digits]
    split
    · rename_i heq; rw [hcons] at heq; cases heq; cases hc
    · rename_i heq; rw [hcons] at heq; cases heq; cases hc
    · simp only [hplain, Except.map]
      have hyear : ((year.toNat : Nat) : Int) = year := by omega
      rw [hyear]
      rfl
  · split
    · rw [List.cons_append, readYear, Text.trimStart_of_not_blank _ (by decide)]
      simp only [hread, Except.map]
      have hyear : -((year.natAbs : Nat) : Int) = year := by omega
      rw [hyear]
      rfl
    · rw [List.cons_append, readYear, Text.trimStart_of_not_blank _ (by decide)]
      simp only [hread, Except.map]
      have hyear : ((year.natAbs : Nat) : Int) = year := by omega
      rw [hyear]
      rfl

/-! ## Whole seconds -/

/-- The day of a point in time, counted from 1 January 1970. -/
def day (t : Instant) : Int := t.seconds.fdiv 86400

/-- The second of the day. -/
def clock (t : Instant) : Nat := (t.seconds - t.day * 86400).toNat

theorem clock_lt (t : Instant) : t.clock < 86400 := by
  unfold clock day
  rw [Int.fdiv_eq_ediv_of_nonneg _ (by decide)]
  omega

theorem seconds_eq (t : Instant) : t.seconds = t.day * 86400 + t.clock := by
  unfold clock day
  rw [Int.fdiv_eq_ediv_of_nonneg _ (by decide)]
  omega

/-- The second of the minute, as it is printed. -/
def shownSecond (t : Instant) : Nat := t.clock % 60 + if t.nanos ≥ 1000000000 then 1 else 0

theorem toList_wholeSeconds (t : Instant) : t.wholeSeconds.toList =
    yearChars (dateOf t.day).1 ++ '-' :: (digits 2 (dateOf t.day).2.1 ++ '-' :: (digits 2 (dateOf t.day).2.2 ++
      'T' :: (digits 2 (t.clock / 3600) ++ ':' :: (digits 2 (t.clock / 60 % 60) ++ ':' :: (digits 2 t.shownSecond ++ ['Z']))))) := by
  have hyear (y : Int) :
      (if 0 ≤ y ∧ y ≤ 9999 then padded 4 y.toNat else (if y < 0 then "-" else "+") ++ padded 4 y.natAbs).toList =
        yearChars y := by
    unfold yearChars
    split
    · simp
    · split <;> simp
  unfold wholeSeconds clockText
  simp only [String.toList_append, toList_padded, hyear]
  simp [shownSecond, clock, day]

/-- The point in time that is left in print: the second, or the leap second at the end of a minute. -/
def shown (t : Instant) : Instant :=
  ⟨t.day * 86400 + (t.clock / 60 * 60 + min t.shownSecond 59 : Nat), if t.shownSecond = 60 then 1000000000 else 0⟩

theorem day_shown (t : Instant) : t.shown.day = t.day := by
  have := t.clock_lt
  rw [day, Int.fdiv_eq_ediv_of_nonneg _ (by decide)]
  simp only [shown]
  omega

theorem clock_shown (t : Instant) : t.shown.clock = t.clock / 60 * 60 + min t.shownSecond 59 := by
  have h := t.shown.seconds_eq
  rw [day_shown] at h
  simp only [shown] at h ⊢
  omega

theorem shownSecond_shown (t : Instant) : t.shown.shownSecond = t.shownSecond := by
  have : t.shownSecond ≤ 60 := by unfold shownSecond; split <;> omega
  rw [shownSecond, clock_shown]
  by_cases h : t.shownSecond = 60
  · simp [shown, h]
  · simp [shown, h]
    omega

theorem hasDate_eq (t : Instant) : t.hasDate = hasYear (dateOf t.day).1 := rfl

theorem hasDate_shown (t : Instant) : t.shown.hasDate = t.hasDate := by
  rw [hasDate_eq, hasDate_eq, day_shown]

/-- What is left in print prints the same. -/
theorem wholeSeconds_shown (t : Instant) : t.shown.wholeSeconds = t.wholeSeconds := by
  have : t.shownSecond ≤ 60 := by unfold shownSecond; split <;> omega
  have hhour : t.shown.clock / 3600 = t.clock / 3600 := by rw [clock_shown]; omega
  have hminute : t.shown.clock / 60 % 60 = t.clock / 60 % 60 := by rw [clock_shown]; omega
  apply String.toList_inj.1
  rw [toList_wholeSeconds, toList_wholeSeconds, day_shown, shownSecond_shown, hhour, hminute]

theorem readMark_mark {mark : Char} (h : Text.isBlank mark = false) (rest : List Char) :
    readMark mark (Text.trimStart (mark :: rest)) = .ok rest := by
  simp [Text.trimStart_of_not_blank _ h, readMark]

/-- **A printed point in time is read as what is left of it in print, if it has a date at all.** -/
theorem read_wholeSeconds (t : Instant) :
    read t.wholeSeconds = if t.hasDate = true then .ok t.shown else .error .outOfRange := by
  rcases hdate : dateOf t.day with ⟨year, month, day⟩
  have hyear : t.hasDate = hasYear year := by rw [hasDate_eq, hdate]
  obtain ⟨hm, hm', hd, hd', hdays⟩ := dateOf_spec t.day hdate
  have hclock := t.clock_lt
  have hsecond : t.shownSecond ≤ 60 := by unfold shownSecond; split <;> omega
  have hlength : monthLength year month ≤ 31 := by unfold monthLength; split <;> (try split) <;> omega
  have hfields : (daysOf year month day * 86400 + ((t.clock / 3600 : Nat) * 3600 + (t.clock / 60 % 60 : Nat) * 60 +
      (min t.shownSecond 59 : Nat)) - 0 : Int) = t.day * 86400 + (t.clock / 60 * 60 + min t.shownSecond 59 : Nat) := by
    rw [hdays]
    omega
  have hY (rest : List Char) := readYear_yearChars year (show Stops ('-' :: rest) by simp [Stops])
  have hdash (rest : List Char) : readMark '-' (Text.trimStart ('-' :: rest)) = .ok rest := readMark_mark (by decide) rest
  have hcolon (rest : List Char) : readMark ':' (Text.trimStart (':' :: rest)) = .ok rest := readMark_mark (by decide) rest
  have hsep (rest : List Char) : readSeparator ('T' :: rest) = .ok rest := rfl
  have hM (rest : List Char) : readPart 1 12 (digits 2 month ++ rest) = .ok (month, rest) :=
    readPart_digits rest (by omega) hm hm'
  have hD (rest : List Char) : readPart 1 31 (digits 2 day ++ rest) = .ok (day, rest) :=
    readPart_digits rest (by omega) hd (hd'.trans hlength)
  have hh (rest : List Char) : readPart 0 23 (digits 2 (t.clock / 3600) ++ rest) = .ok (t.clock / 3600, rest) :=
    readPart_digits rest (by omega) (by omega) (by omega)
  have hmin (rest : List Char) : readPart 0 59 (digits 2 (t.clock / 60 % 60) ++ rest) = .ok (t.clock / 60 % 60, rest) :=
    readPart_digits rest (by omega) (by omega) (by omega)
  have hs (rest : List Char) : readPart 0 60 (digits 2 t.shownSecond ++ rest) = .ok (t.shownSecond, rest) :=
    readPart_digits rest (by omega) (by omega) hsecond
  have hfraction : readFraction ['Z'] = .ok (0, ['Z']) := rfl
  have hzone : readOffset (Text.trimStart ['Z']) = .ok (0, []) := rfl
  unfold read
  rw [toList_wholeSeconds, hdate]
  rw [hY]
  by_cases hrange : -2147483648 ≤ year ∧ year ≤ 2147483647
  · rw [if_pos hrange]
    simp only [hdash, hM, hD, hsep, hh, hcolon, hmin, hs, hfraction, hzone, bind, Except.bind]
    simp only [hfields, Nat.zero_add]
    rw [if_neg (by decide)]
    by_cases hin : hasYear year = true
    · rw [if_neg (by simp [hin]; omega), if_neg (by decide), hyear, if_pos hin]
      have hshown : t.shown.hasDate = true := by rw [hasDate_shown, hyear, hin]
      exact if_pos hshown
    · rw [if_pos (.inl (by simpa using hin)), hyear, if_neg hin]
      rfl
  · have hout : ¬ hasYear year = true := by
      intro hin
      simp only [hasYear, yearRange, Bool.and_eq_true] at hin
      have hlow := of_decide_eq_true hin.1
      have hhigh := of_decide_eq_true hin.2
      omega
    rw [if_neg hrange, hyear, if_neg hout]
    rfl


theorem hasDate_of_read {text : String} {t : Instant} (h : read text = .ok t) : t.hasDate = true := by
  unfold read at h
  simp only [bind_eq_ok] at h
  obtain ⟨_, -, _, -, _, -, _, -, _, -, _, -, _, -, _, -, _, -, _, -, _, -, _, -, _, -, h⟩ := h
  split at h
  · cases h
  split at h
  · cases h
  split at h
  · cases h
  rcases ite_eq_iff.1 h with ⟨hdate, h⟩ | ⟨-, h⟩
  · cases h
    exact hdate
  · cases h

end Converge.Instant
