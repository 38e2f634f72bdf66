/-!
# Finite doubles

Finite binary floating-point numbers with 53 significant bits, as exact data.

* `Double` is `± mantissa · 2 ^ exponent`, `Double.same` its comparison by value, in which the two zeros are one number.
* `Double.ofQuotient` rounds a quotient to the nearest double, a tie to the even mantissa; `Double.mul` and `Double.div`
  are the exact operations rounded once.
* `Double.shortest` is the shortest decimal that rounds back to the double, the nearest of those.
* `same_refl`, `same_symm`, `same_trans`: comparison by value is an equivalence.
-/

namespace Converge

set_option autoImplicit false

/-- A finite double: `± mantissa · 2 ^ exponent`, the mantissa below `2 ^ 53` and the exponent at least `-1074`. -/
structure Double where
  negative : Bool
  mantissa : Nat
  exponent : Int
deriving DecidableEq, Inhabited

namespace Double

def zero (negative : Bool) : Double := ⟨negative, 0, -1074⟩

/-- Equality of the numbers, so that the sign of a zero does not count. -/
def same (a b : Double) : Bool := (a.mantissa == 0 && b.mantissa == 0) || a == b

theorem same_refl (a : Double) : same a a = true := by simp [same]

theorem same_symm (a b : Double) : same a b = same b a := by
  simp only [same, Bool.and_comm (a.mantissa == 0), BEq.comm (a := a)]

theorem same_trans {a b c : Double} (h : same a b = true) (h' : same b c = true) : same a c = true := by
  simp only [same, Bool.or_eq_true, Bool.and_eq_true, beq_iff_eq] at *
  rcases h with ⟨ha, hb⟩ | rfl
  · rcases h' with ⟨_, hc⟩ | rfl
    · exact .inl ⟨ha, hc⟩
    · exact .inl ⟨ha, hb⟩
  · exact h'

/-! ## Rounding -/

/-- The integer nearest to `num / den`, a tie to the even one. -/
def roundHalfEven (num den : Nat) : Nat :=
  let q := num / den
  let r := num % den
  if 2 * r > den || (2 * r == den && q % 2 == 1) then q + 1 else q

/-- `num / den` in units of `2 ^ e`, as a quotient of naturals. -/
def inUnits (num den : Nat) (e : Int) : Nat × Nat :=
  if e ≥ 0 then (num, den * Nat.pow 2 e.toNat) else (num * Nat.pow 2 (-e).toNat, den)

/-- The double nearest to `± num / den`, or nothing beyond the largest finite one. -/
def ofQuotient (negative : Bool) (num den : Nat) : Option Double :=
  if num = 0 then some (zero negative)
  else
    let e := (Nat.log2 num : Int) - Nat.log2 den - 52
    let (n, d) := inUnits num den e
    let e := max (if n < d * Nat.pow 2 52 then e - 1 else e) (-1074)
    let (n, d) := inUnits num den e
    let m := roundHalfEven n d
    let (m, e) := if m = Nat.pow 2 53 then (Nat.pow 2 52, e + 1) else (m, e)
    if e > 971 then none else some ⟨negative, m, e⟩

/-- The double nearest to a natural number. -/
def ofNat? (n : Nat) : Option Double := ofQuotient false n 1

/-- The product, rounded once. -/
def mul (a b : Double) : Option Double :=
  let (n, d) := inUnits (a.mantissa * b.mantissa) 1 (-(a.exponent + b.exponent))
  ofQuotient (a.negative != b.negative) n d

/-- The quotient, rounded once; the divisor is not zero. -/
def div (a b : Double) : Option Double :=
  let (n, d) := inUnits a.mantissa b.mantissa (-(a.exponent - b.exponent))
  ofQuotient (a.negative != b.negative) n d

def neg (a : Double) : Double := { a with negative := !a.negative }

/-! ## The shortest decimal -/

/-- The number of decimal places before the point of `num / den`, negative for leading zeros behind it. -/
def magnitude (num den : Nat) : Int :=
  if num ≥ den then (Nat.toDigits 10 (num / den)).length
  else -((List.range 400).takeWhile fun j => num * Nat.pow 10 (j + 1) < den).length

/-- The better of the two multiples of `10 ^ t` around the double that lie where numbers round to it. -/
def onGrid (a : Double) (t : Int) : Option Nat :=
  let scale (x : Nat) : Nat × Nat :=
    let (n, d) := inUnits x 1 (-(a.exponent - 2))
    if t ≥ 0 then (n, d * Nat.pow 10 t.toNat) else (n * Nat.pow 10 (-t).toNat, d)
  let (v, den) := scale (4 * a.mantissa)
  let lowGap := if a.mantissa = Nat.pow 2 52 ∧ a.exponent > -1074 then 1 else 2
  let low := (scale (4 * a.mantissa - lowGap)).1
  let high := (scale (4 * a.mantissa + 2)).1
  let inside (c : Nat) : Bool :=
    if a.mantissa % 2 = 0 then low ≤ c * den && c * den ≤ high else low < c * den && c * den < high
  let c := v / den
  match inside c && c != 0, inside (c + 1) with
  | true, true =>
    if 2 * (v % den) < den || (2 * (v % den) == den && c % 2 == 0) then some c else some (c + 1)
  | true, false => some c
  | false, true => some (c + 1)
  | false, false => none

/-- A decimal `digits · 10 ^ exponent` without trailing zeros. -/
def trimZeros : Nat → Nat → Int → Nat × Int
  | 0, digits, exponent => (digits, exponent)
  | fuel + 1, digits, exponent =>
    if digits != 0 && digits % 10 == 0 then trimZeros fuel (digits / 10) (exponent + 1) else (digits, exponent)

/-- The shortest decimal `digits · 10 ^ exponent` that rounds back to the size of the double. -/
def shortest (a : Double) : Nat × Int :=
  if a.mantissa = 0 then (0, 0)
  else
    let (n, d) := inUnits a.mantissa 1 (-a.exponent)
    let p := magnitude n d
    let found := (List.range 17).findSome? fun i =>
      let t := p - (i + 1 : Nat)
      (onGrid a t).map fun c => trimZeros 20 c t
    found.getD (0, 0)

def digitChars (n : Nat) : List Char := Nat.toDigits 10 n

/-- The text of a double: plain notation from `1e-5` up to below `1e16`, else an exponent with its sign; a point or an
exponent always marks it as a double. -/
def text (a : Double) : String :=
  let sign := if a.negative then "-" else ""
  if a.mantissa = 0 then sign ++ "0.0"
  else
    let (digits, k) := a.shortest
    let ds := digitChars digits
    let point := (ds.length : Int) + k
    let zeros (n : Int) : List Char := List.replicate n.toNat '0'
    let body : List Char :=
      if 0 ≤ k ∧ point ≤ 16 then ds ++ zeros k ++ ['.', '0']
      else if 0 < point ∧ point ≤ 16 then ds.take point.toNat ++ '.' :: ds.drop point.toNat
      else if -5 < point ∧ point ≤ 0 then '0' :: '.' :: zeros (-point) ++ ds
      else
        let e := point - 1
        let fraction := if ds.length = 1 then [] else '.' :: ds.drop 1
        ds.take 1 ++ fraction ++ ['e', if e < 0 then '-' else '+'] ++ digitChars e.natAbs
    sign ++ String.ofList body

end Double

end Converge
