import Converge.Json.Basic
import Converge.Json.Fault

/-!
# Number literals

A literal without point or exponent that fits 64 bits, signed or not, is an integer; `-0` and every other literal is a
double.

* `Json.readNumber` reads a literal from its first digit on.
* A double is read from at most 64 bits of digits and a power of ten: `Json.scale` rounds the digits, then the product or
  the quotient with the rounded power. Digits that no longer fit only shift the power.
-/

namespace Converge.Json

set_option autoImplicit false

def failAt {α : Type} (fault : Fault) (cs : List Char) : Except Failure α := .error ⟨fault, Text.byteLength cs⟩

/-- A failure one byte behind the characters left. -/
def failPast {α : Type} (fault : Fault) (cs : List Char) : Except Failure α := .error ⟨fault, Text.byteLength cs - 1⟩

def maxWord : Nat := 18446744073709551615

def digitValue (c : Char) : Nat := c.toNat - 48

/-- Takes digits into `word` as long as 64 bits hold it; gives the word, the number of digits taken and the rest. -/
def takeDigits (limit : Nat) : Nat → Nat → List Char → Nat × Nat × List Char
  | word, taken, c :: rest =>
    if c.isDigit && word * 10 + digitValue c ≤ limit then takeDigits limit (word * 10 + digitValue c) (taken + 1) rest
    else (word, taken, c :: rest)
  | word, taken, [] => (word, taken, [])

def startsWithDigit : List Char → Bool
  | c :: _ => c.isDigit
  | [] => false

/-- `a · 10 ^ e` rounded, for a power that is itself a double. -/
def timesPower (a : Double) (e : Int) : Option Double := do
  let power ← Double.ofNat? (Nat.pow 10 e.natAbs)
  if e ≥ 0 then a.mul power else a.div power

/-- `word · 10 ^ e`: the word rounded, divided by the greatest power until the rest of the power is a double. -/
def scale : Nat → Double → Int → Option Double
  | 0, a, _ => some a
  | steps + 1, a, e =>
    if e.natAbs ≤ 308 then timesPower a e
    else if a.mantissa = 0 then some a
    else if e ≥ 0 then none
    else do scale steps (← timesPower a (-308)) (e + 308)

/-- The double `± word · 10 ^ e`. Three steps take every word below the least double. -/
def assemble (negative : Bool) (word : Nat) (e : Int) (cs : List Char) : Except Failure (Json × List Char) :=
  match (Double.ofNat? word).bind fun a => scale 4 a e with
  | some a => .ok (double { a with negative }, cs)
  | none => failAt .numberTooLarge cs

def readExponent (negative : Bool) (word : Nat) (e : Int) (cs : List Char) : Except Failure (Json × List Char) :=
  let (down, cs) := match cs with
    | '+' :: rest => (false, rest)
    | '-' :: rest => (true, rest)
    | cs => (false, cs)
  match cs with
  | [] => failAt .endInValue []
  | c :: rest =>
    if !c.isDigit then failPast .badNumber (c :: rest)
    else
      let (n, _, rest) := takeDigits 2147483647 0 0 (c :: rest)
      if startsWithDigit rest then
        if word != 0 && !down then failPast .numberTooLarge rest
        else .ok (double (Double.zero negative), rest.dropWhile Char.isDigit)
      else assemble negative word (if down then e - n else e + n) rest

/-- An exponent if one follows, else the end of the literal. -/
def readTail (negative : Bool) (word : Nat) (e : Int) (cs : List Char) : Except Failure (Json × List Char) :=
  match cs with
  | 'e' :: rest => readExponent negative word e rest
  | 'E' :: rest => readExponent negative word e rest
  | cs => assemble negative word e cs

def readDecimals (negative : Bool) (word : Nat) (e : Int) (cs : List Char) : Except Failure (Json × List Char) :=
  let (word, taken, rest) := takeDigits maxWord word 0 cs
  if startsWithDigit rest then readTail negative word (e - taken) (rest.dropWhile Char.isDigit)
  else if taken = 0 then
    if rest.isEmpty then failAt .endInValue rest else failPast .badNumber rest
  else readTail negative word (e - taken) rest

/-- A literal from behind its sign. -/
def readNumber (negative : Bool) (cs : List Char) : Except Failure (Json × List Char) :=
  match cs with
  | [] => failAt .endInValue []
  | c :: rest =>
    if !c.isDigit then failPast .badNumber (c :: rest)
    else if c = '0' && startsWithDigit rest then failPast .badNumber rest
    else
      let (word, taken, rest) := if c = '0' then (0, 1, rest) else takeDigits maxWord 0 0 (c :: rest)
      let whole := rest.takeWhile Char.isDigit
      if taken = 0 then failPast .badNumber rest
      else
        match rest.dropWhile Char.isDigit with
        | '.' :: behind => readDecimals negative word whole.length behind
        | behind =>
          if whole.isEmpty && behind.head? != some 'e' && behind.head? != some 'E' then
            if !negative then .ok (int word, behind)
            else if word = 0 || word > 9223372036854775808 then assemble true word 0 behind
            else .ok (int (-word), behind)
          else readTail negative word whole.length behind

end Converge.Json
