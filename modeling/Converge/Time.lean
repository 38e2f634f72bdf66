import Converge.Text.Blank

/-!
# Points in time

Points in time to the nanosecond in UTC, and their RFC 3339 text.

* `Instant` counts seconds from 1970; a nanosecond part of a second or more stands for a leap second.
* `Instant.read` accepts RFC 3339 with blanks before each number, any offset, a blank or a small letter between date and
  time, and second 60; `Instant.Fault` names what it refuses.
* `Instant.wholeSeconds` drops the fraction in print, `Instant.micros` has six decimals, `Instant.exact` prints the fewest of 0, 3, 6 or 9 decimals that are
  exact.
-/

namespace Converge

set_option autoImplicit false

structure Instant where
  seconds : Int
  /-- Nanoseconds of the second, a whole second more in a leap second. -/
  nanos : Nat
deriving DecidableEq, Inhabited

namespace Instant

inductive Fault where
  | tooShort
  | invalid
  | outOfRange
  | trailing
  /-- The date in UTC is beyond the last day, or before the first. -/
  | impossible
deriving DecidableEq

def Fault.message : Fault → String
  | tooShort => "premature end of input"
  | invalid => "input contains invalid characters"
  | outOfRange => "input is out of range"
  | trailing => "trailing input"
  | impossible => "no possible date and time matching input"

/-! ## The calendar -/

/-- Days from 1 January 1970 to a date of the proleptic Gregorian calendar. -/
def daysOf (year : Int) (month day : Nat) : Int :=
  let y := if month ≤ 2 then year - 1 else year
  let era := y.fdiv 400
  let yearOfEra := (y - era * 400).toNat
  let shifted := (month + 9) % 12
  let dayOfYear := (153 * shifted + 2) / 5 + day - 1
  let dayOfEra := yearOfEra * 365 + yearOfEra / 4 - yearOfEra / 100 + dayOfYear
  era * 146097 + dayOfEra - 719468

/-- The year, month and day that lie so many days after 1 January 1970. -/
def dateOf (days : Int) : Int × Nat × Nat :=
  let z := days + 719468
  let era := z.fdiv 146097
  let dayOfEra := (z - era * 146097).toNat
  let yearOfEra := (dayOfEra - dayOfEra / 1460 + dayOfEra / 36524 - dayOfEra / 146096) / 365
  let dayOfYear := dayOfEra - (365 * yearOfEra + yearOfEra / 4 - yearOfEra / 100)
  let shifted := (5 * dayOfYear + 2) / 153
  let day := dayOfYear - (153 * shifted + 2) / 5 + 1
  let month := if shifted < 10 then shifted + 3 else shifted - 9
  (yearOfEra + era * 400 + (if month ≤ 2 then 1 else 0), month, day)

def isLeap (year : Int) : Bool := year % 4 == 0 && (year % 100 != 0 || year % 400 == 0)

def monthLength (year : Int) (month : Nat) : Nat :=
  if month = 2 then (if isLeap year then 29 else 28)
  else if month = 4 ∨ month = 6 ∨ month = 9 ∨ month = 11 then 30
  else 31

/-- The first and the last year that have dates. -/
def yearRange : Int × Int := (-262143, 262142)

def hasYear (year : Int) : Bool := yearRange.1 ≤ year && year ≤ yearRange.2

/-- Whether the year of the date in UTC has dates. -/
def hasDate (t : Instant) : Bool := hasYear (dateOf (t.seconds.fdiv 86400)).1

/-! ## Reading -/

def digit (c : Char) : Nat := c.toNat - 48

/-- The number of up to `width` digits, at least one. -/
def readDigits (width : Nat) (cs : List Char) : Except Fault (Nat × List Char) :=
  match cs with
  | [] => .error .tooShort
  | c :: _ =>
    if !c.isDigit then .error .invalid
    else
      let ds := (cs.take width).takeWhile Char.isDigit
      .ok (ds.foldl (fun n d => n * 10 + digit d) 0, cs.drop ds.length)

/-- A number of up to two digits within bounds, behind any blanks. -/
def readPart (low high : Nat) (cs : List Char) : Except Fault (Nat × List Char) := do
  let (n, rest) ← readDigits 2 (Text.trimStart cs)
  if low ≤ n ∧ n ≤ high then return (n, rest) else throw .outOfRange

/-- A year: four digits, or a sign and any number of them, behind any blanks. -/
def readYear (cs : List Char) : Except Fault (Int × List Char) := do
  let cs := Text.trimStart cs
  let (n, rest) ← match cs with
    | '-' :: rest => (readDigits rest.length rest).map fun (n, rest) => (-(n : Int), rest)
    | '+' :: rest => (readDigits rest.length rest).map fun (n, rest) => ((n : Int), rest)
    | cs => (readDigits 4 cs).map fun (n, rest) => ((n : Int), rest)
  if -2147483648 ≤ n ∧ n ≤ 2147483647 then return (n, rest) else throw .outOfRange

def readMark (mark : Char) (cs : List Char) : Except Fault (List Char) :=
  match cs with
  | [] => .error .tooShort
  | c :: rest => if c = mark then .ok rest else .error .invalid

/-- The mark between date and time. -/
def readSeparator (cs : List Char) : Except Fault (List Char) :=
  match cs with
  | [] => .error .tooShort
  | c :: rest => if c = 't' ∨ c = 'T' ∨ c = ' ' then .ok rest else .error .invalid

/-- The decimals of a second in nanoseconds, if a point comes first; digits beyond the ninth do not count. -/
def readFraction (cs : List Char) : Except Fault (Nat × List Char) :=
  match cs with
  | '.' :: rest => do
    let (n, behind) ← readDigits 9 rest
    return (n * Nat.pow 10 (9 - (rest.length - behind.length)), behind.dropWhile Char.isDigit)
  | cs => .ok (0, cs)

def readOffset (cs : List Char) : Except Fault (Int × List Char) := do
  let zone := cs.take 3
  if zone.length = 3 ∧ zone.map Char.toUpper = ['U', 'T', 'C'] then return (0, cs.drop 3)
  match cs with
  | [] => throw .tooShort
  | c :: rest =>
    if c = 'Z' ∨ c = 'z' then return (0, rest)
    else if c = '+' ∨ c = '-' ∨ c.toNat = 0x2212 then
      match rest with
      | h :: h' :: rest =>
        if !h.isDigit ∨ !h'.isDigit then throw .invalid
        let rest := rest.dropWhile fun c => c = ':' || Text.isBlank c
        match rest with
        | m :: m' :: rest =>
          if !m.isDigit ∨ !m'.isDigit then throw .invalid
          if digit m > 5 then throw .outOfRange
          let seconds : Int := (digit h * 10 + digit h') * 3600 + (digit m * 10 + digit m') * 60
          return (if c = '+' then seconds else -seconds, rest)
        | [m] => if m.utf8Size ≥ 2 then throw .invalid else throw .tooShort
        | [] => throw .tooShort
      | [h] => if h.utf8Size ≥ 2 then throw .invalid else throw .tooShort
      | [] => throw .tooShort
    else throw .invalid

/-- The point in time that a text names. -/
def read (text : String) : Except Fault Instant := do
  let (year, cs) ← readYear text.toList
  let cs ← readMark '-' (Text.trimStart cs)
  let (month, cs) ← readPart 1 12 cs
  let cs ← readMark '-' (Text.trimStart cs)
  let (day, cs) ← readPart 1 31 cs
  let cs ← readSeparator cs
  let (hour, cs) ← readPart 0 23 cs
  let cs ← readMark ':' (Text.trimStart cs)
  let (minute, cs) ← readPart 0 59 cs
  let cs ← readMark ':' (Text.trimStart cs)
  let (second, cs) ← readPart 0 60 cs
  let (nanos, cs) ← readFraction cs
  let (offset, cs) ← readOffset (Text.trimStart cs)
  if !(Text.trimStart cs).isEmpty then throw .trailing
  if !hasYear year ∨ monthLength year month < day then throw .outOfRange
  if offset.natAbs ≥ 86400 then throw .outOfRange
  let clock : Int := hour * 3600 + minute * 60 + min second 59
  let t : Instant := ⟨daysOf year month day * 86400 + clock - offset, nanos + (if second = 60 then 1000000000 else 0)⟩
  if t.hasDate then return t else throw .impossible

def nanoseconds (t : Instant) : Int := t.seconds * 1000000000 + t.nanos

/-! ## Printing -/

def padded (width n : Nat) : String :=
  let ds := Nat.toDigits 10 n
  String.ofList (List.replicate (width - ds.length) '0' ++ ds)

/-- The date and the time of day, without fraction and zone. -/
def clockText (t : Instant) : String :=
  let days := t.seconds.fdiv 86400
  let rest := (t.seconds - days * 86400).toNat
  let (year, month, day) := dateOf days
  let yearText :=
    if 0 ≤ year ∧ year ≤ 9999 then padded 4 year.toNat
    else (if year < 0 then "-" else "+") ++ padded 4 year.natAbs
  let second := rest % 60 + (if t.nanos ≥ 1000000000 then 1 else 0)
  yearText ++ "-" ++ padded 2 month ++ "-" ++ padded 2 day ++ "T" ++ padded 2 (rest / 3600) ++ ":" ++
    padded 2 (rest / 60 % 60) ++ ":" ++ padded 2 second

def wholeSeconds (t : Instant) : String := t.clockText ++ "Z"

def micros (t : Instant) : String := t.clockText ++ "." ++ padded 6 (t.nanos % 1000000000 / 1000) ++ "Z"

/-- The text with the fewest decimals, by threes, that are exact. -/
def exact (t : Instant) : String :=
  let n := t.nanos % 1000000000
  let fraction :=
    if n = 0 then ""
    else if n % 1000000 = 0 then "." ++ padded 3 (n / 1000000)
    else if n % 1000 = 0 then "." ++ padded 6 (n / 1000)
    else "." ++ padded 9 n
  t.clockText ++ fraction ++ "Z"

end Instant

end Converge
