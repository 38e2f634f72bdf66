import Converge.Json.Number

/-!
# Reading JSON text

* `Json.parse` reads a text that holds one value and nothing else. Of entries with one key the last one counts.
* `Json.parseInOrder` keeps all entries in the order in which they stand.
* Nesting deeper than 127 levels is refused.
-/

namespace Converge.Json

set_option autoImplicit false

/-- Whether the character may stand between the parts of a text. -/
def isGap (c : Char) : Bool := c = ' ' || c = '\n' || c = '\t' || c = '\r'

/-- The characters from the first that is no gap. -/
def skipGap (cs : List Char) : List Char := cs.dropWhile isGap

/-! ## Words and strings -/

def readWord : List Char → List Char → Except Failure (List Char)
  | [], cs => .ok cs
  | _ :: _, [] => failAt .endInValue []
  | w :: word, c :: rest => if w = c then readWord word rest else failPast .badWord (c :: rest)

def hexValue? (c : Char) : Option Nat :=
  if c.isDigit then some (c.toNat - 48)
  else if 'a' ≤ c ∧ c ≤ 'f' then some (c.toNat - 87)
  else if 'A' ≤ c ∧ c ≤ 'F' then some (c.toNat - 55)
  else none

def readHex (cs : List Char) : Except Failure (Nat × List Char) :=
  if Text.byteLength cs < 4 then failAt .endInString []
  else
    let bad := Except.error ⟨.badEscape, Text.byteLength cs - 4⟩
    match cs with
    | a :: b :: c :: d :: rest =>
      match hexValue? a, hexValue? b, hexValue? c, hexValue? d with
      | some a, some b, some c, some d => .ok (((a * 16 + b) * 16 + c) * 16 + d, rest)
      | _, _, _, _ => bad
    | _ => bad

/-- Reads one given character of a surrogate pair. -/
def readPairMark (mark : Char) : List Char → Except Failure (List Char)
  | [] => failAt .endInString []
  | c :: rest => if c = mark then .ok rest else failPast .halfSurrogatePair (c :: rest)

/-- The character of an escape, from behind the backslash and the `u`. -/
def readUnicodeEscape (cs : List Char) : Except Failure (Char × List Char) := do
  let (high, cs) ← readHex cs
  if 0xDC00 ≤ high ∧ high ≤ 0xDFFF then failAt .loneSurrogate cs
  else if high < 0xD800 ∨ 0xDBFF < high then return (Char.ofNat high, cs)
  else
    let cs ← readPairMark '\\' cs
    let cs ← readPairMark 'u' cs
    let (low, cs) ← readHex cs
    if low < 0xDC00 ∨ 0xDFFF < low then failAt .loneSurrogate cs
    else return (Char.ofNat (0x10000 + (high - 0xD800) * 0x400 + (low - 0xDC00)), cs)

/-- The character of an escape, from behind the backslash. -/
def readEscape : List Char → Except Failure (Char × List Char)
  | [] => failAt .endInString []
  | c :: rest =>
    match c with
    | '"' => .ok ('"', rest)
    | '\\' => .ok ('\\', rest)
    | '/' => .ok ('/', rest)
    | 'b' => .ok (Char.ofNat 8, rest)
    | 'f' => .ok (Char.ofNat 12, rest)
    | 'n' => .ok ('\n', rest)
    | 'r' => .ok ('\r', rest)
    | 't' => .ok ('\t', rest)
    | 'u' => readUnicodeEscape rest
    | _ => failPast .badEscape (c :: rest)

/-- The characters of a string from behind its opening quote, collected in reverse. -/
def readChars : Nat → List Char → List Char → Except Failure (List Char × List Char)
  | 0, _, cs => failAt .endInString cs
  | _ + 1, _, [] => failAt .endInString []
  | fuel + 1, read, c :: rest =>
    if c = '"' then .ok (read.reverse, rest)
    else if c = '\\' then do
      let (c, rest) ← readEscape rest
      readChars fuel (c :: read) rest
    else if c.toNat < 0x20 then failPast .controlCharacter (c :: rest)
    else readChars fuel (c :: read) rest

def readString (cs : List Char) : Except Failure (String × List Char) := do
  let (read, rest) ← readChars (cs.length + 1) [] cs
  return (String.ofList read, rest)

/-! ## Arrays and objects -/

/-- The items of an array, before an item that must come; `value` reads one. -/
def readItems (value : List Char → Except Failure (Json × List Char)) :
    Nat → List Json → List Char → Except Failure (Json × List Char)
  | 0, _, cs => failAt .endInArray cs
  | fuel + 1, read, cs => do
    let (item, cs) ← value cs
    match skipGap cs with
    | [] => failAt .endInArray []
    | ']' :: rest => return (array (item :: read).reverse, rest)
    | ',' :: rest =>
      match skipGap rest with
      | [] => failAt .endInValue []
      | ']' :: rest => failPast .trailingComma (']' :: rest)
      | rest => readItems value fuel (item :: read) rest
    | rest => failPast .noCommaInArray rest

def readArray (value : List Char → Except Failure (Json × List Char)) (cs : List Char) :
    Except Failure (Json × List Char) :=
  match skipGap cs with
  | [] => failAt .endInArray []
  | ']' :: rest => .ok (array [], rest)
  | rest => readItems value (rest.length + 1) [] rest

/-- The entries of an object, before the opening quote of a key; `value` reads one value. -/
def readEntries (value : List Char → Except Failure (Json × List Char)) :
    Nat → List (String × Json) → List Char → Except Failure (Json × List Char)
  | 0, _, cs => failAt .endInObject cs
  | fuel + 1, read, cs => do
    let (key, cs) ← readString (cs.drop 1)
    match skipGap cs with
    | [] => failAt .endInObject []
    | ':' :: rest =>
      let (v, cs) ← value rest
      match skipGap cs with
      | [] => failAt .endInObject []
      | '\x7d' :: rest => return (object ((key, v) :: read).reverse, rest)
      | ',' :: rest =>
        match skipGap rest with
        | [] => failAt .endInValue []
        | '"' :: rest => readEntries value fuel ((key, v) :: read) ('"' :: rest)
        | '\x7d' :: rest => failPast .trailingComma ('\x7d' :: rest)
        | rest => failPast .keyNotString rest
      | rest => failPast .noCommaInObject rest
    | rest => failPast .noColon rest

def readObject (value : List Char → Except Failure (Json × List Char)) (cs : List Char) :
    Except Failure (Json × List Char) :=
  match skipGap cs with
  | [] => failAt .endInObject []
  | '\x7d' :: rest => .ok (object [], rest)
  | '"' :: rest => readEntries value (rest.length + 1) [] ('"' :: rest)
  | rest => failPast .keyNotString rest

/-! ## Values -/

/-- A value at most `depth` levels deep, behind any gap. -/
def readValue : Nat → List Char → Except Failure (Json × List Char)
  | depth, cs =>
    match skipGap cs with
    | [] => failAt .endInValue []
    | c :: rest =>
      match c with
      | 'n' => (readWord ['u', 'l', 'l'] rest).map fun rest => (null, rest)
      | 't' => (readWord ['r', 'u', 'e'] rest).map fun rest => (bool true, rest)
      | 'f' => (readWord ['a', 'l', 's', 'e'] rest).map fun rest => (bool false, rest)
      | '"' => (readString rest).map fun (s, rest) => (string s, rest)
      | '-' => readNumber true rest
      | '[' =>
        match depth with
        | 0 => failPast .tooDeep (c :: rest)
        | depth + 1 => readArray (readValue depth) rest
      | '\x7b' =>
        match depth with
        | 0 => failPast .tooDeep (c :: rest)
        | depth + 1 => readObject (readValue depth) rest
      | _ => if c.isDigit then readNumber false (c :: rest) else failPast .noValue (c :: rest)

/-- The levels of arrays and objects that a text may nest. -/
def maxDepth : Nat := 127

/-- The one value of a text, with the entries of its objects as they stand. -/
def parseChars (cs : List Char) : Except Failure Json := do
  let (v, rest) ← readValue maxDepth cs
  match skipGap rest with
  | [] => return v
  | rest => failPast .trailingText rest

def Failure.message (e : Failure) (text : List Char) : String := e.fault.message ++ (placeBefore text e.left).suffix

/-- The one value of a text, with the entries of its objects as they stand, or the error text. -/
def parseInOrder (text : String) : Except String Json :=
  match parseChars text.toList with
  | .ok v => .ok v
  | .error e => .error (e.message text.toList)

/-- The one value of a text, or the error text. -/
def parse (text : String) : Except String Json := (parseInOrder text).map canonical

end Converge.Json
