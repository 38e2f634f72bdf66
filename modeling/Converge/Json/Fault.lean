import Converge.Text.Bytes

/-!
# Faults in JSON text

* `Json.Fault` is what is wrong with a text, `Json.Failure` a fault and how many bytes of the text were left when it was
  found, `Json.Place` a line and a column.
* `Json.placeOf` turns the bytes read into a place: lines count from one, columns are the bytes read of the line.
-/

namespace Converge.Json

set_option autoImplicit false

inductive Fault where
  | endInValue
  | endInArray
  | endInObject
  | endInString
  | noColon
  | noCommaInArray
  | noCommaInObject
  | badWord
  | noValue
  | badEscape
  | badNumber
  | numberTooLarge
  | controlCharacter
  | keyNotString
  | loneSurrogate
  | halfSurrogatePair
  | trailingComma
  | trailingText
  | tooDeep
deriving DecidableEq

def Fault.message : Fault → String
  | endInValue => "EOF while parsing a value"
  | endInArray => "EOF while parsing a list"
  | endInObject => "EOF while parsing an object"
  | endInString => "EOF while parsing a string"
  | noColon => "expected `:`"
  | noCommaInArray => "expected `,` or `]`"
  | noCommaInObject => "expected `,` or `\x7d`"
  | badWord => "expected ident"
  | noValue => "expected value"
  | badEscape => "invalid escape"
  | badNumber => "invalid number"
  | numberTooLarge => "number out of range"
  | controlCharacter => "control character (\\u0000-\\u001F) found while parsing a string"
  | keyNotString => "key must be a string"
  | loneSurrogate => "lone leading surrogate in hex escape"
  | halfSurrogatePair => "unexpected end of hex escape"
  | trailingComma => "trailing comma"
  | trailingText => "trailing characters"
  | tooDeep => "recursion limit exceeded"

/-- A fault, and the bytes of the text that were not yet read when it was found. -/
structure Failure where
  fault : Fault
  left : Nat
deriving DecidableEq

/-- A line, from one, and the bytes of it that were read. -/
structure Place where
  line : Nat
  column : Nat
deriving DecidableEq

/-- The suffix of an error text that names a place. -/
def Place.suffix (p : Place) : String := " at line " ++ toString p.line ++ " column " ++ toString p.column

/-- The place after the first `read` bytes of a text. -/
def placeOf : Nat → List Char → Place → Place
  | _, [], p => p
  | read, c :: rest, p =>
    if c.utf8Size ≤ read then
      placeOf (read - c.utf8Size) rest (if c = '\n' then ⟨p.line + 1, 0⟩ else ⟨p.line, p.column + c.utf8Size⟩)
    else ⟨p.line, p.column + read⟩

/-- The place in `text` at which `left` bytes remain. -/
def placeBefore (text : List Char) (left : Nat) : Place := placeOf (Text.byteLength text - left) text ⟨1, 0⟩

end Converge.Json
