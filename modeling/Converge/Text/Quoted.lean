import Converge.Text.Unprintable

/-!
# Quoted text

The form in which messages show a text between double quotes, and the outlines of structured values built from it.

* `Text.escape` is the written form of one character, `Text.quoted` of a text.
* `Text.record`, `Text.optional` outline a structure and a value that may be missing.
-/

namespace Converge.Text

set_option autoImplicit false

/-- A character inside quotes: the quote, the backslash, the common controls and whatever has no glyph are escaped. -/
def escape (c : Char) : List Char :=
  if c = '"' then ['\\', '"']
  else if c = '\\' then ['\\', '\\']
  else if c = '\n' then ['\\', 'n']
  else if c = '\r' then ['\\', 'r']
  else if c = '\t' then ['\\', 't']
  else if c.toNat = 0 then ['\\', '0']
  else if isUnprintable c then ['\\', 'u', '\x7b'] ++ Nat.toDigits 16 c.toNat ++ ['\x7d']
  else [c]

def quoted (s : String) : String := String.ofList ('"' :: s.toList.flatMap escape ++ ['"'])

/-- The outline of a value that may be missing. -/
def optional : Option String → String
  | none => "None"
  | some shown => "Some(" ++ shown ++ ")"

/-- The outline of a structure: its name and its fields, each already outlined. -/
def record (name : String) (fields : List (String × String)) : String :=
  name ++ " \x7b " ++ ", ".intercalate (fields.map fun f => f.1 ++ ": " ++ f.2) ++ " \x7d"

end Converge.Text
