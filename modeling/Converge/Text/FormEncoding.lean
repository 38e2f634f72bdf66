/-!
# Form encoding

The encoding of a query value: letters, digits and `*-._` stand for themselves, a blank is a plus sign and every other
character is written as its bytes, each a percent sign and two capital hexadecimal digits.

* `FormEncoding.encode` encodes a text; `encodeChar_unreserved` says what stands for itself.
-/

namespace Converge.Text.FormEncoding

set_option autoImplicit false

def isUnreserved (c : Char) : Bool := c.isAlphanum || c = '*' || c = '-' || c = '.' || c = '_'

def hexDigit (n : Nat) : Char := if n < 10 then Char.ofNat (48 + n) else Char.ofNat (55 + n)

def escapeByte (b : UInt8) : List Char := ['%', hexDigit (b.toNat / 16), hexDigit (b.toNat % 16)]

def encodeChar (c : Char) : List Char :=
  if isUnreserved c then [c]
  else if c = ' ' then ['+']
  else (String.utf8EncodeChar c).flatMap escapeByte

def encode (s : String) : String := String.ofList (s.toList.flatMap encodeChar)

theorem encodeChar_unreserved {c : Char} (h : isUnreserved c = true) : encodeChar c = [c] := by
  simp [encodeChar, h]

end Converge.Text.FormEncoding
