/-!
# Decoding UTF-8

* `Text.decodeUtf8` reads bytes as characters; `Text.Utf8Fault` says at which byte that fails, and how many bytes from
  there on cannot begin a character.
-/

namespace Converge.Text

set_option autoImplicit false

/-- Where bytes are no UTF-8. -/
structure Utf8Fault where
  /-- The bytes that were read as characters. -/
  validUpTo : Nat
  /-- The bytes that cannot begin a character; none if the text ends within one. -/
  bad : Option Nat
deriving DecidableEq

def Utf8Fault.message (f : Utf8Fault) : String :=
  match f.bad with
  | some n => "invalid utf-8 sequence of " ++ toString n ++ " bytes from index " ++ toString f.validUpTo
  | none => "incomplete utf-8 byte sequence from index " ++ toString f.validUpTo

/-- The length of a character by its first byte, and the range of its second one. -/
def utf8Lead (b : Nat) : Option (Nat × Nat × Nat) :=
  if b < 0x80 then some (1, 0x80, 0xBF)
  else if 0xC2 ≤ b ∧ b ≤ 0xDF then some (2, 0x80, 0xBF)
  else if b = 0xE0 then some (3, 0xA0, 0xBF)
  else if b = 0xED then some (3, 0x80, 0x9F)
  else if 0xE1 ≤ b ∧ b ≤ 0xEF then some (3, 0x80, 0xBF)
  else if b = 0xF0 then some (4, 0x90, 0xBF)
  else if 0xF1 ≤ b ∧ b ≤ 0xF3 then some (4, 0x80, 0xBF)
  else if b = 0xF4 then some (4, 0x80, 0x8F)
  else none

/-- The payload of the `want` bytes that continue a character, the next one in the given range; `n` were taken. -/
def utf8Tail : Nat → Nat → Nat → Nat → Nat → List UInt8 → Except (Option Nat) Nat
  | 0, _, _, _, acc, _ => .ok acc
  | _ + 1, _, _, _, _, [] => .error none
  | want + 1, n, low, high, acc, b :: rest =>
    if low ≤ b.toNat ∧ b.toNat ≤ high then utf8Tail want (n + 1) 0x80 0xBF (acc * 64 + b.toNat % 64) rest
    else .error (some n)

/-- Reads bytes as characters, of which `done` bytes came before; `skip` bytes belong to the last character. -/
def decodeFrom : Nat → Nat → List UInt8 → Except Utf8Fault (List Char)
  | _, _, [] => .ok []
  | done, skip + 1, _ :: rest => decodeFrom (done + 1) skip rest
  | done, 0, b :: rest =>
    match utf8Lead b.toNat with
    | none => .error ⟨done, some 1⟩
    | some (width, low, high) =>
      let lead := if width = 1 then b.toNat else b.toNat % Nat.pow 2 (7 - width)
      match utf8Tail (width - 1) 1 low high lead rest with
      | .error bad => .error ⟨done, bad⟩
      | .ok code =>
        match decodeFrom (done + 1) (width - 1) rest with
        | .ok cs => .ok (Char.ofNat code :: cs)
        | .error e => .error e

def decodeUtf8 (bytes : List UInt8) : Except Utf8Fault (List Char) := decodeFrom 0 0 bytes

end Converge.Text
