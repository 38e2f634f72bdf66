/-!
# Blanks

White space as text processing counts it: every code point with the white-space property.

* `Text.isBlank` decides it; `Text.trim` cuts blanks off both ends of a list of characters.
* `trimStart_of_not_blank`: what is left alone.
-/

namespace Converge.Text

set_option autoImplicit false

/-- Whether `c` is white space. -/
def isBlank (c : Char) : Bool :=
  let n := c.toNat
  (0x9 ≤ n && n ≤ 0xD) || n == 0x20 || n == 0x85 || n == 0xA0 || n == 0x1680 || (0x2000 ≤ n && n ≤ 0x200A) ||
    n == 0x2028 || n == 0x2029 || n == 0x202F || n == 0x205F || n == 0x3000

def trimStart (cs : List Char) : List Char := cs.dropWhile isBlank

def trimEnd (cs : List Char) : List Char := (cs.reverse.dropWhile isBlank).reverse

def trim (cs : List Char) : List Char := trimEnd (trimStart cs)

theorem trimStart_of_not_blank {c : Char} (cs : List Char) (h : isBlank c = false) : trimStart (c :: cs) = c :: cs := by
  simp [trimStart, h]

end Converge.Text
