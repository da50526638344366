/-!
# Blank characters and stripping

The Unicode property `White_Space`, and removing from both ends of a text the characters of a
class. Texts are lists of characters here, since every reader of this library walks them from
the front.
-/

namespace SocketGateway.Text

/-! ## The class -/

/-- A character with the Unicode property `White_Space`. -/
def isBlank (c : Char) : Bool :=
  let n := c.toNat
  (0x09 ≤ n && n ≤ 0x0D) || n == 0x20 || n == 0x85 || n == 0xA0 || n == 0x1680 ||
  (0x2000 ≤ n && n ≤ 0x200A) || n == 0x2028 || n == 0x2029 || n == 0x202F || n == 0x205F ||
  n == 0x3000

/-! ## Stripping -/

/-- Removes the characters of class `p` from the end of a text. -/
def stripEnd (p : Char → Bool) (cs : List Char) : List Char :=
  (cs.reverse.dropWhile p).reverse

/-- Removes the characters of class `p` from both ends of a text; those inside stay. -/
def strip (p : Char → Bool) (cs : List Char) : List Char :=
  stripEnd p (cs.dropWhile p)

example : strip (· = '/') "//a/b/".toList = "a/b".toList := by decide

end SocketGateway.Text
