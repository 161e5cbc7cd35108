/-!
# White space around numbers

The characters that may surround a number in a text.
-/

namespace Revalidation.Text

/-- Whether the character may surround a number: the tab, the line and page breaks, the space, and
the spaces and separators beyond ASCII.  The information separators U+001C to U+001F may not. -/
def isBlank (c : Char) : Bool :=
  let n := c.toNat
  (9 ≤ n && n ≤ 13) || n == 0x20 || n == 0x85 || n == 0xA0 || n == 0x1680
    || (0x2000 ≤ n && n ≤ 0x200A) || n == 0x2028 || n == 0x2029 || n == 0x202F
    || n == 0x205F || n == 0x3000

end Revalidation.Text
