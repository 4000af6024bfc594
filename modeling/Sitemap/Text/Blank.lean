/-!
# Blank characters

* `isBlank` : the white space of Unicode, with the four information separators of ASCII;
* `trimList` : a text without the characters of a class at its two ends.
-/

namespace Sitemap

/-- White space of Unicode: controls that move the cursor, information separators and the spaces
of all widths. -/
def isBlank (c : Char) : Bool :=
  let n := c.toNat
  (9 ≤ n && n ≤ 13) || (28 ≤ n && n ≤ 32) || n == 0x85 || n == 0xa0 || n == 0x1680 ||
  (0x2000 ≤ n && n ≤ 0x200a) || n == 0x2028 || n == 0x2029 || n == 0x202f || n == 0x205f ||
  n == 0x3000

def trimList (p : Char → Bool) (cs : List Char) : List Char :=
  ((cs.dropWhile p).reverse.dropWhile p).reverse

end Sitemap
