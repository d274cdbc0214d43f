/-!
# Blanks

The characters that count as blanks are those with the Unicode property White_Space.

* `Blank.isBlank`: whether a character is one;
* `Blank.trim`, `Blank.trimEnd`: a text without blanks at its ends, or at its end.
-/

namespace BlobDisk.Blank

/-- Whether the character is a blank. -/
def isBlank (c : Char) : Bool :=
  let n := c.toNat
  (9 ≤ n && n ≤ 13) || n = 0x20 || n = 0x85 || n = 0xA0 || n = 0x1680 || (0x2000 ≤ n && n ≤ 0x200A)
    || n = 0x2028 || n = 0x2029 || n = 0x202F || n = 0x205F || n = 0x3000

/-- The text without blanks at its end. -/
def trimEnd (text : List Char) : List Char := (text.reverse.dropWhile isBlank).reverse

/-- The text without blanks at its ends. -/
def trim (text : List Char) : List Char := trimEnd (text.dropWhile isBlank)

end BlobDisk.Blank
