/-!
# Blank characters and trimming

A blank is a character with the Unicode property White_Space: the tab, the
line and paragraph separators, the ordinary and the no-break space, and the
typographic spaces. Descriptions, settings listings and numerals are trimmed
of blanks, and settings listings are cut at them.
-/

namespace Teletype.Text

/-- **The blank class**, the characters of White_Space. -/
def isBlank (c : Char) : Bool :=
  let n := c.toNat
  (0x09 ≤ n && n ≤ 0x0d) || n == 0x20 || n == 0x85 || n == 0xa0 || n == 0x1680
    || (0x2000 ≤ n && n ≤ 0x200a) || n == 0x2028 || n == 0x2029 || n == 0x202f
    || n == 0x205f || n == 0x3000

/-- A text without its leading blanks. -/
def trimStart (cs : List Char) : List Char := cs.dropWhile isBlank

/-- A text without its trailing blanks. -/
def trimEnd (cs : List Char) : List Char := (cs.reverse.dropWhile isBlank).reverse

/-- A text without blanks at either end. -/
def trim (cs : List Char) : List Char := trimEnd (trimStart cs)

end Teletype.Text
