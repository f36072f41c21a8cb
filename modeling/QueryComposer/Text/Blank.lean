/-! # White space

  The characters that count as white space, and how text is freed of them
  at both ends. The class is the Unicode property `White_Space`; it is wider
  than `Char.isWhitespace`, which knows only four ASCII characters.
-/

namespace QueryComposer.Text

/-- White space: the five layout controls, the space, the next-line control,
    the no-break space and the separators of other scripts. -/
def isBlank (c : Char) : Bool :=
  let n := c.toNat
  (0x09 ≤ n && n ≤ 0x0D) || n == 0x20 || n == 0x85 || n == 0xA0 || n == 0x1680
    || (0x2000 ≤ n && n ≤ 0x200A) || n == 0x2028 || n == 0x2029 || n == 0x202F
    || n == 0x205F || n == 0x3000

/-- The text without the white space at its beginning. -/
def trimLeft (cs : List Char) : List Char := cs.dropWhile isBlank

/-- The text without the white space at its end. -/
def trimRight (cs : List Char) : List Char := (trimLeft cs.reverse).reverse

/-- The text without the white space at both ends. -/
def trim (cs : List Char) : List Char := trimRight (trimLeft cs)

end QueryComposer.Text
