/-
Blank characters, and texts without the blanks around them.

Blank is the standard property White_Space: the six controls of ASCII that move the
cursor, the space, and the spaces and line ends of other scripts.  A space of no width
and the byte-order mark are not blank.
-/

namespace QueryMethods.Text

/-- Whether a character is blank. -/
def isBlank (c : Char) : Bool :=
  let n := c.toNat
  (9 ≤ n && n ≤ 13) || n == 0x20 || n == 0x85 || n == 0xa0 || n == 0x1680 ||
    (0x2000 ≤ n && n ≤ 0x200a) || n == 0x2028 || n == 0x2029 || n == 0x202f ||
    n == 0x205f || n == 0x3000

/-- The text between its first and its last character that are not blank. -/
def trim (s : String) : String :=
  String.ofList (((s.toList.dropWhile isBlank).reverse.dropWhile isBlank).reverse)

end QueryMethods.Text
