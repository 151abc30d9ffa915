/-!
# Blank characters

The characters with the Unicode property `White_Space`, and the three ways
of cutting them off a text.
-/

namespace Telematics.Text

/-- The character has the property `White_Space`. -/
def isBlank (c : Char) : Bool :=
  let n := c.toNat
  (9 ≤ n && n ≤ 13) || n = 0x20 || n = 0x85 || n = 0xA0 || n = 0x1680
    || (0x2000 ≤ n && n ≤ 0x200A) || n = 0x2028 || n = 0x2029 || n = 0x202F
    || n = 0x205F || n = 0x3000

/-- Without the blanks in front. -/
def trimLeft (cs : List Char) : List Char := cs.dropWhile isBlank

/-- Without the blanks behind. -/
def trimRight (cs : List Char) : List Char :=
  (cs.reverse.dropWhile isBlank).reverse

/-- Without the blanks on either side. -/
def trim (cs : List Char) : List Char := trimRight (trimLeft cs)

/-- The characters on either side of every occurrence of a separator; one
piece more than there are separators. -/
def splitAt (sep : Char → Bool) (cs : List Char) : List (List Char) :=
  cs.foldr (fun c pieces =>
    if sep c then [] :: pieces
    else match pieces with
      | [] => [[c]]
      | p :: ps => (c :: p) :: ps) [[]]

end Telematics.Text
