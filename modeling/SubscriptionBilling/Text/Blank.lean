/-!
# Blank characters and blank text

The white space of the Unicode standard (property `White_Space`), used where
text is trimmed and where an instant is read.  `isBlank` is the property,
`allBlank` says that a text holds nothing else.
-/

namespace SubscriptionBilling.Text

/-- White space in the sense of the Unicode property `White_Space`. -/
def isBlank (c : Char) : Bool :=
  let n := c.toNat
  (9 ≤ n && n ≤ 13) || n == 0x20 || n == 0x85 || n == 0xA0 || n == 0x1680
    || (0x2000 ≤ n && n ≤ 0x200A) || n == 0x2028 || n == 0x2029 || n == 0x202F
    || n == 0x205F || n == 0x3000

/-- The text has no character other than white space. -/
def allBlank (s : String) : Bool := s.toList.all isBlank

/-- The text without its leading white space. -/
def trimLeft (cs : List Char) : List Char := cs.dropWhile isBlank

/-- The text without its leading and trailing white space. -/
def trim (cs : List Char) : List Char := (trimLeft (trimLeft cs).reverse).reverse

end SubscriptionBilling.Text
