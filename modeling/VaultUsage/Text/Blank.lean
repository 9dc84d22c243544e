/-!
# White space

`isBlank` is Unicode's `White_Space` property. `Char.isWhitespace` knows its ASCII part only.
-/

namespace VaultUsage.Text

def isBlank (c : Char) : Bool :=
  let n := c.toNat
  (9 ≤ n && n ≤ 13) || n == 0x20 || n == 0x85 || n == 0xa0 || n == 0x1680 ||
    (0x2000 ≤ n && n ≤ 0x200a) || n == 0x2028 || n == 0x2029 || n == 0x202f || n == 0x205f || n == 0x3000

def dropEnd (p : Char → Bool) (text : List Char) : List Char := (text.reverse.dropWhile p).reverse

def trim (text : List Char) : List Char := dropEnd isBlank (text.dropWhile isBlank)

def isBlankText (s : String) : Bool := s.toList.all isBlank

end VaultUsage.Text
