/-!
Blank space as Unicode defines it, and texts without it at their ends.
-/
namespace SchemaSource.Text

/-- Spaces, line ends and the separators between lines and paragraphs. -/
def isBlank (c : Char) : Bool :=
  let n := c.toNat
  (0x9 ≤ n && n ≤ 0xD) || n == 0x20 || n == 0x85 || n == 0xA0 || n == 0x1680
    || (0x2000 ≤ n && n ≤ 0x200A) || n == 0x2028 || n == 0x2029 || n == 0x202F || n == 0x205F
    || n == 0x3000

def trim (s : String) : String :=
  let start := s.toList.dropWhile isBlank
  String.ofList (start.reverse.dropWhile isBlank).reverse

end SchemaSource.Text
