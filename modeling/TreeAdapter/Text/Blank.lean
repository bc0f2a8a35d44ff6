/-!
# White space and trimming

The Unicode property `White_Space`, and texts without the white space around them.
-/

namespace TreeAdapter.Text
set_option autoImplicit false

def isBlank (c : Char) : Bool :=
  let n := c.toNat
  (9 ≤ n && n ≤ 13) || n == 0x20 || n == 0x85 || n == 0xA0 || n == 0x1680 ||
    (0x2000 ≤ n && n ≤ 0x200A) || n == 0x2028 || n == 0x2029 || n == 0x202F || n == 0x205F ||
    n == 0x3000

/-- `cs` without the longest run of characters in `p` at its end. -/
def dropTrailing (p : Char → Bool) (cs : List Char) : List Char :=
  (cs.reverse.dropWhile p).reverse

/-- `cs` without the white space at both ends. -/
def trimChars (cs : List Char) : List Char :=
  dropTrailing isBlank (cs.dropWhile isBlank)

/-- `s` without the white space at both ends. -/
def trim (s : String) : String :=
  String.ofList (trimChars s.toList)

/-- Nothing but white space, or nothing at all. -/
def isBlankText (s : String) : Bool :=
  s.toList.all isBlank

end TreeAdapter.Text
