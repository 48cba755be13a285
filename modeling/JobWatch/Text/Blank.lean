/-!
Blank characters: tab to carriage return, the space separators, the line and paragraph
separators and the byte order mark. The next-line control U+0085 is not one of them.
-/
namespace JobWatch.Text

/-- Closed ranges of code points, ascending and apart. -/
def blankRanges : List (Nat × Nat) :=
  [(0x09, 0x0D), (0x20, 0x20), (0xA0, 0xA0), (0x1680, 0x1680), (0x2000, 0x200A),
    (0x2028, 0x2029), (0x202F, 0x202F), (0x205F, 0x205F), (0x3000, 0x3000), (0xFEFF, 0xFEFF)]

def inRanges (ranges : List (Nat × Nat)) (code : Nat) : Bool :=
  ranges.any fun r => r.1 ≤ code && code ≤ r.2

def isBlankCode (code : Nat) : Bool := inRanges blankRanges code

def isBlank (c : Char) : Bool := isBlankCode c.toNat

/-- Drops blanks from both ends. -/
def trim (s : List Char) : List Char :=
  ((s.dropWhile isBlank).reverse.dropWhile isBlank).reverse

end JobWatch.Text
