/-!
Texts in 16-bit units: a character above U+FFFF takes two. Lengths, order and patterns are
measured in these units; the text itself stays a `String`.
-/
namespace JobWatch.Text

/-- The units of one character, the leading half of a pair first. -/
def charUnits (c : Char) : List Nat :=
  if c.toNat < 0x10000 then [c.toNat]
  else [0xD800 + (c.toNat - 0x10000) / 0x400, 0xDC00 + (c.toNat - 0x10000) % 0x400]

def units (s : String) : List Nat := s.toList.flatMap charUnits

/-- The first list comes before the second in the order of its first differing element. -/
def unitsBefore : List Nat → List Nat → Bool
  | _, [] => false
  | [], _ :: _ => true
  | a :: s, b :: t => if a = b then unitsBefore s t else decide (a < b)

/-- Strictly before, unit by unit. -/
def before (a b : String) : Bool := unitsBefore (units a) (units b)

/-- Inserts a text in front of the first one that it comes before. -/
def insertSorted {α : Type} (key : α → String) (x : α) : List α → List α
  | [] => [x]
  | y :: rest => if before (key x) (key y) then x :: y :: rest else y :: insertSorted key x rest

/-- Ascending by key, equal keys in the order given. -/
def sortBy {α : Type} (key : α → String) (xs : List α) : List α :=
  xs.foldl (fun sorted x => insertSorted key x sorted) []

def sort (xs : List String) : List String := sortBy id xs

end JobWatch.Text
