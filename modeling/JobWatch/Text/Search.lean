/-!
Looking for one text inside another, and taking texts apart at a separator.
-/
namespace JobWatch.Text

def startsWith : List Char → List Char → Bool
  | [], _ => true
  | _ :: _, [] => false
  | a :: s, b :: t => a == b && startsWith s t

/-- The first text occurs somewhere in the second. The empty text occurs everywhere. -/
def occursIn (needle : List Char) : List Char → Bool
  | [] => needle.isEmpty
  | c :: rest => startsWith needle (c :: rest) || occursIn needle rest

def contains (text needle : String) : Bool := occursIn needle.toList text.toList

/-- What stands before and after the last occurrence of `needle`. -/
def splitLast (needle : List Char) : List Char → Option (List Char × List Char)
  | [] => if needle.isEmpty then some ([], []) else none
  | c :: rest =>
    match splitLast needle rest with
    | some (before, after) => some (c :: before, after)
    | none =>
      if startsWith needle (c :: rest) then some ([], (c :: rest).drop needle.length) else none

/-- What stands before and after the first `mark`. -/
def splitFirst (mark : Char) : List Char → Option (List Char × List Char)
  | [] => none
  | c :: rest =>
    if c = mark then some ([], rest)
    else (splitFirst mark rest).map fun (before, after) => (c :: before, after)

/-- The pieces between the marks; always at least one. -/
def split (mark : Char) : List Char → List (List Char)
  | [] => [[]]
  | c :: rest =>
    if c = mark then [] :: split mark rest
    else match split mark rest with
      | [] => [[c]]
      | piece :: pieces => (c :: piece) :: pieces

/-- The texts with a separator between them. -/
def join (separator : String) : List String → String
  | [] => ""
  | [s] => s
  | s :: t :: rest => s ++ separator ++ join separator (t :: rest)

/-- At least `width` characters, filled up with `fill` on the left. -/
def padLeft (width : Nat) (fill : Char) (s : List Char) : List Char :=
  List.replicate (width - s.length) fill ++ s

end JobWatch.Text
