import JobWatch.Text.Search

/-!
Coloured text for terminals. Without colours a text stays as it is.
-/
namespace JobWatch.Report

inductive Ink where
  | red
  | green
  | yellow
  | white
  | gray
deriving DecidableEq, Repr

def escapeCode (digits : String) : List Char := '\x1b' :: '[' :: digits.toList ++ ['m']

def Ink.on : Ink → List Char
  | red => escapeCode "31"
  | green => escapeCode "32"
  | yellow => escapeCode "33"
  | white => escapeCode "37"
  | gray => escapeCode "90"

def inkOff : List Char := escapeCode "39"

/-- Closes the colour before every line break and opens it again behind. -/
def interrupt (i : Ink) : List Char → List Char
  | '\r' :: '\n' :: rest => inkOff ++ '\r' :: '\n' :: i.on ++ interrupt i rest
  | '\n' :: rest => inkOff ++ '\n' :: i.on ++ interrupt i rest
  | c :: rest => c :: interrupt i rest
  | [] => []

/-- The text in a colour, line by line. Nothing is written around an empty text. -/
def paint (coloured : Bool) (i : Ink) (text : List Char) : List Char :=
  if coloured ∧ text ≠ [] then i.on ++ interrupt i text ++ inkOff else text

/-- The same for whole strings. -/
def painted (coloured : Bool) (i : Ink) (text : String) : String :=
  String.ofList (paint coloured i text.toList)

end JobWatch.Report
