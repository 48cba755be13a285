import JobWatch.Text.Category

/-!
Patterns on texts: their syntax trees, their flags and what can be wrong with a pattern's text.
A pattern sees a text as a list of codes, which are 16-bit units or, with the Unicode flag,
code points.
-/
namespace JobWatch.Pattern

inductive CharClass where
  | digit
  | space
  | word
deriving DecidableEq, Repr

/-- A member of a bracketed set. -/
inductive Member where
  | range (low high : Nat)
  | named (c : CharClass) (negated : Bool)
  /-- The codes that have a property. -/
  | having (runs : List Text.CodeRun) (negated : Bool)
deriving DecidableEq, Repr

inductive Node where
  | empty
  | code (c : Nat)
  | any
  | oneOf (negated : Bool) (members : List Member)
  | seq (first second : Node)
  | alt (first second : Node)
  | capture (index : Nat) (body : Node)
  | again (index : Nat)
  | againNamed (name : List Nat)
  | start
  | finish
  | boundary (negated : Bool)
  | look (behind negated : Bool) (body : Node)
  /-- At least `least` and at most `most` rounds. Every round forgets the captures with indices
  from `firstCapture` on and below `endCapture`. -/
  | rounds (least : Nat) (most : Option Nat) (greedy : Bool) (firstCapture endCapture : Nat)
      (body : Node)
deriving DecidableEq, Repr

structure Flags where
  ignoreCase : Bool := false
  multiline : Bool := false
  dotAll : Bool := false
  unicode : Bool := false
  sticky : Bool := false
  /-- All occurrences are asked for. Whether there is one does not hang on it. -/
  everywhere : Bool := false
deriving DecidableEq, Repr

/-- What is wrong with a pattern. -/
inductive Fault where
  | unterminatedGroup
  | unmatchedParenthesis
  | escapeAtEnd
  | invalidPropertyName
  | invalidEscape
  | invalidDecimalEscape
  | invalidUnicodeEscape
  | nothingToRepeat
  | loneBracket
  | numbersOutOfOrder
  | incompleteQuantifier
  | invalidQuantifier
  | invalidGroup
  | invalidGroupName
  | duplicateGroupName
  | invalidNamedReference
  | unknownGroupName
  | invalidClassEscape
  | invalidClassProperty
  | invalidClass
  | unterminatedClass
  | rangeOutOfOrder
deriving DecidableEq, Repr

def Fault.message : Fault → String
  | unterminatedGroup => "Unterminated group"
  | unmatchedParenthesis => "Unmatched ')'"
  | escapeAtEnd => "\\ at end of pattern"
  | invalidPropertyName => "Invalid property name"
  | invalidEscape => "Invalid escape"
  | invalidDecimalEscape => "Invalid decimal escape"
  | invalidUnicodeEscape => "Invalid Unicode escape"
  | nothingToRepeat => "Nothing to repeat"
  | loneBracket => "Lone quantifier brackets"
  | numbersOutOfOrder => "numbers out of order in \x7b\x7d quantifier"
  | incompleteQuantifier => "Incomplete quantifier"
  | invalidQuantifier => "Invalid quantifier"
  | invalidGroup => "Invalid group"
  | invalidGroupName => "Invalid capture group name"
  | duplicateGroupName => "Duplicate capture group name"
  | invalidNamedReference => "Invalid named reference"
  | unknownGroupName => "Invalid named capture referenced"
  | invalidClassEscape => "Invalid class escape"
  | invalidClassProperty => "Invalid property name in character class"
  | invalidClass => "Invalid character class"
  | unterminatedClass => "Unterminated character class"
  | rangeOutOfOrder => "Range out of order in character class"

end JobWatch.Pattern

namespace JobWatch

/-- A pattern that has been read: its tree, its flags, the number of its captures and the names
that some of them carry. -/
structure Pattern where
  root : Pattern.Node
  flags : Pattern.Flags
  captures : Nat
  names : List (List Nat × Nat)
deriving DecidableEq, Repr

end JobWatch
