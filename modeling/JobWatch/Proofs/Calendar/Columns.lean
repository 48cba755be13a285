import JobWatch.Proofs.Calendar
import Mathlib.Data.List.Forall2
import Mathlib.Data.List.Lex

/-!
# Numbers in columns

A number that is filled up with zeros takes just its width, is read again, and stands as a word
before every larger number of this width. So a text that is made of columns tells the numbers in
them, and texts in the same columns are ordered like their numbers. Numbers that are too wide for
their column are left out.
-/

namespace JobWatch.Calendar

/-! ## Numbers of a fixed width -/

theorem length_pad {width n : Nat} (wide : 0 < width) (fits : n < Nat.pow 10 width) :
    (pad width n).length = width := by
  have short : (Nat.toDigits 10 n).length ≤ width :=
    (Nat.length_toDigits_le_iff (by decide) wide).mpr fits
  rw [pad, Text.padLeft, List.length_append, List.length_replicate]
  omega

theorem ofDigitChars_pad (width n : Nat) : Nat.ofDigitChars 10 (pad width n) 0 = n := by
  rw [pad, Text.padLeft, Nat.ofDigitChars_append, Nat.ofDigitChars_replicate_zero, Nat.mul_zero,
    Nat.ofDigitChars_ten_toDigits]

/-- The last digit stands apart. -/
theorem pad_succ {width : Nat} (wide : 0 < width) (n : Nat) :
    pad (width + 1) n = pad width (n / 10) ++ [(n % 10).digitChar] := by
  rcases Nat.lt_or_ge n 10 with single | more
  · rw [Nat.div_eq_of_lt single, Nat.mod_eq_of_lt single, pad, pad, Nat.toDigits_zero,
      Nat.toDigits_of_lt_base single]
    obtain ⟨width, rfl⟩ := Nat.exists_eq_add_of_lt wide
    simp [Text.padLeft, List.replicate_succ']
  · rw [pad, Nat.toDigits_of_base_le (by decide) more, pad, Text.padLeft, Text.padLeft,
      List.length_append, List.length_singleton, Nat.add_sub_add_right, List.append_assoc]

theorem digitChar_lt {a b : Nat} (less : a < b) (digit : b < 10) : a.digitChar < b.digitChar := by
  have value := Nat.toNat_digitChar_of_lt_ten (less.trans digit)
  have value' := Nat.toNat_digitChar_of_lt_ten digit
  change a.digitChar.toNat < b.digitChar.toNat
  omega

theorem lex_append {α : Type} {r : α → α → Prop} {s t : List α} (before : List.Lex r s t)
    (same : s.length = t.length) (u v : List α) : List.Lex r (s ++ u) (t ++ v) := by
  induction before with
  | nil => cases same
  | cons _ ih => exact .cons (ih (Nat.succ.inj same))
  | rel less => exact .rel less

/-- Numbers of one width are ordered like their digits, by induction on the digits before the last
one. -/
theorem lex_pad {width : Nat} (wide : 0 < width) {a b : Nat} (less : a < b)
    (fits : b < Nat.pow 10 width) : List.Lex (· < ·) (pad width a) (pad width b) := by
  induction width, wide using Nat.le_induction generalizing a b with
  | base =>
    have single {n : Nat} (digit : n < 10) : pad 1 n = [n.digitChar] := by
      rw [pad, Nat.toDigits_of_lt_base digit]
      rfl
    rw [single (less.trans fits), single fits]
    exact .rel (digitChar_lt less fits)
  | succ width wide ih =>
    rw [pad_succ wide, pad_succ wide]
    have fits' : b / 10 < Nat.pow 10 width := Nat.div_lt_of_lt_mul (by rwa [Nat.mul_comm])
    rcases Nat.lt_or_ge (a / 10) (b / 10) with front | front
    · refine lex_append (ih front fits') ?_ _ _
      rw [length_pad wide (front.trans fits'), length_pad wide fits']
    · have same : a / 10 = b / 10 := by omega
      rw [same]
      exact List.Lex.append_left _ (.rel (digitChar_lt (by omega) (by omega))) _

/-! ## Columns -/

/-- A place for numbers of some width, and the mark behind it. -/
structure Column where
  width : Nat
  mark : List Char

/-- A number has its place in the column. -/
structure Column.Holds (c : Column) (n : Nat) : Prop where
  wide : 0 < c.width
  fits : n < Nat.pow 10 c.width

/-- Numbers written into columns. -/
def ruled : List Column → List Nat → List Char
  | c :: columns, n :: numbers => pad c.width n ++ (c.mark ++ ruled columns numbers)
  | _, _ => []

/-- The numbers that stand in the columns of a text, if it is ruled like that. -/
def numbers? : List Column → List Char → Option (List Nat)
  | [], text => if text.isEmpty then some [] else none
  | c :: columns, text =>
    let digits := text.take c.width
    let rest := text.drop c.width
    if digits.length = c.width ∧ digits.all Char.isDigit ∧ c.mark.isPrefixOf rest then
      (numbers? columns (rest.drop c.mark.length)).map (Nat.ofDigitChars 10 digits 0 :: ·)
    else none

variable {columns : List Column} {ns ms : List Nat}

theorem length_ruled (held : List.Forall₂ Column.Holds columns ns) :
    (ruled columns ns).length =
      columns.foldr (fun c n => c.width + (c.mark.length + n)) 0 := by
  induction held with
  | nil => rfl
  | cons holds _ ih =>
    rw [ruled, List.length_append, List.length_append, length_pad holds.wide holds.fits, ih]
    rfl

/-- What is written into columns is read from them. -/
theorem numbers?_ruled (held : List.Forall₂ Column.Holds columns ns) :
    numbers? columns (ruled columns ns) = some ns := by
  induction held with
  | nil => rfl
  | @cons c n columns ns holds _ ih =>
    have width := length_pad holds.wide holds.fits
    have front : (pad c.width n ++ (c.mark ++ ruled columns ns)).take c.width = pad c.width n :=
      List.take_left' width
    have behind : (pad c.width n ++ (c.mark ++ ruled columns ns)).drop c.width =
        c.mark ++ ruled columns ns := List.drop_left' width
    have digits : (pad c.width n).all Char.isDigit = true :=
      List.all_eq_true.mpr fun _ => isDigit_of_mem_pad
    have mark : c.mark.isPrefixOf (c.mark ++ ruled columns ns) = true :=
      List.isPrefixOf_iff_prefix.mpr (List.prefix_append _ _)
    rw [ruled, numbers?]
    simp only [front, behind]
    rw [if_pos ⟨width, digits, mark⟩, List.drop_left, ih, ofDigitChars_pad]
    rfl

/-- Texts in the same columns are ordered like the numbers in them. -/
theorem lex_ruled (held : List.Forall₂ Column.Holds columns ns)
    (held' : List.Forall₂ Column.Holds columns ms) (before : List.Lex (· < ·) ns ms) :
    List.Lex (· < ·) (ruled columns ns) (ruled columns ms) := by
  induction held generalizing ms with
  | nil =>
    cases held'
    cases before
  | cons holds _ ih =>
    cases held' with
    | cons holds' rest =>
      rw [ruled, ruled]
      cases before with
      | cons later => exact List.Lex.append_left _ (List.Lex.append_left _ (ih rest later) _) _
      | rel less =>
        refine lex_append (lex_pad holds.wide less holds'.fits) ?_ _ _
        rw [length_pad holds.wide holds.fits, length_pad holds'.wide holds'.fits]

end JobWatch.Calendar
