import JobWatch.Number.Numeral
import JobWatch.Proofs.Number.Decimal
import JobWatch.Proofs.Text.Blank

/-!
# Numbers written and read

The text of a number is read as the number, for every number that the format holds but the
negative zero, which is written like the other one. What the text is made of leaves no room for
separators.
-/

namespace JobWatch

namespace Numeral

/-! ## Digits -/

theorem toNat_of_isDigit {c : Char} (digit : c.isDigit = true) : 48 ≤ c.toNat ∧ c.toNat ≤ 57 := by
  simpa [Char.isDigit, UInt32.le_iff_toNat_le] using digit

theorem digit?_of_isDigit {c : Char} (digit : c.isDigit = true) :
    digit? 10 c = some (c.toNat - 48) := by
  have range := toNat_of_isDigit digit
  have between : '0' ≤ c ∧ c ≤ '9' := range
  have small : c.toNat - 48 < 10 := by omega
  simp only [digit?, if_pos between, if_pos small]

theorem isDigit_of_mem_toDigits {n : Nat} {c : Char} (h : c ∈ Nat.toDigits 10 n) :
    c.isDigit = true :=
  Nat.isDigit_of_mem_toDigits (by decide) (by decide) h

theorem digits_append {ds : List Char} (all : ∀ c ∈ ds, c.isDigit = true) (rest : List Char)
    (value count : Nat) :
    digits 10 (ds ++ rest) value count =
      digits 10 rest (Nat.ofDigitChars 10 ds value) (count + ds.length) := by
  induction ds generalizing value count with
  | nil => rfl
  | cons c ds ih =>
    have first := digit?_of_isDigit (all c List.mem_cons_self)
    rw [List.cons_append, digits, first]
    simp only
    rw [ih (fun c hc => all c (List.mem_cons_of_mem _ hc)), Nat.ofDigitChars_cons, List.length_cons,
      Nat.mul_comm, Nat.add_assoc, Nat.add_comm 1]
    rfl

theorem exponent?_of_unmarked {c : Char} (unmarked : ¬ (c = 'e' ∨ c = 'E')) (rest : List Char) :
    exponent? (c :: rest) = none := by
  unfold exponent?
  exact if_neg unmarked

/-- What ends a number, an exponent or nothing, does not begin with another digit. -/
theorem digits_of_exponent {tail : List Char} {e : Int} (ends : exponent? tail = some e)
    (value count : Nat) : digits 10 tail value count = (value, count, tail) := by
  cases tail with
  | nil => rfl
  | cons c rest =>
    have marked : c = 'e' ∨ c = 'E' := Decidable.of_not_not fun unmarked => by
      rw [exponent?_of_unmarked unmarked] at ends
      cases ends
    have none : digit? 10 c = none := by rcases marked with rfl | rfl <;> rfl
    rw [digits, none]

/-! ## Decimals -/

section Decimals

variable {whole frac tail : List Char} {e : Int}

theorem unsignedDecimal_whole (s : Bool) (nonempty : whole ≠ [])
    (all : ∀ c ∈ whole, c.isDigit = true) (ends : exponent? tail = some e) :
    unsignedDecimal s (whole ++ tail) = .ofDecimal s (Nat.ofDigitChars 10 whole 0) e := by
  have counted : 0 + whole.length ≠ 0 := by simpa using nonempty
  rw [unsignedDecimal, digits_append all, digits_of_exponent ends]
  cases tail with
  | nil =>
    cases ends
    simp only [if_neg counted]
    rfl
  | cons c rest =>
    have pointless : c ≠ '.' := fun point => by
      rw [exponent?_of_unmarked (by rw [point]; decide)] at ends
      cases ends
    simp only
    split
    · rename_i same
      exact absurd (List.cons.inj same).1 pointless
    · simp only [if_neg counted, ends, Int.natCast_zero, Int.sub_zero]

theorem unsignedDecimal_point (s : Bool) (nonempty : whole ≠ [])
    (before : ∀ c ∈ whole, c.isDigit = true) (behind : ∀ c ∈ frac, c.isDigit = true)
    (ends : exponent? tail = some e) :
    unsignedDecimal s (whole ++ '.' :: (frac ++ tail)) =
      .ofDecimal s (Nat.ofDigitChars 10 (whole ++ frac) 0) (e - frac.length) := by
  have counted : whole.length + frac.length ≠ 0 := by
    have some := List.length_pos_iff.mpr nonempty
    omega
  have stops (value count : Nat) : digits 10 ('.' :: (frac ++ tail)) value count =
      (value, count, '.' :: (frac ++ tail)) := rfl
  rw [unsignedDecimal, digits_append before, stops, Nat.ofDigitChars_append]
  simp only [digits_append behind, digits_of_exponent ends, Nat.zero_add, if_neg counted, ends]

theorem unsignedDecimal_digits (s : Bool) (nonempty : whole ≠ [])
    (all : ∀ c ∈ whole, c.isDigit = true) :
    unsignedDecimal s whole = .ofDecimal s (Nat.ofDigitChars 10 whole 0) 0 := by
  have ends : exponent? [] = some 0 := rfl
  have read := unsignedDecimal_whole s nonempty all ends
  rw [List.append_nil] at read
  exact read

theorem unsignedDecimal_places (s : Bool) (nonempty : whole ≠ [])
    (before : ∀ c ∈ whole, c.isDigit = true) (behind : ∀ c ∈ frac, c.isDigit = true) :
    unsignedDecimal s (whole ++ '.' :: frac) =
      .ofDecimal s (Nat.ofDigitChars 10 (whole ++ frac) 0) (-(frac.length : Int)) := by
  have ends : exponent? [] = some 0 := rfl
  have read := unsignedDecimal_point s nonempty before behind ends
  rw [List.append_nil, Int.zero_sub] at read
  exact read

end Decimals

/-- The sign and the digits of a power. -/
def powerText (e : Int) : List Char := (if e < 0 then '-' else '+') :: Nat.toDigits 10 e.natAbs

theorem exponent?_power (e : Int) : exponent? ('e' :: powerText e) = some e := by
  have power := digits_append (fun _ => isDigit_of_mem_toDigits (n := e.natAbs)) [] 0 0
  have counted : (Nat.toDigits 10 e.natAbs).length ≠ 0 := by
    have some := Nat.length_toDigits_pos (b := 10) (n := e.natAbs)
    omega
  rw [List.append_nil, Nat.ofDigitChars_ten_toDigits, Nat.zero_add, digits] at power
  unfold exponent? powerText
  by_cases negative : e < 0
  · have back : -(e.natAbs : Int) = e := by omega
    rw [if_pos negative]
    simp only [true_or, power, if_neg counted, if_true, back]
  · have back : (e.natAbs : Int) = e := by omega
    rw [if_neg negative]
    simp only [true_or, if_true, power, if_neg counted, Bool.false_eq_true, if_false, back]

end Numeral

namespace Binary64

/-- What the text of a number is written with: digits, the marks between them, and the letters of
what is no finite number. -/
def isWritten (c : Char) : Bool := c.isDigit || ".e+-NaInfity".toList.contains c

theorem isWritten_of_isDigit {c : Char} (digit : c.isDigit = true) : isWritten c = true := by
  rw [isWritten, digit, Bool.true_or]

theorem isBlank_of_isWritten {c : Char} (written : isWritten c = true) :
    Text.isBlank c = false := by
  rcases Bool.or_eq_true_iff.mp written with digit | mark
  · have range := Numeral.toNat_of_isDigit digit
    simp [Text.isBlank, Text.isBlankCode, Text.inRanges, Text.blankRanges]
    omega
  · have visible : ".e+-NaInfity".toList.all (fun c => !Text.isBlank c) = true := by decide
    have seen := List.all_eq_true.mp visible c (List.contains_iff_mem.mp mark)
    exact (Bool.not_eq_eq_eq_not.mp seen)

end Binary64

namespace NumberLayout

open Numeral Binary64

/-! ## Layouts -/

/-- The texts as which digits before a power of ten may be laid out. -/
inductive Placed : List Char → Int → List Char → Prop
  | whole (ds : List Char) (n : Nat) : Placed ds n (ds ++ zeros n)
  | inside (before behind : List Char) (some : before ≠ []) :
      Placed (before ++ behind) (-(behind.length : Int)) (before ++ '.' :: behind)
  | ahead (ds : List Char) (n : Nat) :
      Placed ds (-((n + ds.length : Nat) : Int)) ('0' :: '.' :: (zeros n ++ ds))
  | digit (d : Char) (e : Int) : Placed [d] e (d :: 'e' :: powerText e)
  | digits (d : Char) (rest : List Char) (e : Int) :
      Placed (d :: rest) (e - rest.length) (d :: '.' :: (rest ++ 'e' :: powerText e))

section Layouts

variable {ds text : List Char} {exponent : Int}

theorem placed_place (l : NumberLayout) (nonempty : ds ≠ []) (exponent : Int) :
    Placed ds exponent (l.place ds exponent) := by
  have length := List.length_pos_iff.mpr nonempty
  unfold place
  dsimp only
  split
  · split
    · rename_i whole
      obtain ⟨n, rfl⟩ := Int.eq_ofNat_of_zero_le whole
      exact .whole ds n
    · split
      · rename_i inside
        obtain ⟨n, count⟩ := Int.eq_ofNat_of_zero_le (Int.le_of_lt inside)
        have some : ds.take n ≠ [] := by
          simp only [ne_eq, List.take_eq_nil_iff, nonempty, or_false]
          omega
        have size : -((ds.drop n).length : Int) = exponent := by
          rw [List.length_drop]
          omega
        have placed := Placed.inside (ds.take n) (ds.drop n) some
        rw [List.take_append_drop, size] at placed
        rw [count]
        exact placed
      · rename_i ahead
        have size : -(((-(exponent + ds.length)).toNat + ds.length : Nat) : Int) = exponent := by
          omega
        have placed := Placed.ahead ds (-(exponent + ds.length)).toNat
        rw [size] at placed
        exact placed
  · cases ds with
    | nil => exact absurd rfl nonempty
    | cons d rest =>
      cases rest with
      | nil =>
        have size : exponent + ([d].length : Nat) - 1 = exponent := Int.add_sub_cancel exponent 1
        simp only [size]
        exact .digit d exponent
      | cons c rest =>
        have size : exponent + ((d :: c :: rest).length : Nat) - 1 - ((c :: rest).length : Nat) =
            exponent := by
          rw [List.length_cons]
          omega
        have placed := Placed.digits d (c :: rest) (exponent + ((d :: c :: rest).length : Nat) - 1)
        rw [size] at placed
        exact placed

theorem isDigit_of_mem_zeros {n : Nat} {c : Char} (h : c ∈ zeros n) : c.isDigit = true := by
  rw [(List.mem_replicate.mp h).2]
  rfl

namespace Placed

/-- Digits laid out in any way are read as what they stand for. -/
theorem unsignedDecimal_eq (placed : Placed ds exponent text) (nonempty : ds ≠ [])
    (all : ∀ c ∈ ds, c.isDigit = true) (s : Bool) :
    unsignedDecimal s text = .ofDecimal s (Nat.ofDigitChars 10 ds 0) exponent := by
  cases placed with
  | whole _ n =>
    have digits : ∀ c ∈ ds ++ zeros n, c.isDigit = true :=
      List.forall_mem_append.mpr ⟨all, fun _ => isDigit_of_mem_zeros⟩
    rw [unsignedDecimal_digits s (List.append_ne_nil_of_left_ne_nil nonempty _) digits,
      Nat.ofDigitChars_append, zeros, Nat.ofDigitChars_replicate_zero, Nat.mul_comm,
      ← Int.zero_add (n : Int)]
    exact Binary64.ofDecimal_mul_pow s _ n 0
  | inside before behind some =>
    obtain ⟨first, later⟩ := List.forall_mem_append.mp all
    exact unsignedDecimal_places s some first later
  | ahead _ n =>
    have zero : ∀ c ∈ ['0'], c.isDigit = true := List.forall_mem_singleton.mpr rfl
    have behind : ∀ c ∈ zeros n ++ ds, c.isDigit = true :=
      List.forall_mem_append.mpr ⟨fun _ => isDigit_of_mem_zeros, all⟩
    have read := unsignedDecimal_places s (List.cons_ne_nil '0' []) zero behind
    rw [List.length_append, zeros, List.length_replicate, Nat.ofDigitChars_append,
      Nat.ofDigitChars_append, Nat.ofDigitChars_replicate_zero] at read
    exact read
  | digit d => exact unsignedDecimal_whole s nonempty all (exponent?_power exponent)
  | digits d rest e =>
    obtain ⟨first, others⟩ := List.forall_mem_cons.mp all
    have only : ∀ c ∈ [d], c.isDigit = true := List.forall_mem_singleton.mpr first
    exact unsignedDecimal_point s (List.cons_ne_nil d []) only others (exponent?_power e)

theorem isWritten (placed : Placed ds exponent text) (all : ∀ c ∈ ds, c.isDigit = true) :
    ∀ c ∈ text, Binary64.isWritten c = true := by
  have drawn : ∀ c ∈ ds, Binary64.isWritten c = true := fun c hc =>
    isWritten_of_isDigit (all c hc)
  have filled (n : Nat) : ∀ c ∈ zeros n, Binary64.isWritten c = true := fun c hc =>
    isWritten_of_isDigit (isDigit_of_mem_zeros hc)
  have zero : Binary64.isWritten '0' = true := by decide
  have point : Binary64.isWritten '.' = true := by decide
  have mark : Binary64.isWritten 'e' = true := by decide
  have power (e : Int) : ∀ c ∈ powerText e, Binary64.isWritten c = true := by
    refine List.forall_mem_cons.mpr ⟨by split <;> decide, fun c hc => ?_⟩
    exact isWritten_of_isDigit (isDigit_of_mem_toDigits hc)
  cases placed with
  | whole _ n => exact List.forall_mem_append.mpr ⟨drawn, filled n⟩
  | inside before behind some =>
    simp only [List.forall_mem_append, List.forall_mem_cons] at drawn ⊢
    exact ⟨drawn.1, point, drawn.2⟩
  | ahead _ n =>
    simp only [List.forall_mem_append, List.forall_mem_cons]
    exact ⟨zero, point, filled n, drawn⟩
  | digit d =>
    simp only [List.forall_mem_cons] at drawn ⊢
    exact ⟨drawn.1, mark, power exponent⟩
  | digits d rest e =>
    simp only [List.forall_mem_append, List.forall_mem_cons] at drawn ⊢
    exact ⟨drawn.1, point, drawn.2, mark, power e⟩

/-- A number begins with a digit. -/
theorem eq_cons (placed : Placed ds exponent text) (nonempty : ds ≠ [])
    (all : ∀ c ∈ ds, c.isDigit = true) : ∃ c rest, text = c :: rest ∧ c.isDigit = true := by
  cases placed with
  | whole _ n =>
    obtain ⟨d, ds, rfl⟩ := List.exists_cons_of_ne_nil nonempty
    exact ⟨d, _, rfl, all d List.mem_cons_self⟩
  | inside before behind some =>
    obtain ⟨d, before, rfl⟩ := List.exists_cons_of_ne_nil some
    exact ⟨d, _, rfl, all d List.mem_cons_self⟩
  | ahead _ n => exact ⟨'0', _, rfl, rfl⟩
  | digit d => exact ⟨d, _, rfl, all d List.mem_cons_self⟩
  | digits d rest e => exact ⟨d, _, rfl, all d List.mem_cons_self⟩

end Placed

end Layouts

end NumberLayout

namespace Binary64

open Numeral NumberLayout

theorem read_signed (s : Bool) {d : Decimal} {units : Nat}
    (read : d.read false = .finite false units) : d.read s = .finite s units := by
  cases s with
  | false => exact read
  | true =>
    rw [Decimal.read] at read ⊢
    rw [ofDecimal_true, read, neg, Bool.not_false]

/-- A magnitude is written as some decimal, and if the format holds it, as one that stands for it. -/
theorem magnitudeText_placed (units : Nat) :
    ∃ d : Decimal, Placed (Nat.toDigits 10 d.digits) d.exponent (magnitudeText units) ∧
      (ofUnits false units 1 = .finite false units → d.read false = .finite false units) := by
  rw [magnitudeText]
  split
  · rename_i small
    have placed := Placed.whole (Nat.toDigits 10 (units / one)) 0
    rw [zeros, List.replicate_zero, List.append_nil] at placed
    refine ⟨⟨units / one, 0⟩, placed, fun held => ?_⟩
    have whole : units / one * one = units :=
      Nat.div_mul_cancel (Nat.dvd_of_mod_eq_zero small.1)
    rw [Decimal.read]
    rcases Nat.eq_zero_or_pos (units / one) with zero | pos
    · rw [zero, Nat.zero_mul] at whole
      rw [zero, ← whole]
      rfl
    · have plain : units / one * Nat.pow 10 0 = units / one := Nat.mul_one _
      have read := ofDecimal_of_nonneg false pos 0
      rw [plain, whole] at read
      exact read.trans held
  · exact ⟨Decimal.ofUnits units, placed_place layout Nat.toDigits_ne_nil _, Decimal.read_ofUnits⟩

theorem unsignedDecimal_magnitudeText (s : Bool) {units : Nat}
    (held : ofUnits false units 1 = .finite false units) :
    unsignedDecimal s (magnitudeText units) = .finite s units := by
  obtain ⟨d, placed, read⟩ := magnitudeText_placed units
  rw [placed.unsignedDecimal_eq Nat.toDigits_ne_nil (fun _ => isDigit_of_mem_toDigits),
    Nat.ofDigitChars_ten_toDigits]
  exact read_signed s (read held)

theorem isWritten_magnitudeText (units : Nat) : ∀ c ∈ magnitudeText units, isWritten c = true := by
  obtain ⟨d, placed, -⟩ := magnitudeText_placed units
  exact placed.isWritten fun _ => isDigit_of_mem_toDigits

theorem magnitudeText_eq_cons (units : Nat) :
    ∃ c rest, magnitudeText units = c :: rest ∧ c.isDigit = true := by
  obtain ⟨d, placed, -⟩ := magnitudeText_placed units
  exact placed.eq_cons Nat.toDigits_ne_nil fun _ => isDigit_of_mem_toDigits

theorem isWritten_text (x : Binary64) : ∀ c ∈ x.text.toList, isWritten c = true := by
  cases x with
  | nan => exact List.all_eq_true.mp (by decide : "NaN".toList.all isWritten = true)
  | infinite s =>
    cases s with
    | false => exact List.all_eq_true.mp (by decide : "Infinity".toList.all isWritten = true)
    | true => exact List.all_eq_true.mp (by decide : "-Infinity".toList.all isWritten = true)
  | finite s units =>
    rw [text, String.toList_ofList]
    split
    · exact List.forall_mem_cons.mpr ⟨by decide, isWritten_magnitudeText units⟩
    · exact isWritten_magnitudeText units

theorem trim_text (x : Binary64) : Text.trim x.text.toList = x.text.toList :=
  Text.trim_of_no_blank fun c hc => isBlank_of_isWritten (isWritten_text x c hc)

/-! ## Reading back -/

theorem valueOf_of_isWritten {c : Char} {rest : List Char} (digit : c.isDigit = true)
    (all : ∀ c' ∈ rest, isWritten c' = true) :
    valueOf (c :: rest) = unsignedDecimal false (c :: rest) ∧
      valueOf ('-' :: c :: rest) = unsignedDecimal true (c :: rest) := by
  have word : c :: rest ≠ "Infinity".toList := by
    rintro same
    rw [(List.cons.inj same).1] at digit
    cases digit
  have signed (s : Bool) : signless s (c :: rest) = unsignedDecimal s (c :: rest) := if_neg word
  have based (letter : Char) (h : letter ∈ "xXoObB".toList) (more : List Char) :
      c :: rest ≠ '0' :: letter :: more := by
    intro same
    have numeric := all letter ((List.cons.inj same).2 ▸ List.mem_cons_self)
    have other : "xXoObB".toList.all (fun c => !isWritten c) = true := by decide
    have foreign := List.all_eq_true.mp other letter h
    rw [numeric] at foreign
    cases foreign
  have leading (mark : Char) (h : mark.isDigit = false) (more : List Char) :
      c :: rest ≠ mark :: more := by
    intro same
    rw [(List.cons.inj same).1] at digit
    exact Bool.false_ne_true (h.symm.trans digit)
  refine ⟨?_, signed true⟩
  rw [valueOf, signed false]
  -- none of the other beginnings fits
  · exact List.cons_ne_nil c rest
  · exact based 'x' (by decide)
  · exact based 'X' (by decide)
  · exact based 'o' (by decide)
  · exact based 'O' (by decide)
  · exact based 'b' (by decide)
  · exact based 'B' (by decide)
  · exact leading '-' rfl
  · exact leading '+' rfl

/-- What is written is read again. Only the sign of the negative zero gets lost. -/
theorem value_text {x : Binary64} (held : x.IsHeld) (sign : x ≠ .finite true 0) :
    Numeral.value x.text = x := by
  rw [value, trim_text]
  cases x with
  | nan => rfl
  | infinite s => cases s <;> rfl
  | finite s units =>
    obtain ⟨c, rest, begins, digit⟩ := magnitudeText_eq_cons units
    have all : ∀ c' ∈ rest, isWritten c' = true := fun c' hc' =>
      isWritten_magnitudeText units c' (begins ▸ List.mem_cons_of_mem c hc')
    obtain ⟨plain, minus⟩ := valueOf_of_isWritten digit all
    have read (s : Bool) := unsignedDecimal_magnitudeText s held
    rw [text, String.toList_ofList]
    split
    · rename_i negative
      rw [begins, minus, ← begins, read, negative.1]
    · rename_i positive
      have unsigned : s = false := by
        cases s with
        | false => rfl
        | true =>
          have zero : units = 0 := Decidable.of_not_not fun some => positive ⟨rfl, some⟩
          exact absurd (zero ▸ rfl) sign
      rw [begins, plain, ← begins, read, unsigned]

/-- A whole number that the format holds, and not below zero. -/
def IsNatural (x : Binary64) : Prop := x.IsHeld ∧ ∃ n : Nat, x = .finite false (n * one)

theorem isNatural_ofNat {n : Nat} (small : n < Nat.pow 2 53) : (ofNat n).IsNatural := by
  have whole := ofNat_of_lt small
  refine ⟨?_, n, whole⟩
  rw [whole]
  exact whole

theorem IsNatural.value_text {x : Binary64} (natural : x.IsNatural) :
    Numeral.value x.text = x := by
  obtain ⟨held, n, rfl⟩ := natural
  exact Binary64.value_text held (by simp)

end Binary64

end JobWatch
