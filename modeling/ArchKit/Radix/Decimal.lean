import Mathlib.Data.List.DropRight
import Mathlib.Algebra.Order.Field.Rat
import Mathlib.Tactic.Positivity
import Mathlib.Tactic.Ring

/-! Decimal numbers with a point. A number has exactly one spelling without
superfluous zeros, so that comparing values is comparing canonical spellings. -/

namespace Radix

section Digits
variable {first last text : List Char}

/-- The number that a string of decimal digits denotes. -/
def natOf (digits : List Char) : Nat := Nat.ofDigitChars 10 digits 0

theorem natOf_append (first last : List Char) :
    natOf (first ++ last) = natOf first * 10 ^ last.length + natOf last := by
  rw [natOf, Nat.ofDigitChars_append, Nat.ofDigitChars_eq_ofDigitChars_zero, Nat.mul_comm]
  rfl

theorem natOf_cons (digit : Char) (digits : List Char) :
    natOf (digit :: digits) = (digit.toNat - 48) * 10 ^ digits.length + natOf digits := by
  rw [← List.singleton_append, natOf_append]
  simp [natOf, Nat.ofDigitChars_cons]

theorem natOf_zeros (count : Nat) : natOf (List.replicate count '0') = 0 := by
  rw [natOf, Nat.ofDigitChars_replicate_zero, Nat.mul_zero]

theorem natOf_leading_zeros (count : Nat) (digits : List Char) :
    natOf (List.replicate count '0' ++ digits) = natOf digits := by
  rw [natOf_append, natOf_zeros, Nat.zero_mul, Nat.zero_add]

theorem natOf_trailing_zeros (count : Nat) (digits : List Char) :
    natOf (digits ++ List.replicate count '0') = natOf digits * 10 ^ count := by
  rw [natOf_append, natOf_zeros, List.length_replicate, Nat.add_zero]

theorem digit_bounds {digit : Char} (isDigit : digit.isDigit) : 48 ≤ digit.toNat ∧ digit.toNat ≤ 57 := by
  simpa [Char.isDigit, UInt32.le_iff_toNat_le] using isDigit

theorem natOf_lt {digits : List Char} (all : ∀ digit ∈ digits, digit.isDigit) : natOf digits < 10 ^ digits.length := by
  induction digits with
  | nil => decide
  | cons digit digits ih =>
    have rest := ih (fun other member => all other (List.mem_cons_of_mem _ member))
    have bounds := digit_bounds (all digit List.mem_cons_self)
    rw [natOf_cons, List.length_cons, Nat.pow_succ]
    have scaled : (digit.toNat - 48) * 10 ^ digits.length ≤ 9 * 10 ^ digits.length := Nat.mul_le_mul_right _ (by omega)
    omega

/-- Digit strings of one length are equal when their numbers are. -/
theorem natOf_injective (firstDigits : ∀ digit ∈ first, digit.isDigit) (lastDigits : ∀ digit ∈ last, digit.isDigit)
    (size : first.length = last.length) (same : natOf first = natOf last) : first = last := by
  induction first generalizing last with
  | nil => exact (List.length_eq_zero_iff.mp size.symm).symm
  | cons digit digits ih =>
    cases last with
    | nil => cases size
    | cons other others =>
      have length : digits.length = others.length := Nat.succ.inj size
      have small := natOf_lt (fun other member => firstDigits other (List.mem_cons_of_mem _ member))
      have otherSmall := natOf_lt (fun other member => lastDigits other (List.mem_cons_of_mem _ member))
      have bounds := digit_bounds (firstDigits digit List.mem_cons_self)
      have otherBounds := digit_bounds (lastDigits other List.mem_cons_self)
      rw [natOf_cons, natOf_cons, length] at same
      rw [length] at small
      have heads : digit.toNat - 48 = other.toNat - 48 := by
        have quotient := congrArg (· / 10 ^ others.length) same
        simpa only [Nat.mul_comm _ (10 ^ others.length), Nat.mul_add_div (Nat.pow_pos (by decide : 0 < 10)),
          Nat.div_eq_of_lt small, Nat.div_eq_of_lt otherSmall, Nat.add_zero] using quotient
      have equal : digit = other := Char.toNat_inj.mp (by omega)
      rw [heads] at same
      have tails := ih (fun other member => firstDigits other (List.mem_cons_of_mem _ member))
        (fun other member => lastDigits other (List.mem_cons_of_mem _ member)) length (Nat.add_left_cancel same)
      rw [equal, tails]

/-- Digit strings of one number differ in leading zeros only. -/
theorem natOf_eq_cases (firstDigits : ∀ digit ∈ first, digit.isDigit) (lastDigits : ∀ digit ∈ last, digit.isDigit)
    (same : natOf first = natOf last) (shorter : first.length ≤ last.length) :
    last = List.replicate (last.length - first.length) '0' ++ first := by
  refine natOf_injective lastDigits ?_ ?_ ?_
  · intro digit member
    rcases List.mem_append.mp member with zero | inside
    · rw [List.eq_of_mem_replicate zero]; rfl
    · exact firstDigits digit inside
  · rw [List.length_append, List.length_replicate]; omega
  · rw [natOf_leading_zeros, same]

end Digits

/-- Decimal digits before and after a point. -/
structure Decimal where
  whole : List Char
  fraction : List Char
  whole_digits : ∀ digit ∈ whole, digit.isDigit
  fraction_digits : ∀ digit ∈ fraction, digit.isDigit
  whole_written : whole ≠ []

namespace Decimal

def value (number : Decimal) : Rat :=
  natOf (number.whole ++ number.fraction) / 10 ^ number.fraction.length

/-- No superfluous zero before the point or after it. -/
structure Canonical (number : Decimal) : Prop where
  whole : number.whole = ['0'] ∨ number.whole.head? ≠ some '0'
  fraction : number.fraction.getLast? ≠ some '0'

/-- A text of the number; the point may stand without a fraction. -/
def Spells (number : Decimal) (text : List Char) : Prop :=
  text = number.whole ++ '.' :: number.fraction ∨ number.fraction = [] ∧ text = number.whole

/-- The text of the number, with a point only before a fraction. -/
def spell (number : Decimal) : List Char :=
  number.whole ++ if number.fraction = [] then [] else '.' :: number.fraction

theorem spells_spell (number : Decimal) : number.Spells number.spell := by
  unfold spell
  by_cases none : number.fraction = []
  · rw [if_pos none, List.append_nil]
    exact .inr ⟨none, rfl⟩
  · rw [if_neg none]
    exact .inl rfl

theorem value_eq_iff {number other : Decimal} : number.value = other.value ↔
    natOf (number.whole ++ number.fraction) * 10 ^ other.fraction.length =
      natOf (other.whole ++ other.fraction) * 10 ^ number.fraction.length := by
  rw [value, value, div_eq_div_iff (by positivity) (by positivity)]
  exact_mod_cast Iff.rfl

theorem value_eq_ratio {number : Decimal} {amount decimals : Nat} : number.value = (amount : Rat) / 10 ^ decimals ↔
    natOf (number.whole ++ number.fraction) * 10 ^ decimals = amount * 10 ^ number.fraction.length := by
  rw [value, div_eq_div_iff (by positivity) (by positivity)]
  exact_mod_cast Iff.rfl

private theorem ext {number other : Decimal} (whole : number.whole = other.whole)
    (fraction : number.fraction = other.fraction) : number = other := by
  cases number
  cases other
  simp only [mk.injEq]
  exact ⟨whole, fraction⟩

/-- A canonical whole part has no room for further zeros. -/
private theorem Canonical.whole_eq {number : Decimal} (canonical : number.Canonical) {count : Nat} {whole : List Char}
    (shape : number.whole = List.replicate count '0' ++ whole) (written : whole ≠ []) : number.whole = whole := by
  cases count with
  | zero => exact shape
  | succ count =>
    rcases canonical.whole with zero | nonzero
    · rw [zero, List.replicate_succ, List.cons_append, List.cons.injEq] at shape
      exact absurd (List.append_eq_nil_iff.mp shape.2.symm).2 written
    · exact absurd (by rw [shape]; rfl) nonzero

private theorem Canonical.fraction_eq {number : Decimal} (canonical : number.Canonical) {count : Nat}
    {fraction : List Char} (shape : number.fraction = fraction ++ List.replicate count '0') : number.fraction = fraction := by
  cases count with
  | zero => simpa using shape
  | succ count =>
    rw [List.replicate_succ', ← List.append_assoc] at shape
    exact absurd (by rw [shape, List.getLast?_concat]) canonical.fraction

private theorem Canonical.unique_of_le {number other : Decimal} (canonical : number.Canonical)
    (otherCanonical : other.Canonical) (same : number.value = other.value)
    (shorter : number.fraction.length ≤ other.fraction.length) : number = other := by
  let padding := List.replicate (other.fraction.length - number.fraction.length) '0'
  have paddedLength : (number.fraction ++ padding).length = other.fraction.length := by
    rw [List.length_append, List.length_replicate]; omega
  have paddedDigits : ∀ digit ∈ number.whole ++ (number.fraction ++ padding), digit.isDigit := by
    intro digit member
    rcases List.mem_append.mp member with inside | member
    · exact number.whole_digits digit inside
    rcases List.mem_append.mp member with inside | inside
    · exact number.fraction_digits digit inside
    · rw [List.eq_of_mem_replicate inside]; rfl
  have otherDigits : ∀ digit ∈ other.whole ++ other.fraction, digit.isDigit := by
    intro digit member
    rcases List.mem_append.mp member with inside | inside
    · exact other.whole_digits digit inside
    · exact other.fraction_digits digit inside
  have equal : natOf (number.whole ++ (number.fraction ++ padding)) = natOf (other.whole ++ other.fraction) := by
    rw [← List.append_assoc, natOf_trailing_zeros]
    apply Nat.eq_of_mul_eq_mul_right (Nat.pow_pos (by decide : 0 < 10) : 0 < 10 ^ number.fraction.length)
    rw [← value_eq_iff.mp same, Nat.mul_assoc, ← Nat.pow_add]
    congr 2
    omega
  have parts : number.whole = other.whole ∧ number.fraction ++ padding = other.fraction := by
    rcases Nat.le_total number.whole.length other.whole.length with short | long
    · have shape := natOf_eq_cases paddedDigits otherDigits equal
        (by simp only [List.length_append] at paddedLength ⊢; omega)
      rw [← List.append_assoc] at shape
      obtain ⟨wholes, fractions⟩ := List.append_inj' shape paddedLength.symm
      exact ⟨(otherCanonical.whole_eq wholes number.whole_written).symm, fractions.symm⟩
    · have shape := natOf_eq_cases otherDigits paddedDigits equal.symm
        (by simp only [List.length_append] at paddedLength ⊢; omega)
      rw [← List.append_assoc _ other.whole] at shape
      obtain ⟨wholes, fractions⟩ := List.append_inj' shape paddedLength
      exact ⟨canonical.whole_eq wholes other.whole_written, fractions⟩
  exact ext parts.1 (otherCanonical.fraction_eq parts.2.symm).symm

/-- A value has one canonical spelling. -/
theorem Canonical.unique {number other : Decimal} (canonical : number.Canonical) (otherCanonical : other.Canonical)
    (same : number.value = other.value) : number = other := by
  rcases Nat.le_total number.fraction.length other.fraction.length with short | long
  · exact canonical.unique_of_le otherCanonical same short
  · exact (otherCanonical.unique_of_le canonical same.symm long).symm

/-- A whole part without superfluous zeros. -/
def stripZeros (whole : List Char) : List Char :=
  if whole.dropWhile (· = '0') = [] then ['0'] else whole.dropWhile (· = '0')

theorem natOf_dropWhile (digits : List Char) : natOf (digits.dropWhile (· = '0')) = natOf digits := by
  have zeros : digits.takeWhile (· = '0') = List.replicate (digits.takeWhile (· = '0')).length '0' := by
    apply List.eq_replicate_of_mem
    intro digit member
    simpa using List.mem_takeWhile_imp member
  conv_rhs => rw [← List.takeWhile_append_dropWhile (p := (· = '0')) (l := digits), zeros, natOf_leading_zeros]

theorem natOf_stripZeros (whole : List Char) : natOf (stripZeros whole) = natOf whole := by
  rw [← natOf_dropWhile whole, stripZeros]
  by_cases blank : whole.dropWhile (· = '0') = []
  · rw [if_pos blank, blank]; rfl
  · rw [if_neg blank]

theorem stripZeros_head (whole : List Char) : stripZeros whole = ['0'] ∨ (stripZeros whole).head? ≠ some '0' := by
  unfold stripZeros
  by_cases blank : whole.dropWhile (· = '0') = []
  · exact .inl (if_pos blank)
  · refine .inr ?_
    rw [if_neg blank, List.head?_eq_some_head blank]
    intro zero
    have kept := List.head_dropWhile_not (p := (· = '0')) blank
    simp [Option.some.inj zero] at kept

theorem stripZeros_eq_self {whole : List Char} (written : whole ≠ []) (stripped : whole = ['0'] ∨ whole.head? ≠ some '0') :
    stripZeros whole = whole := by
  rcases stripped with zero | nonzero
  · rw [zero]; rfl
  · cases whole with
    | nil => exact absurd rfl written
    | cons digit digits =>
      have kept : ¬digit = '0' := fun zero => nonzero (by rw [zero]; rfl)
      rw [stripZeros, List.dropWhile_cons_of_neg (by simpa using kept), if_neg written]

/-- Remove the superfluous zeros on both sides. -/
def normalize (number : Decimal) : Decimal where
  whole := stripZeros number.whole
  fraction := number.fraction.rdropWhile (· = '0')
  whole_digits := by
    intro digit member
    unfold stripZeros at member
    split at member
    next => rw [List.mem_singleton.mp member]; rfl
    next => exact number.whole_digits digit ((List.dropWhile_sublist _).subset member)
  fraction_digits := fun digit member => number.fraction_digits digit ((List.rdropWhile_prefix _ number.fraction).subset member)
  whole_written := by
    unfold stripZeros
    split
    next => exact List.cons_ne_nil _ _
    next written => exact written

theorem canonical_normalize (number : Decimal) : number.normalize.Canonical where
  whole := stripZeros_head number.whole
  fraction := by
    intro zero
    have written : number.normalize.fraction ≠ [] := fun blank => by rw [blank] at zero; cases zero
    have kept := List.rdropWhile_last_not (· = '0') number.fraction written
    rw [List.getLast?_eq_some_getLast written, Option.some.injEq] at zero
    exact kept (decide_eq_true zero)

theorem value_normalize (number : Decimal) : number.normalize.value = number.value := by
  let zeros := number.fraction.rtakeWhile (· = '0')
  have only : zeros = List.replicate zeros.length '0' := by
    apply List.eq_replicate_of_mem
    intro digit member
    simpa using List.mem_rtakeWhile_imp member
  have parts : number.fraction = number.normalize.fraction ++ zeros := List.rdropWhile_append_rtakeWhile.symm
  have length : number.fraction.length = number.normalize.fraction.length + zeros.length := by
    rw [← List.length_append, ← parts]
  have shifted : natOf (number.whole ++ number.fraction) =
      natOf (number.normalize.whole ++ number.normalize.fraction) * 10 ^ zeros.length := calc
    natOf (number.whole ++ number.fraction)
      = natOf (number.whole ++ number.normalize.fraction ++ List.replicate zeros.length '0') := by
        rw [List.append_assoc, ← only, ← parts]
    _ = natOf (number.whole ++ number.normalize.fraction) * 10 ^ zeros.length := natOf_trailing_zeros _ _
    _ = natOf (number.normalize.whole ++ number.normalize.fraction) * 10 ^ zeros.length := by
        rw [natOf_append number.whole, natOf_append, normalize, natOf_stripZeros]
  rw [value_eq_iff, shifted, length, Nat.pow_add]
  ring

/-- The canonical spelling of a number is found by removing zeros. -/
theorem Canonical.eq_normalize {number other : Decimal} (canonical : other.Canonical)
    (same : number.value = other.value) : other = number.normalize :=
  canonical.unique (canonical_normalize number) (same.symm.trans (value_normalize number).symm)

end Decimal
end Radix
