import ArchKit.Utils

/-! Token amounts and their decimal spellings. -/

namespace ArchKit.Utils
open Radix Text

section Digits

theorem digits_not_point {digits : List Char} (all : ∀ digit ∈ digits, digit.isDigit) : '.' ∉ digits := by
  intro member
  exact absurd (all _ member) (by decide)

theorem digits_solid {letter : Char} (isDigit : letter.isDigit) : isWhitespace letter = false := by
  have bounds := digit_bounds isDigit
  simp only [isWhitespace, Bool.or_eq_false_iff, Bool.and_eq_false_iff, decide_eq_false_iff_not, beq_eq_false_iff_ne]
  omega

theorem spell_solid (number : Decimal) : ∀ letter ∈ number.spell, isWhitespace letter = false := by
  intro letter member
  unfold Decimal.spell at member
  rcases List.mem_append.mp member with whole | member
  · exact digits_solid (number.whole_digits letter whole)
  · split at member
    next => cases member
    next =>
      rcases List.mem_cons.mp member with point | fraction
      · rw [point]; decide
      · exact digits_solid (number.fraction_digits letter fraction)

theorem toString_digits (amount : Nat) : ∀ digit ∈ (toString amount).toList, digit.isDigit := by
  intro digit member
  rw [Nat.toString_eq_repr, Nat.toList_repr] at member
  exact Nat.isDigit_of_mem_toDigits (by decide) (by decide) member

theorem natOf_toString (amount : Nat) : natOf (toString amount).toList = amount := by
  rw [Nat.toString_eq_repr, Nat.toList_repr, natOf, Nat.ofDigitChars_ten_toDigits]

theorem toString_ne_nil (amount : Nat) : (toString amount).toList ≠ [] := by
  rw [Nat.toString_eq_repr, Nat.toList_repr]
  exact Nat.toDigits_ne_nil

/-- The digits of a number have no superfluous zero: without it they would still denote it. -/
theorem toString_head (amount : Nat) : (toString amount).toList = ['0'] ∨ (toString amount).toList.head? ≠ some '0' := by
  by_cases zero : (toString amount).toList.head? = some '0'
  · obtain ⟨rest, shape⟩ := List.head?_eq_some_iff.mp zero
    by_cases none : rest = []
    · exact .inl (by rw [shape, none])
    have kept : natOf rest = amount := by
      rw [← natOf_toString amount, shape, ← List.singleton_append]
      exact (natOf_leading_zeros 1 rest).symm
    have small : amount < 10 ^ rest.length := by
      rw [← kept]
      exact natOf_lt (fun digit member => toString_digits amount digit (by rw [shape]; exact List.mem_cons_of_mem _ member))
    have short : (toString amount).toList.length ≤ rest.length := by
      rw [Nat.toString_eq_repr, Nat.toList_repr]
      exact (Nat.length_toDigits_le_iff (by decide) (List.length_pos_iff.mpr none)).mpr small
    rw [shape, List.length_cons] at short
    omega
  · exact .inr zero

end Digits

section Formatting
variable (amount : UInt64) (decimals : UInt8)

/-- The digits of an amount with the point in its place, before zeros are removed. -/
theorem formatAmount_pointed (positive : ¬(amount = 0 ∨ decimals = 0)) : ∃ number : Decimal,
    (number.whole = ['0'] ∨ number.whole.head? ≠ some '0') ∧ number.fraction.length = decimals.toNat ∧
    natOf (number.whole ++ number.fraction) = amount.toNat ∧
    formatAmount amount decimals =
      (let formatted := (number.whole ++ '.' :: number.fraction).rdropWhile (· = '0')
       String.ofList (if formatted.getLast? = some '.' then formatted.dropLast else formatted)) := by
  have digits := toString_digits amount.toNat
  by_cases small : (toString amount.toNat).toList.length ≤ decimals.toNat
  · let fraction := List.replicate (decimals.toNat - (toString amount.toNat).toList.length) '0' ++ (toString amount.toNat).toList
    have fractionDigits : ∀ digit ∈ fraction, digit.isDigit := by
      intro digit member
      rcases List.mem_append.mp member with zero | inside
      · rw [List.eq_of_mem_replicate zero]; rfl
      · exact digits digit inside
    refine ⟨⟨['0'], fraction, by simp [Char.isDigit], fractionDigits, by simp⟩, .inl rfl, ?_, ?_, ?_⟩
    · simp only [fraction, List.length_append, List.length_replicate]
      omega
    · change natOf (List.replicate 1 '0' ++ fraction) = _
      rw [natOf_leading_zeros, natOf_leading_zeros, natOf_toString]
    · rw [formatAmount, if_neg positive]
      simp only [if_pos small]
      rfl
  · let split := (toString amount.toNat).toList.length - decimals.toNat
    have written : (toString amount.toNat).toList.take split ≠ [] := by
      intro empty
      have := congrArg List.length empty
      simp only [split, List.length_take, List.length_nil] at this
      omega
    refine ⟨⟨(toString amount.toNat).toList.take split, (toString amount.toNat).toList.drop split,
      fun digit member => digits digit (List.mem_of_mem_take member),
      fun digit member => digits digit (List.mem_of_mem_drop member), written⟩, ?_, ?_, ?_, ?_⟩
    · rcases toString_head amount.toNat with zero | nonzero
      · have none : amount.toNat = 0 := by
          rw [← natOf_toString amount.toNat, zero]
          rfl
        exact absurd (.inl (UInt64.toNat_inj.mp none)) positive
      · exact .inr (by rw [List.head?_take, if_neg (by omega)]; exact nonzero)
    · simp only [split, List.length_drop]
      omega
    · simp only [List.take_append_drop, natOf_toString]
    · rw [formatAmount, if_neg positive]
      simp only [if_neg small]
      rfl

theorem formatAmount_spells : ∃ number : Decimal, number.Canonical ∧ number.fraction.length ≤ decimals.toNat ∧
    formatAmount amount decimals = String.ofList number.spell ∧
    number.value = (amount.toNat : Rat) / 10 ^ decimals.toNat := by
  by_cases positive : amount = 0 ∨ decimals = 0
  · refine ⟨⟨(toString amount.toNat).toList, [], toString_digits _, by simp, toString_ne_nil _⟩,
      ⟨toString_head _, by simp⟩, Nat.zero_le _, ?_, ?_⟩
    · rw [formatAmount, if_pos positive, Decimal.spell, if_pos rfl, List.append_nil, String.ofList_toList]
    · rw [Decimal.value_eq_ratio, List.append_nil, natOf_toString]
      rcases positive with zero | whole
      · simp [zero]
      · simp [whole]
  · obtain ⟨number, stripped, places, denoted, formatted⟩ := formatAmount_pointed amount decimals positive
    refine ⟨number.normalize, number.canonical_normalize, ?_, ?_, ?_⟩
    · rw [← places]
      exact (List.rdropWhile_prefix _ number.fraction).length_le
    · have fractionDigits := number.normalize.fraction_digits
      rw [formatted, rdropWhile_append_stop _ (by decide)]
      change String.ofList (if (number.whole ++ '.' :: number.normalize.fraction).getLast? = some '.' then
        (number.whole ++ '.' :: number.normalize.fraction).dropLast else
        number.whole ++ '.' :: number.normalize.fraction) = _
      have whole : number.normalize.whole = number.whole := Decimal.stripZeros_eq_self number.whole_written stripped
      rw [Decimal.spell, whole]
      by_cases none : number.normalize.fraction = []
      · simp [none]
      · obtain ⟨front, last, shape⟩ := (List.eq_nil_or_concat _).resolve_left none
        rw [List.concat_eq_append] at shape
        have isDigit : last.isDigit := fractionDigits last (by rw [shape]; simp)
        have kept : ¬last = '.' := fun point => by rw [point] at isDigit; exact absurd isDigit (by decide)
        have ends : (number.whole ++ '.' :: number.normalize.fraction).getLast? = some last := by
          rw [shape, ← List.cons_append, ← List.append_assoc, List.getLast?_concat]
        rw [ends, if_neg (by simpa using kept), if_neg none]
    · rw [number.value_normalize, Decimal.value_eq_ratio, denoted, places]

end Formatting

section Parsing
variable {value whole fraction text : List Char} {decimals : Nat} {amount : UInt64}

theorem parseU64_digits {digits : List Char} (written : digits ≠ []) (all : ∀ digit ∈ digits, digit.isDigit) :
    parseU64 digits = if natOf digits < 2 ^ 64 then some (UInt64.ofNat (natOf digits)) else none := by
  have unsigned : ¬digits.head? = some '+' := by
    intro sign
    exact absurd (all _ (List.mem_of_head? sign)) (by decide)
  rw [parseU64]
  simp only [if_neg unsigned]
  rw [if_neg (by simpa [written] using all)]

theorem parseU64_stripped {digits : List Char} (all : ∀ digit ∈ digits, digit.isDigit) :
    (if (digits.dropWhile (· = '0')).isEmpty then some 0 else parseU64 (digits.dropWhile (· = '0'))) =
      if natOf digits < 2 ^ 64 then some (UInt64.ofNat (natOf digits)) else none := by
  rw [← Decimal.natOf_dropWhile digits]
  by_cases blank : digits.dropWhile (· = '0') = []
  · rw [blank]; rfl
  · rw [if_neg (by simpa using blank)]
    exact parseU64_digits blank (fun digit member => all digit ((List.dropWhile_sublist _).subset member))

/-- The digits of a number padded to the given number of decimals. -/
def scaledDigits (number : Decimal) (decimals : Nat) : List Char :=
  number.whole ++ number.fraction ++ List.replicate (decimals - number.fraction.length) '0'

theorem scaledDigits_isDigit (number : Decimal) (decimals : Nat) : ∀ digit ∈ scaledDigits number decimals, digit.isDigit := by
  intro digit member
  rcases List.mem_append.mp member with inside | zero
  · rcases List.mem_append.mp inside with first | last
    · exact number.whole_digits digit first
    · exact number.fraction_digits digit last
  · rw [List.eq_of_mem_replicate zero]; rfl

/-- The padded digits are the value of the number in units of the last decimal. -/
theorem natOf_scaledDigits {number : Decimal} (short : number.fraction.length ≤ decimals) (units : Nat) :
    natOf (scaledDigits number decimals) = units ↔ number.value = (units : Rat) / 10 ^ decimals := by
  have places : 10 ^ decimals = 10 ^ (decimals - number.fraction.length) * 10 ^ number.fraction.length := by
    rw [← Nat.pow_add, Nat.sub_add_cancel short]
  rw [Decimal.value_eq_ratio, places, ← Nat.mul_assoc]
  simp only [scaledDigits, natOf_trailing_zeros]
  exact (Nat.mul_left_inj (Nat.pow_pos (by decide)).ne').symm

theorem ofNat_eq_iff {number : Nat} (fits : number < 2 ^ 64) : UInt64.ofNat number = amount ↔ number = amount.toNat := by
  constructor
  · intro same
    rw [← same, UInt64.toNat_ofNat_of_lt' fits]
  · intro same
    rw [same, UInt64.ofNat_toNat]

theorem scaleAmount_of_number {number : Decimal} (short : number.fraction.length ≤ decimals) :
    scaleAmount value number.whole number.fraction decimals = .ok amount ↔
      amount ≠ 0 ∧ natOf (scaledDigits number decimals) = amount.toNat := by
  have wellFormed : ¬(number.whole.isEmpty || !number.whole.all Char.isDigit || !number.fraction.all Char.isDigit) = true := by
    simp only [Bool.or_eq_true, List.isEmpty_iff, Bool.not_eq_true', List.all_eq_false, not_or, not_exists, not_and, not_not]
    exact ⟨⟨number.whole_written, number.whole_digits⟩, number.fraction_digits⟩
  have read := parseU64_stripped (scaledDigits_isDigit number decimals)
  rw [scaleAmount, if_neg wellFormed, if_neg (by omega)]
  rw [scaledDigits] at read ⊢
  simp only [read]
  generalize natOf (number.whole ++ number.fraction ++ List.replicate (decimals - number.fraction.length) '0') = scaled
  by_cases fits : scaled < 2 ^ 64
  · rw [if_pos fits, ← ofNat_eq_iff fits]
    change (if UInt64.ofNat scaled = 0 then _ else _) = _ ↔ _
    by_cases zero : UInt64.ofNat scaled = 0
    · rw [if_pos zero, zero]
      exact iff_of_false (by simp) (fun parsed => parsed.1 parsed.2.symm)
    · rw [if_neg zero, Except.ok.injEq]
      exact ⟨fun same => ⟨same ▸ zero, same⟩, And.right⟩
  · rw [if_neg fits]
    refine iff_of_false (by simp) ?_
    intro parsed
    have size := amount.toNat_lt
    omega

/-- The scaled amount is the value of the number in units of its last digit. -/
theorem scaleAmount_eq_ok : scaleAmount value whole fraction decimals = .ok amount ↔
    amount ≠ 0 ∧ ∃ number : Decimal, number.whole = whole ∧ number.fraction = fraction ∧
      fraction.length ≤ decimals ∧ number.value = (amount.toNat : Rat) / 10 ^ decimals := by
  constructor
  · intro parsed
    by_cases malformed : (whole.isEmpty || !whole.all Char.isDigit || !fraction.all Char.isDigit) = true
    · rw [scaleAmount, if_pos malformed] at parsed
      cases parsed
    by_cases long : decimals < fraction.length
    · rw [scaleAmount, if_neg malformed, if_pos long] at parsed
      cases parsed
    obtain ⟨⟨written, wholeDigits⟩, fractionDigits⟩ :
        (whole ≠ [] ∧ ∀ digit ∈ whole, digit.isDigit) ∧ ∀ digit ∈ fraction, digit.isDigit := by
      simpa using malformed
    let number : Decimal := ⟨whole, fraction, wholeDigits, fractionDigits, written⟩
    have short : number.fraction.length ≤ decimals := Nat.le_of_not_lt long
    obtain ⟨positive, scaled⟩ := (scaleAmount_of_number short).mp parsed
    exact ⟨positive, number, rfl, rfl, short, (natOf_scaledDigits short _).mp scaled⟩
  · intro described
    obtain ⟨positive, number, first, last, short, denoted⟩ := described
    subst first last
    exact (scaleAmount_of_number short).mpr ⟨positive, (natOf_scaledDigits short _).mpr denoted⟩

/-- The split at the point finds the two parts of a number. -/
theorem spells_iff_split {number : Decimal} : number.Spells text ↔
    splitOnce '.' text = some (number.whole, number.fraction) ∨
      splitOnce '.' text = none ∧ number.whole = text ∧ number.fraction = [] := by
  rw [splitOnce_eq_some, splitOnce_eq_none]
  constructor
  · intro spelled
    rcases spelled with pointed | ⟨none, bare⟩
    · exact .inl ⟨digits_not_point number.whole_digits, pointed⟩
    · exact .inr ⟨by rw [bare]; exact digits_not_point number.whole_digits, bare.symm, none⟩
  · intro split
    rcases split with ⟨_, pointed⟩ | ⟨_, bare, none⟩
    · exact .inl pointed
    · exact .inr ⟨none, bare.symm⟩

theorem parseAmount_eq_ok {text : String} {decimals : UInt8} : parseAmount text decimals = .ok amount ↔
    amount ≠ 0 ∧ ∃ number : Decimal, number.Spells (trim text.toList) ∧
      number.fraction.length ≤ decimals.toNat ∧ number.value = (amount.toNat : Rat) / 10 ^ decimals.toNat := by
  simp only [parseAmount, spells_iff_split]
  cases splitOnce '.' (trim text.toList) with
  | none =>
    simp only [scaleAmount_eq_ok]
    refine and_congr_right fun _ => exists_congr fun number => ?_
    constructor
    · intro parsed
      obtain ⟨whole, fraction, short, value⟩ := parsed
      exact ⟨.inr ⟨trivial, whole, fraction⟩, by rw [fraction]; exact short, value⟩
    · intro parsed
      obtain ⟨spelled, short, value⟩ := parsed
      rcases spelled with pointed | ⟨_, whole, fraction⟩
      · cases pointed
      · exact ⟨whole, fraction, by rw [← fraction]; exact short, value⟩
  | some parts =>
    obtain ⟨whole, fraction⟩ := parts
    dsimp only
    by_cases second : fraction.contains '.' = true
    · rw [if_pos second]
      refine iff_of_false (by simp) ?_
      intro parsed
      obtain ⟨_, number, spelled, _⟩ := parsed
      rcases spelled with pointed | ⟨unsplit, _⟩
      · cases pointed
        exact digits_not_point number.fraction_digits (List.contains_iff_mem.mp second)
      · cases unsplit
    · rw [if_neg second, scaleAmount_eq_ok]
      refine and_congr_right fun _ => exists_congr fun number => ?_
      constructor
      · intro parsed
        obtain ⟨first, last, short, value⟩ := parsed
        subst first last
        exact ⟨.inl rfl, short, value⟩
      · intro parsed
        obtain ⟨spelled, short, value⟩ := parsed
        rcases spelled with pointed | ⟨unsplit, _⟩
        · cases pointed
          exact ⟨rfl, rfl, short, value⟩
        · cases unsplit

end Parsing

/-- The canonical spelling of an amount is what is left of every spelling of it. -/
theorem formatAmount_parseAmount (decimals : UInt8) :
    (formatAmount 0 decimals = "0" ∧ ∀ amount, ∃ number : Decimal, number.Canonical ∧
      formatAmount amount decimals = String.ofList number.spell ∧
      number.value = (amount.toNat : Rat) / 10 ^ decimals.toNat) ∧
    (∀ amount, amount ≠ 0 → parseAmount (formatAmount amount decimals) decimals = .ok amount) ∧
    ∀ text amount, parseAmount text decimals = .ok amount → ∃ number : Decimal,
      number.Spells (trim text.toList) ∧ formatAmount amount decimals = String.ofList number.normalize.spell := by
  refine ⟨⟨?_, ?_⟩, ?_, ?_⟩
  · rw [formatAmount, if_pos (.inl rfl)]
    rfl
  · intro amount
    obtain ⟨number, canonical, _, formatted, value⟩ := formatAmount_spells amount decimals
    exact ⟨number, canonical, formatted, value⟩
  · intro amount positive
    obtain ⟨number, _, short, formatted, value⟩ := formatAmount_spells amount decimals
    refine parseAmount_eq_ok.mpr ⟨positive, number, ?_, short, value⟩
    rw [formatted, String.toList_ofList, trim_eq_self (spell_solid number)]
    exact number.spells_spell
  · intro text amount parsed
    obtain ⟨_, number, spelled, _, value⟩ := parseAmount_eq_ok.mp parsed
    obtain ⟨shown, canonical, _, formatted, same⟩ := formatAmount_spells amount decimals
    refine ⟨number, spelled, ?_⟩
    rw [formatted, canonical.eq_normalize (value.trans same.symm)]

theorem formatAmount_parseAmount_spaced : parseAmount (formatAmount 1230000 6) 6 = .ok 1230000 ∧
    ∃ number : Decimal, number.Spells (trim " 01.2300\n".toList) ∧
      formatAmount 1230000 6 = String.ofList number.normalize.spell := by
  have laws := formatAmount_parseAmount 6
  exact ⟨laws.2.1 1230000 (by decide), laws.2.2 " 01.2300\n" 1230000 (by decide +kernel)⟩

section Grammar

/-- The decimal grammar of amounts: the text is `whole`, or `whole` and `fraction` around a
point, and the amount counts units of the last decimal. -/
def Denotes (text : List Char) (decimals amount : Nat) : Prop :=
  ∃ whole fraction : List Char, (text = whole ∧ fraction = [] ∨ text = whole ++ '.' :: fraction) ∧
    whole ≠ [] ∧ (∀ digit ∈ whole, digit.isDigit) ∧ (∀ digit ∈ fraction, digit.isDigit) ∧
    fraction.length ≤ decimals ∧
    amount = natOf whole * 10 ^ decimals + natOf fraction * 10 ^ (decimals - fraction.length)

variable {text : List Char} {decimals amount : Nat}

theorem natOf_scaledDigits_parts {number : Decimal} (short : number.fraction.length ≤ decimals) :
    natOf (scaledDigits number decimals) =
      natOf number.whole * 10 ^ decimals + natOf number.fraction * 10 ^ (decimals - number.fraction.length) := by
  have places : 10 ^ decimals = 10 ^ number.fraction.length * 10 ^ (decimals - number.fraction.length) := by
    rw [← Nat.pow_add, Nat.add_sub_cancel' short]
  rw [scaledDigits, natOf_trailing_zeros, natOf_append, Nat.add_mul, Nat.mul_assoc, ← places]

theorem denotes_iff_spells : Denotes text decimals amount ↔ ∃ number : Decimal, number.Spells text ∧
    number.fraction.length ≤ decimals ∧ number.value = (amount : Rat) / 10 ^ decimals := by
  constructor
  · intro denoted
    obtain ⟨whole, fraction, written, nonempty, wholeDigits, fractionDigits, short, total⟩ := denoted
    refine ⟨⟨whole, fraction, wholeDigits, fractionDigits, nonempty⟩, ?_, short, ?_⟩
    · exact written.elim (fun bare => .inr ⟨bare.2, bare.1⟩) .inl
    · refine (natOf_scaledDigits short amount).mp ?_
      rw [natOf_scaledDigits_parts short, total]
  · intro spelled
    obtain ⟨number, written, short, value⟩ := spelled
    refine ⟨number.whole, number.fraction, ?_, number.whole_written, number.whole_digits, number.fraction_digits, short, ?_⟩
    · exact written.elim .inr (fun bare => .inl ⟨bare.2, bare.1⟩)
    · rw [← natOf_scaledDigits_parts short, (natOf_scaledDigits short amount).mpr value]

theorem parseAmount_eq_ok_iff_denotes {text : String} {decimals : UInt8} {amount : UInt64} :
    parseAmount text decimals = .ok amount ↔ amount ≠ 0 ∧ Denotes (trim text.toList) decimals.toNat amount.toNat :=
  parseAmount_eq_ok.trans (and_congr_right' denotes_iff_spells.symm)

theorem scaleAmount_error {value whole fraction : List Char} {problem : CliError}
    (refused : scaleAmount value whole fraction decimals = .error problem) : ∃ message, problem = .invalidArgument message := by
  unfold scaleAmount at refused
  split at refused
  · cases refused
    exact ⟨_, rfl⟩
  split at refused
  · cases refused
    exact ⟨_, rfl⟩
  dsimp only at refused
  split at refused
  · cases refused
    exact ⟨_, rfl⟩
  · split at refused
    · cases refused
      exact ⟨_, rfl⟩
    · cases refused

theorem parseAmount_error {text : String} {decimals : UInt8} {problem : CliError}
    (refused : parseAmount text decimals = .error problem) : ∃ message, problem = .invalidArgument message := by
  simp only [parseAmount] at refused
  split at refused
  · split at refused
    · cases refused
      exact ⟨_, rfl⟩
    · exact scaleAmount_error refused
  · exact scaleAmount_error refused

/-- Amounts are accepted exactly when the trimmed text is in the grammar and denotes a positive
64-bit number; every other text is an argument error. -/
theorem parseAmount_grammar (text : String) (decimals : UInt8) :
    (∀ amount : Nat, (∃ parsed : UInt64, parseAmount text decimals = .ok parsed ∧ parsed.toNat = amount) ↔
      Denotes (trim text.toList) decimals.toNat amount ∧ 0 < amount ∧ amount ≤ 2 ^ 64 - 1) ∧
    ((¬∃ amount, Denotes (trim text.toList) decimals.toNat amount ∧ 0 < amount ∧ amount ≤ 2 ^ 64 - 1) →
      ∃ message, parseAmount text decimals = .error (.invalidArgument message)) := by
  have accepted : ∀ amount : Nat, (∃ parsed : UInt64, parseAmount text decimals = .ok parsed ∧ parsed.toNat = amount) ↔
      Denotes (trim text.toList) decimals.toNat amount ∧ 0 < amount ∧ amount ≤ 2 ^ 64 - 1 := by
    intro amount
    constructor
    · intro parsing
      obtain ⟨parsed, read, same⟩ := parsing
      obtain ⟨positive, denoted⟩ := parseAmount_eq_ok_iff_denotes.mp read
      have size := parsed.toNat_lt
      have nonzero : parsed.toNat ≠ 0 := fun zero => positive (UInt64.toNat_inj.mp zero)
      subst same
      exact ⟨denoted, by omega, by omega⟩
    · intro described
      obtain ⟨denoted, positive, fits⟩ := described
      have same : (UInt64.ofNat amount).toNat = amount := UInt64.toNat_ofNat_of_lt' (Nat.lt_of_le_of_lt fits (by decide))
      refine ⟨UInt64.ofNat amount, parseAmount_eq_ok_iff_denotes.mpr ⟨?_, same.symm ▸ denoted⟩, same⟩
      intro zero
      rw [zero] at same
      exact positive.ne same
  refine ⟨accepted, ?_⟩
  intro foreign
  cases read : parseAmount text decimals with
  | ok parsed => exact absurd ⟨parsed.toNat, (accepted parsed.toNat).mp ⟨parsed, read, rfl⟩⟩ foreign
  | error problem =>
    obtain ⟨message, same⟩ := parseAmount_error read
    exact ⟨message, by rw [same]⟩

theorem parseAmount_grammar_samples : (∃ parsed, parseAmount " 01.50\n" 3 = .ok parsed ∧ parsed.toNat = 1500) ∧
    ∃ message, parseAmount "1e3" 3 = .error (.invalidArgument message) := by
  refine ⟨((parseAmount_grammar " 01.50\n" 3).1 1500).mpr ⟨?_, by decide, by decide⟩, (parseAmount_grammar "1e3" 3).2 ?_⟩
  · exact ⟨"01".toList, "50".toList, .inr (by decide), by decide, List.all_eq_true.mp (by decide),
      List.all_eq_true.mp (by decide), by decide, by decide⟩
  · intro described
    obtain ⟨amount, denoted⟩ := described
    obtain ⟨parsed, read, _⟩ := ((parseAmount_grammar "1e3" 3).1 amount).mpr denoted
    have refused : (parseAmount "1e3" 3).isOk = false := by decide
    rw [read] at refused
    cases refused

end Grammar

end ArchKit.Utils
