import Mathlib.Data.List.GetD
import Mathlib.Data.List.TakeWhile
import Mathlib.Data.Nat.Digits.Lemmas

/-! Big-endian digit strings. Converting between two bases keeps every leading
zero as one digit, so the conversion is invertible on strings and not only on the
numbers they denote. An alphabet spells digits as distinct characters. -/

namespace Radix

/-- The number denoted by big-endian digits. -/
def value (base : Nat) (digits : List Nat) : Nat := Nat.ofDigits base digits.reverse

/-- The shortest big-endian digits of a number; zero has none. -/
def digitsOf (base number : Nat) : List Nat := (Nat.digits base number).reverse

def leadingZeros (digits : List Nat) : List Nat := digits.takeWhile (· = 0)

/-- Rewrite digits in another base, one zero for each leading zero. -/
def convert (source target : Nat) (digits : List Nat) : List Nat :=
  leadingZeros digits ++ digitsOf target (value source digits)

theorem leadingZeros_eq (digits : List Nat) :
    leadingZeros digits = List.replicate (leadingZeros digits).length 0 := by
  apply List.eq_replicate_of_mem
  intro digit member
  simpa using List.mem_takeWhile_imp member

theorem value_append_zeros (base count : Nat) (digits : List Nat) :
    value base (List.replicate count 0 ++ digits) = value base digits := by
  simp only [value, List.reverse_append, List.reverse_replicate, Nat.ofDigits_append_replicate_zero]

theorem value_lt {base : Nat} (large : 1 < base) {digits : List Nat} (small : ∀ digit ∈ digits, digit < base) :
    value base digits < base ^ digits.length := by
  have bound := Nat.ofDigits_lt_base_pow_length large (l := digits.reverse) (by simpa using small)
  simpa [value] using bound

theorem value_digitsOf (base number : Nat) : value base (digitsOf base number) = number := by
  simp [value, digitsOf, Nat.ofDigits_digits]

theorem digitsOf_lt {base : Nat} (large : 1 < base) {number digit : Nat}
    (member : digit ∈ digitsOf base number) : digit < base :=
  Nat.digits_lt_base large (List.mem_reverse.mp member)

theorem digitsOf_length_le {base : Nat} (large : 1 < base) {number count : Nat} (small : number < base ^ count) :
    (digitsOf base number).length ≤ count := by
  simpa [digitsOf] using (Nat.digits_length_le_iff large number).mpr small

theorem head_digitsOf {base : Nat} (number : Nat) :
    ∀ digit rest, digitsOf base number = digit :: rest → digit ≠ 0 := by
  intro digit rest shape zero
  have reversed : Nat.digits base number = rest.reverse ++ [0] := by
    rw [← List.reverse_reverse (Nat.digits base number)]
    change (digitsOf base number).reverse = _
    rw [shape, zero, List.reverse_cons]
  have nonzero : number ≠ 0 := by
    intro same
    subst same
    simp at reversed
  exact Nat.getLast_digit_ne_zero base nonzero (by simp [reversed])

/-- Digits without a leading zero are the digits of their own number. -/
theorem digitsOf_value {base : Nat} (large : 1 < base) {digits : List Nat}
    (small : ∀ digit ∈ digits, digit < base)
    (leading : ∀ digit rest, digits = digit :: rest → digit ≠ 0) :
    digitsOf base (value base digits) = digits := by
  rw [digitsOf, value, Nat.digits_ofDigits base large digits.reverse (by simpa using small), List.reverse_reverse]
  intro nonempty
  cases digits with
  | nil => exact absurd rfl nonempty
  | cons digit rest =>
    rw [List.getLast_reverse]
    exact leading digit rest rfl

theorem leadingZeros_append {digits : List Nat} (count : Nat)
    (leading : ∀ digit rest, digits = digit :: rest → digit ≠ 0) :
    leadingZeros (List.replicate count 0 ++ digits) = List.replicate count 0 := by
  induction count with
  | zero =>
    cases digits with
    | nil => rfl
    | cons digit rest => simp [leadingZeros, leading digit rest rfl]
  | succ count ih => simpa [leadingZeros, List.replicate_succ] using ih

/-- Leading zeros and a remainder that does not start with one. -/
theorem split_leadingZeros (digits : List Nat) :
    ∃ rest, digits = List.replicate (leadingZeros digits).length 0 ++ rest ∧
      ∀ digit others, rest = digit :: others → digit ≠ 0 := by
  refine ⟨digits.dropWhile (· = 0), ?_, ?_⟩
  · conv_lhs => rw [← List.takeWhile_append_dropWhile (p := (· = 0)) (l := digits)]
    exact congrArg (· ++ _) (leadingZeros_eq digits)
  · intro digit others shape zero
    have head := List.head_dropWhile_not (p := (· = 0)) (l := digits) (by simp [shape])
    simp only [shape, List.head_cons, zero] at head
    simp at head

theorem convert_length (source target : Nat) (digits : List Nat) :
    (convert source target digits).length =
      (leadingZeros digits).length + (digitsOf target (value source digits)).length := by
  simp [convert]

theorem convert_lt {source target : Nat} (large : 1 < target) {digits : List Nat} {digit : Nat}
    (member : digit ∈ convert source target digits) : digit < target := by
  rcases List.mem_append.mp member with zero | rest
  · rw [leadingZeros_eq] at zero
    have := List.eq_of_mem_replicate zero
    omega
  · exact digitsOf_lt large rest

theorem leadingZeros_convert (source target : Nat) (digits : List Nat) :
    leadingZeros (convert source target digits) = leadingZeros digits := by
  rw [convert, leadingZeros_eq digits, leadingZeros_append _ (head_digitsOf _), ← leadingZeros_eq]

theorem value_convert (source target : Nat) (digits : List Nat) :
    value target (convert source target digits) = value source digits := by
  rw [convert, leadingZeros_eq digits, value_append_zeros, value_digitsOf]

theorem convert_convert {source : Nat} (target : Nat) (large : 1 < source) {digits : List Nat}
    (small : ∀ digit ∈ digits, digit < source) :
    convert target source (convert source target digits) = digits := by
  obtain ⟨rest, shape, leading⟩ := split_leadingZeros digits
  have kept : value source digits = value source rest := by
    rw [shape, value_append_zeros]
  have restSmall : ∀ digit ∈ rest, digit < source := fun digit member =>
    small digit (by rw [shape]; exact List.mem_append_right _ member)
  rw [convert, leadingZeros_convert, value_convert, kept, digitsOf_value large restSmall leading,
    leadingZeros_eq digits, ← shape]

/-- Distinct characters, one for each digit. -/
structure Alphabet where
  letters : List Char
  distinct : letters.Nodup

namespace Alphabet
variable (alphabet : Alphabet)

def letter (digit : Nat) : Char := alphabet.letters.getD digit ' '

def digit? (letter : Char) : Option Nat := alphabet.letters.idxOf? letter

def spell (digits : List Nat) : List Char := digits.map alphabet.letter

def read? : List Char → Option (List Nat)
  | [] => some []
  | letter :: letters =>
    match alphabet.digit? letter, read? letters with
    | some digit, some digits => some (digit :: digits)
    | _, _ => none

variable {alphabet}

theorem digit?_eq_some {letter : Char} {digit : Nat} :
    alphabet.digit? letter = some digit ↔ digit < alphabet.letters.length ∧ alphabet.letter digit = letter := by
  rw [digit?, List.idxOf?_eq_some_iff]
  constructor
  · intro first
    obtain ⟨inside, found, _⟩ := first
    refine ⟨inside, ?_⟩
    rw [Alphabet.letter, List.getD_eq_getElem _ _ inside]
    simpa using found
  · intro placed
    obtain ⟨inside, found⟩ := placed
    rw [Alphabet.letter, List.getD_eq_getElem _ _ inside] at found
    refine ⟨inside, by simpa using found, ?_⟩
    intro earlier before same
    have equal : alphabet.letters[earlier] = alphabet.letters[digit] := by
      rw [found]; simpa using same
    exact absurd ((List.Nodup.getElem_inj_iff alphabet.distinct).mp equal) (by omega)

theorem digit?_letter {digit : Nat} (inside : digit < alphabet.letters.length) :
    alphabet.digit? (alphabet.letter digit) = some digit := digit?_eq_some.mpr ⟨inside, rfl⟩

theorem read?_spell {digits : List Nat} (small : ∀ digit ∈ digits, digit < alphabet.letters.length) :
    alphabet.read? (alphabet.spell digits) = some digits := by
  induction digits with
  | nil => rfl
  | cons digit digits ih =>
    have rest := ih (fun other member => small other (List.mem_cons_of_mem _ member))
    simp only [spell] at rest
    simp [spell, read?, digit?_letter (small digit (by simp)), rest]

theorem read?_eq_some {letters : List Char} {digits : List Nat} :
    alphabet.read? letters = some digits ↔
      (∀ digit ∈ digits, digit < alphabet.letters.length) ∧ alphabet.spell digits = letters := by
  refine ⟨?_, fun ⟨small, spelled⟩ => spelled ▸ read?_spell small⟩
  induction letters generalizing digits with
  | nil => intro read; cases read; simp [spell]
  | cons letter letters ih =>
    intro read
    simp only [read?] at read
    split at read
    next digit rest found readRest =>
      cases read
      obtain ⟨inside, same⟩ := digit?_eq_some.mp found
      obtain ⟨small, spelled⟩ := ih readRest
      refine ⟨?_, ?_⟩
      · intro other member
        rcases List.mem_cons.mp member with rfl | member
        · exact inside
        · exact small other member
      · simp only [spell] at spelled
        simp [spell, same, spelled]
    next => cases read

end Alphabet
end Radix
