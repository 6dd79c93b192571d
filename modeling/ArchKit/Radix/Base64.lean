import ArchKit.Radix.Digits

/-! Standard Base64 with padding. Only the canonical spelling of a byte string is
read: the padding is required and the bits it leaves over are zero. -/

namespace Radix

def base64Alphabet : Alphabet :=
  ⟨"ABCDEFGHIJKLMNOPQRSTUVWXYZabcdefghijklmnopqrstuvwxyz0123456789+/".toList, by decide +kernel⟩

def base64Letter (digit : Nat) : Char := base64Alphabet.letter digit

/-- `STANDARD.encode`: three bytes are four digits. -/
def base64Encode : List UInt8 → List Char
  | [] => []
  | [first] => [base64Letter (first.toNat / 4), base64Letter (first.toNat % 4 * 16), '=', '=']
  | [first, second] =>
    [base64Letter (first.toNat / 4), base64Letter (first.toNat % 4 * 16 + second.toNat / 16),
      base64Letter (second.toNat % 16 * 4), '=']
  | first :: second :: third :: rest =>
    base64Letter (first.toNat / 4) :: base64Letter (first.toNat % 4 * 16 + second.toNat / 16) ::
      base64Letter (second.toNat % 16 * 4 + third.toNat / 64) :: base64Letter (third.toNat % 64) :: base64Encode rest

def base64Digit? (letter : Char) : Option Nat := base64Alphabet.digit? letter

/-- The single byte before two padding characters. -/
def decodeOne (first second : Char) : Option (List UInt8) :=
  match base64Digit? first, base64Digit? second with
  | some a, some b => if b % 16 = 0 then some [UInt8.ofNat (a * 4 + b / 16)] else none
  | _, _ => none

/-- The two bytes before one padding character. -/
def decodeTwo (first second third : Char) : Option (List UInt8) :=
  match base64Digit? first, base64Digit? second, base64Digit? third with
  | some a, some b, some c =>
    if c % 4 = 0 then some [UInt8.ofNat (a * 4 + b / 16), UInt8.ofNat (b % 16 * 16 + c / 4)] else none
  | _, _, _ => none

def decodeThree (first second third fourth : Char) : Option (List UInt8) :=
  match base64Digit? first, base64Digit? second, base64Digit? third, base64Digit? fourth with
  | some a, some b, some c, some d =>
    some [UInt8.ofNat (a * 4 + b / 16), UInt8.ofNat (b % 16 * 16 + c / 4), UInt8.ofNat (c % 4 * 64 + d)]
  | _, _, _, _ => none

/-- `STANDARD.decode`. -/
def base64Decode : List Char → Option (List UInt8)
  | [] => some []
  | first :: second :: third :: fourth :: rest =>
    if rest = [] ∧ fourth = '=' then
      if third = '=' then decodeOne first second else decodeTwo first second third
    else
      match decodeThree first second third fourth, base64Decode rest with
      | some bytes, some others => some (bytes ++ others)
      | _, _ => none
  | _ => none

theorem base64Digit?_letter {digit : Nat} (inside : digit < 64) : base64Digit? (base64Letter digit) = some digit :=
  Alphabet.digit?_letter inside

theorem base64Digit?_eq_some {letter : Char} {digit : Nat} (found : base64Digit? letter = some digit) :
    digit < 64 ∧ base64Letter digit = letter :=
  Alphabet.digit?_eq_some.mp found

theorem base64Letter_ne_padding {digit : Nat} (inside : digit < 64) : base64Letter digit ≠ '=' := by
  intro padding
  have digits := base64Digit?_letter inside
  rw [padding, show base64Digit? '=' = none by decide +kernel] at digits
  cases digits

attribute [irreducible] base64Letter base64Digit?

private theorem byte_eq (byte : UInt8) {number : Nat} (same : byte.toNat = number) : UInt8.ofNat number = byte := by
  rw [← same, UInt8.ofNat_toNat]

theorem decodeOne_eq_some {first second : Char} {bytes : List UInt8} : decodeOne first second = some bytes ↔
    ∃ byte, bytes = [byte] ∧ first = base64Letter (byte.toNat / 4) ∧ second = base64Letter (byte.toNat % 4 * 16) := by
  constructor
  · intro decoded
    unfold decodeOne at decoded
    split at decoded
    next a b one two =>
      obtain ⟨aSmall, aLetter⟩ := base64Digit?_eq_some one
      obtain ⟨bSmall, bLetter⟩ := base64Digit?_eq_some two
      split at decoded
      next trailing =>
        cases decoded
        have byte : (UInt8.ofNat (a * 4 + b / 16)).toNat = a * 4 + b / 16 := UInt8.toNat_ofNat_of_lt' (by change _ < 256; omega)
        refine ⟨_, rfl, ?_, ?_⟩
        · rw [byte, ← aLetter]; exact congrArg base64Letter (by omega)
        · rw [byte, ← bLetter]; exact congrArg base64Letter (by omega)
      next => cases decoded
    next => cases decoded
  · intro spelled
    obtain ⟨byte, rfl, rfl, rfl⟩ := spelled
    have size := byte.toNat_lt
    rw [decodeOne, base64Digit?_letter (by omega), base64Digit?_letter (by omega)]
    simp only
    rw [if_pos (by omega), byte_eq byte (by omega)]

theorem decodeTwo_eq_some {first second third : Char} {bytes : List UInt8} :
    decodeTwo first second third = some bytes ↔ ∃ high low, bytes = [high, low] ∧
      first = base64Letter (high.toNat / 4) ∧ second = base64Letter (high.toNat % 4 * 16 + low.toNat / 16) ∧
      third = base64Letter (low.toNat % 16 * 4) := by
  constructor
  · intro decoded
    unfold decodeTwo at decoded
    split at decoded
    next a b c one two three =>
      obtain ⟨aSmall, aLetter⟩ := base64Digit?_eq_some one
      obtain ⟨bSmall, bLetter⟩ := base64Digit?_eq_some two
      obtain ⟨cSmall, cLetter⟩ := base64Digit?_eq_some three
      split at decoded
      next trailing =>
        cases decoded
        have high : (UInt8.ofNat (a * 4 + b / 16)).toNat = a * 4 + b / 16 := UInt8.toNat_ofNat_of_lt' (by change _ < 256; omega)
        have low : (UInt8.ofNat (b % 16 * 16 + c / 4)).toNat = b % 16 * 16 + c / 4 :=
          UInt8.toNat_ofNat_of_lt' (by change _ < 256; omega)
        refine ⟨_, _, rfl, ?_, ?_, ?_⟩
        · rw [high, ← aLetter]; exact congrArg base64Letter (by omega)
        · rw [high, low, ← bLetter]; exact congrArg base64Letter (by omega)
        · rw [low, ← cLetter]; exact congrArg base64Letter (by omega)
      next => cases decoded
    next => cases decoded
  · intro spelled
    obtain ⟨high, low, rfl, rfl, rfl, rfl⟩ := spelled
    have highSize := high.toNat_lt
    have lowSize := low.toNat_lt
    rw [decodeTwo, base64Digit?_letter (by omega), base64Digit?_letter (by omega), base64Digit?_letter (by omega)]
    simp only
    rw [if_pos (by omega), byte_eq high (by omega), byte_eq low (by omega)]

theorem decodeThree_eq_some {first second third fourth : Char} {bytes : List UInt8} :
    decodeThree first second third fourth = some bytes ↔ ∃ high middle low, bytes = [high, middle, low] ∧
      first = base64Letter (high.toNat / 4) ∧ second = base64Letter (high.toNat % 4 * 16 + middle.toNat / 16) ∧
      third = base64Letter (middle.toNat % 16 * 4 + low.toNat / 64) ∧ fourth = base64Letter (low.toNat % 64) := by
  constructor
  · intro decoded
    unfold decodeThree at decoded
    split at decoded
    next a b c d one two three four =>
      obtain ⟨aSmall, aLetter⟩ := base64Digit?_eq_some one
      obtain ⟨bSmall, bLetter⟩ := base64Digit?_eq_some two
      obtain ⟨cSmall, cLetter⟩ := base64Digit?_eq_some three
      obtain ⟨dSmall, dLetter⟩ := base64Digit?_eq_some four
      cases decoded
      have high : (UInt8.ofNat (a * 4 + b / 16)).toNat = a * 4 + b / 16 := UInt8.toNat_ofNat_of_lt' (by change _ < 256; omega)
      have middle : (UInt8.ofNat (b % 16 * 16 + c / 4)).toNat = b % 16 * 16 + c / 4 :=
        UInt8.toNat_ofNat_of_lt' (by change _ < 256; omega)
      have low : (UInt8.ofNat (c % 4 * 64 + d)).toNat = c % 4 * 64 + d := UInt8.toNat_ofNat_of_lt' (by change _ < 256; omega)
      refine ⟨_, _, _, rfl, ?_, ?_, ?_, ?_⟩
      · rw [high, ← aLetter]; exact congrArg base64Letter (by omega)
      · rw [high, middle, ← bLetter]; exact congrArg base64Letter (by omega)
      · rw [middle, low, ← cLetter]; exact congrArg base64Letter (by omega)
      · rw [low, ← dLetter]; exact congrArg base64Letter (by omega)
    next => cases decoded
  · intro spelled
    obtain ⟨high, middle, low, rfl, rfl, rfl, rfl, rfl⟩ := spelled
    have highSize := high.toNat_lt
    have middleSize := middle.toNat_lt
    have lowSize := low.toNat_lt
    rw [decodeThree, base64Digit?_letter (by omega), base64Digit?_letter (by omega), base64Digit?_letter (by omega),
      base64Digit?_letter (by omega)]
    simp only
    rw [byte_eq high (by omega), byte_eq middle (by omega), byte_eq low (by omega)]

theorem base64Decode_encode (bytes : List UInt8) : base64Decode (base64Encode bytes) = some bytes := by
  fun_induction base64Encode bytes with
  | case1 => rfl
  | case2 first =>
    rw [base64Decode, if_pos ⟨rfl, rfl⟩, if_pos rfl]
    exact decodeOne_eq_some.mpr ⟨first, rfl, rfl, rfl⟩
  | case3 first second =>
    have size := second.toNat_lt
    rw [base64Decode, if_pos ⟨rfl, rfl⟩, if_neg (base64Letter_ne_padding (by omega))]
    exact decodeTwo_eq_some.mpr ⟨first, second, rfl, rfl, rfl, rfl⟩
  | case4 first second third rest ih =>
    have unpadded := base64Letter_ne_padding (show third.toNat % 64 < 64 by omega)
    rw [base64Decode, if_neg (fun last => unpadded last.2),
      decodeThree_eq_some.mpr ⟨first, second, third, rfl, rfl, rfl, rfl, rfl⟩, ih]
    rfl

/-- Whatever is read is the spelling of the bytes. -/
theorem base64Encode_of_decode {letters : List Char} {bytes : List UInt8} (decoded : base64Decode letters = some bytes) :
    base64Encode bytes = letters := by
  fun_induction base64Decode letters generalizing bytes with
  | case1 => cases decoded; rfl
  | case2 first second fourth rest last =>
    obtain ⟨byte, rfl, rfl, rfl⟩ := decodeOne_eq_some.mp decoded
    rw [base64Encode, last.1, last.2]
  | case3 first second third fourth rest last =>
    obtain ⟨high, low, rfl, rfl, rfl, rfl⟩ := decodeTwo_eq_some.mp decoded
    rw [base64Encode, last.1, last.2]
  | case4 first second third fourth rest more bytes others read group ih =>
    obtain ⟨high, middle, low, rfl, rfl, rfl, rfl, rfl⟩ := decodeThree_eq_some.mp group
    cases decoded
    rw [List.cons_append, List.cons_append, List.cons_append, List.nil_append, base64Encode, ih read]
  | case5 => cases decoded
  | case6 => cases decoded

/-- Every character is a digit or padding. -/
theorem base64Encode_letters (bytes : List UInt8) :
    ∀ letter ∈ base64Encode bytes, (∃ digit < 64, letter = base64Letter digit) ∨ letter = '=' := by
  fun_induction base64Encode bytes with
  | case1 => intro letter member; cases member
  | case2 first =>
    have size := first.toNat_lt
    intro letter member
    simp only [List.mem_cons, List.not_mem_nil, or_false] at member
    rcases member with rfl | rfl | rfl | rfl
    · exact .inl ⟨_, by omega, rfl⟩
    · exact .inl ⟨_, by omega, rfl⟩
    · exact .inr rfl
    · exact .inr rfl
  | case3 first second =>
    have size := first.toNat_lt
    have also := second.toNat_lt
    intro letter member
    simp only [List.mem_cons, List.not_mem_nil, or_false] at member
    rcases member with rfl | rfl | rfl | rfl
    · exact .inl ⟨_, by omega, rfl⟩
    · exact .inl ⟨_, by omega, rfl⟩
    · exact .inl ⟨_, by omega, rfl⟩
    · exact .inr rfl
  | case4 first second third rest ih =>
    have size := first.toNat_lt
    have also := second.toNat_lt
    have last := third.toNat_lt
    intro letter member
    simp only [List.mem_cons] at member
    rcases member with rfl | rfl | rfl | rfl | member
    · exact .inl ⟨_, by omega, rfl⟩
    · exact .inl ⟨_, by omega, rfl⟩
    · exact .inl ⟨_, by omega, rfl⟩
    · exact .inl ⟨_, by omega, rfl⟩
    · exact ih letter member

end Radix
