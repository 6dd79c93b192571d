import ArchKit.Radix.Digits

/-! Hexadecimal spelling of byte strings: lower case when written, any mix of cases
when read. -/

namespace Radix

def hexAlphabet : Alphabet := ⟨"0123456789abcdef".toList, by decide⟩

/-- `hex::encode`. -/
def hexEncode (bytes : List UInt8) : List Char :=
  bytes.flatMap fun byte => [hexAlphabet.letter (byte.toNat / 16), hexAlphabet.letter (byte.toNat % 16)]

def hexDigit? (letter : Char) : Option Nat := hexAlphabet.digit? letter.toLower

/-- `hex::decode`: pairs of digits, so an odd count is an error. -/
def hexDecode : List Char → Option (List UInt8)
  | [] => some []
  | [_] => none
  | high :: low :: letters =>
    match hexDigit? high, hexDigit? low, hexDecode letters with
    | some first, some second, some bytes => some (UInt8.ofNat (16 * first + second) :: bytes)
    | _, _, _ => none

theorem hexEncode_length (bytes : List UInt8) : (hexEncode bytes).length = 2 * bytes.length := by
  induction bytes with
  | nil => rfl
  | cons byte bytes ih =>
    simp only [hexEncode, List.flatMap_cons, List.length_append, List.length_cons, List.length_nil] at ih ⊢
    omega

theorem hexEncode_digits (bytes : List UInt8) :
    ∀ letter ∈ hexEncode bytes, ∃ digit < 16, letter = hexAlphabet.letter digit := by
  intro letter member
  obtain ⟨byte, _, inside⟩ := List.mem_flatMap.mp member
  have size := byte.toNat_lt
  rcases List.mem_cons.mp inside with first | last
  · exact ⟨_, by omega, first⟩
  · exact ⟨_, by omega, List.mem_singleton.mp last⟩

theorem hexDecode_length {letters : List Char} {bytes : List UInt8} (decoded : hexDecode letters = some bytes) :
    letters.length = 2 * bytes.length := by
  fun_induction hexDecode letters generalizing bytes with
  | case1 => cases decoded; rfl
  | case2 => cases decoded
  | case3 high low rest first second tail read _ _ ih =>
    cases decoded
    simp only [List.length_cons, ih read]
    omega
  | case4 => cases decoded

/-- A hexadecimal letter in the case the spelling was written in, or the other one. -/
theorem hexDigit?_of_toLower {digit : Nat} (small : digit < 16) {letter : Char}
    (spelled : letter.toLower = hexAlphabet.letter digit) : hexDigit? letter = some digit := by
  rw [hexDigit?, spelled]
  exact Alphabet.digit?_letter small

/-- Any change of letter case leaves the decoded bytes as they were. -/
theorem hexDecode_encode {letters : List Char} (bytes : List UInt8)
    (spelled : letters.map Char.toLower = hexEncode bytes) : hexDecode letters = some bytes := by
  induction bytes generalizing letters with
  | nil =>
    have empty : letters = [] := by simpa [hexEncode] using spelled
    rw [empty, hexDecode]
  | cons byte bytes ih =>
    match letters, spelled with
    | [], spelled => simp [hexEncode] at spelled
    | [_], spelled => simp [hexEncode] at spelled
    | high :: low :: rest, spelled =>
      simp only [hexEncode, List.flatMap_cons, List.cons_append, List.nil_append, List.map_cons, List.cons.injEq] at spelled
      have size := byte.toNat_lt
      have first := hexDigit?_of_toLower (by omega) spelled.1
      have second := hexDigit?_of_toLower (by omega) spelled.2.1
      have whole : 16 * (byte.toNat / 16) + byte.toNat % 16 = byte.toNat := Nat.div_add_mod _ _
      simp only [hexDecode, first, second, ih spelled.2.2, whole, UInt8.ofNat_toNat]

theorem hexDigit?_lower {letter : Char} {digit : Nat} (read : hexDigit? letter = some digit) :
    digit < 16 ∧ letter.toLower = hexAlphabet.letter digit := by
  obtain ⟨small, spelled⟩ := Alphabet.digit?_eq_some.mp read
  exact ⟨small, spelled.symm⟩

/-- The letters that decode to given bytes are their digits in any letter case. -/
theorem hexDecode_eq_some {letters : List Char} {bytes : List UInt8} :
    hexDecode letters = some bytes ↔ letters.map Char.toLower = hexEncode bytes := by
  refine ⟨?_, hexDecode_encode bytes⟩
  intro decoded
  fun_induction hexDecode letters generalizing bytes with
  | case1 => cases decoded; rfl
  | case2 => cases decoded
  | case3 high low rest first second tail read lowRead highRead ih =>
    cases decoded
    obtain ⟨firstSmall, firstLetter⟩ := hexDigit?_lower highRead
    obtain ⟨secondSmall, secondLetter⟩ := hexDigit?_lower lowRead
    have whole : (UInt8.ofNat (16 * first + second)).toNat = 16 * first + second :=
      UInt8.toNat_ofNat_of_lt' (show 16 * first + second < 256 by omega)
    have quotient : (16 * first + second) / 16 = first := by omega
    have remainder : (16 * first + second) % 16 = second := by omega
    simp only [List.map_cons, ih read, firstLetter, secondLetter, hexEncode, List.flatMap_cons, whole, quotient, remainder,
      List.cons_append, List.nil_append]
  | case4 => cases decoded

theorem hexEncode_lower (bytes : List UInt8) : (hexEncode bytes).map Char.toLower = hexEncode bytes := by
  have lower : ∀ digit < 16, (hexAlphabet.letter digit).toLower = hexAlphabet.letter digit := by decide
  induction bytes with
  | nil => rfl
  | cons byte bytes ih =>
    have size := byte.toNat_lt
    simp only [hexEncode, List.flatMap_cons, List.map_append, List.map_cons, List.map_nil] at ih ⊢
    rw [ih, lower _ (by omega), lower _ (by omega)]

theorem hexDecode_hexEncode (bytes : List UInt8) : hexDecode (hexEncode bytes) = some bytes :=
  hexDecode_encode bytes (hexEncode_lower bytes)

end Radix
