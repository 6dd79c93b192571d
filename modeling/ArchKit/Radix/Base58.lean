import ArchKit.Radix.Digits

/-! Base58 over the Bitcoin alphabet: the digits of the big-endian number, with one
leading `1` for each leading zero byte. -/

namespace Radix

def base58Alphabet : Alphabet :=
  ⟨"123456789ABCDEFGHJKLMNPQRSTUVWXYZabcdefghijkmnopqrstuvwxyz".toList, by decide +kernel⟩

def byteDigits (bytes : List UInt8) : List Nat := bytes.map UInt8.toNat

theorem byteDigits_lt {bytes : List UInt8} : ∀ digit ∈ byteDigits bytes, digit < 256 := by
  intro digit member
  obtain ⟨byte, _, rfl⟩ := List.mem_map.mp member
  exact byte.toNat_lt

theorem byteDigits_ofNat {digits : List Nat} (small : ∀ digit ∈ digits, digit < 256) :
    byteDigits (digits.map UInt8.ofNat) = digits := by
  rw [byteDigits, List.map_map]
  conv_rhs => rw [← List.map_id digits]
  apply List.map_congr_left
  intro digit member
  simpa [UInt8.toNat_ofNat'] using small digit member

theorem ofNat_byteDigits (bytes : List UInt8) : (byteDigits bytes).map UInt8.ofNat = bytes := by
  simp [byteDigits, Function.comp_def]

/-- `bs58::encode`. -/
def base58Encode (bytes : List UInt8) : List Char :=
  base58Alphabet.spell (convert 256 58 (byteDigits bytes))

/-- `bs58::decode`. -/
def base58Decode (letters : List Char) : Option (List UInt8) :=
  (base58Alphabet.read? letters).map fun digits => (convert 58 256 digits).map UInt8.ofNat

theorem base58Decode_encode (bytes : List UInt8) : base58Decode (base58Encode bytes) = some bytes := by
  have small : ∀ digit ∈ convert 256 58 (byteDigits bytes), digit < base58Alphabet.letters.length :=
    fun digit member => convert_lt (by decide) member
  rw [base58Decode, base58Encode, Alphabet.read?_spell small, Option.map_some,
    convert_convert 58 (by decide) byteDigits_lt, ofNat_byteDigits]

/-- A decoded string is the encoding of its bytes, so no two strings share them. -/
theorem base58Encode_of_decode {letters : List Char} {bytes : List UInt8}
    (decoded : base58Decode letters = some bytes) : base58Encode bytes = letters := by
  obtain ⟨digits, read, rfl⟩ := Option.map_eq_some_iff.mp decoded
  obtain ⟨inside, spelled⟩ := Alphabet.read?_eq_some.mp read
  have small : ∀ digit ∈ digits, digit < 58 := inside
  have bytesSmall : ∀ digit ∈ convert 58 256 digits, digit < 256 := fun digit member =>
    convert_lt (by decide) member
  rw [base58Encode, byteDigits_ofNat bytesSmall, convert_convert 256 (by decide) small, spelled]

/-- Every leading zero byte costs one character, and the bytes after it grow by less
than the twelve spare characters. -/
theorem base58Encode_length_le {bytes : List UInt8} (size : bytes.length ≤ 32) :
    (base58Encode bytes).length ≤ bytes.length + 12 := by
  obtain ⟨rest, shape, leading⟩ := split_leadingZeros (byteDigits bytes)
  have total : (leadingZeros (byteDigits bytes)).length + rest.length = bytes.length := by
    have := congrArg List.length shape
    simpa [byteDigits] using this.symm
  have restSmall : ∀ digit ∈ rest, digit < 256 := fun digit member =>
    byteDigits_lt digit (by rw [shape]; exact List.mem_append_right _ member)
  have kept : value 256 (byteDigits bytes) = value 256 rest := by
    rw [shape, value_append_zeros]
  have powers : ∀ count ≤ 32, 256 ^ count ≤ 58 ^ (count + 12) := by decide
  have bound : value 256 rest < 58 ^ (rest.length + 12) :=
    lt_of_lt_of_le (value_lt (by decide) restSmall) (powers _ (by omega))
  have short : (digitsOf 58 (value 256 rest)).length ≤ rest.length + 12 := digitsOf_length_le (by decide) bound
  simp only [base58Encode, Alphabet.spell, List.length_map, convert_length, kept]
  omega

end Radix
