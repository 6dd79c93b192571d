import ArchKit.Proofs.KeyFiles
import ArchKit.Radix.Reach
import ArchKit.Vanity

/-! Which accepted prefixes some key has. -/

namespace ArchKit.Vanity
open Radix

theorem alphabet_ascii : ∀ letter ∈ base58Alphabet.letters, letter.toNat < 128 := by
  have all : base58Alphabet.letters.all (fun letter => decide (letter.toNat < 128)) = true := by decide
  exact fun letter member => of_decide_eq_true (List.all_eq_true.mp all letter member)

theorem alphabet_eq : alphabet = base58Alphabet.letters.map fun letter => UInt8.ofNat letter.toNat :=
  utf8_ascii alphabet_ascii

theorem spell_ascii {digits : List Nat} (small : ∀ digit ∈ digits, digit < 58) :
    ∀ letter ∈ base58Alphabet.spell digits, letter.toNat < 128 := by
  intro letter member
  obtain ⟨digit, inside, same⟩ := List.mem_map.mp member
  subst same
  have bound : digit < base58Alphabet.letters.length := small digit inside
  rw [Alphabet.letter, List.getD_eq_getElem _ _ bound]
  exact alphabet_ascii _ (List.getElem_mem bound)

theorem base58Encode_ascii (bytes : Bytes) : ∀ letter ∈ base58Encode bytes, letter.toNat < 128 :=
  spell_ascii (fun _ member => convert_lt (by decide) member)

theorem utf8_injective {first last : String} (same : utf8 first = utf8 last) : first = last := by
  have read := fromUtf8?_eq_some.mpr same
  rw [fromUtf8?_eq_some.mpr rfl] at read
  exact Option.some.inj read

theorem toNat_small {number : Nat} (small : number < 128) : (UInt8.ofNat number).toNat = number :=
  UInt8.toNat_ofNat_of_lt' (Nat.lt_trans small (by decide))

theorem ascii_injective {first second : Char} (plain : first.toNat < 128) (ascii : second.toNat < 128)
    (same : UInt8.ofNat first.toNat = UInt8.ofNat second.toNat) : first = second := by
  have equal := congrArg UInt8.toNat same
  rw [toNat_small plain, toNat_small ascii] at equal
  exact Char.toNat_inj.mp equal

theorem charOfNat_small {number : Nat} (small : number < 128) : (Char.ofNat number).toNat = number := by
  have valid : number.isValidChar := .inl (Nat.lt_trans small (by decide))
  rw [Char.ofNat, dif_pos valid]
  rfl

/-- A text whose bytes are ASCII has one character for each byte. -/
theorem utf8_of_small {text : String} (small : ∀ byte ∈ utf8 text, byte.toNat < 128) :
    (∀ letter ∈ text.toList, letter.toNat < 128) ∧ utf8 text = text.toList.map fun letter => UInt8.ofNat letter.toNat := by
  let letters := (utf8 text).map fun byte => Char.ofNat byte.toNat
  have ascii : ∀ letter ∈ letters, letter.toNat < 128 := by
    intro letter member
    obtain ⟨byte, inside, same⟩ := List.mem_map.mp member
    subst same
    rw [charOfNat_small (small byte inside)]
    exact small byte inside
  have spelled : letters.map (fun letter => UInt8.ofNat letter.toNat) = utf8 text := by
    rw [List.map_map]
    conv_rhs => rw [← List.map_id (utf8 text)]
    apply List.map_congr_left
    intro byte member
    simp [charOfNat_small (small byte member)]
  have same : text = String.ofList letters := utf8_injective ((utf8_ascii ascii).trans spelled).symm
  have listed : text.toList = letters := by rw [same, String.toList_ofList]
  rw [listed, spelled]
  exact ⟨ascii, rfl⟩

/-- The digits of a key fit the buffer of the comparison, so it does not panic. -/
theorem base58StartsWith_eq {bytes : Bytes} (size : bytes.length = 32) (wanted : Bytes) :
    base58StartsWith bytes wanted = some (wanted.isPrefixOf (utf8 (String.ofList (base58Encode bytes)))) := by
  have short := base58Encode_length_le (Nat.le_of_eq size)
  refine if_pos ?_
  rw [size] at short
  rw [utf8_ascii (base58Encode_ascii bytes), List.length_map]
  exact short

/-- The comparison of a key ends for every prefix, and the answer is whether the bytes of the
key's encoding begin with it: a `1` for each leading zero byte, then the digits of the number. -/
theorem base58StartsWith_exact (key : Pubkey) :
    ∃ digits : List Nat, (∀ digit ∈ digits, digit < 58) ∧ digits.head? ≠ some 0 ∧
      value 58 digits = value 256 (byteDigits key.bytes) ∧
      base58Encode key.bytes =
        List.replicate (key.bytes.takeWhile (· = 0)).length '1' ++ digits.map base58Alphabet.letter ∧
      (base58Encode key.bytes).length ≤ maxXOnlyBase58Len ∧
      ∀ wanted, ∃ answer, base58StartsWith key.bytes wanted = some answer ∧
        (answer = true ↔ wanted <+: (base58Encode key.bytes).map fun letter => UInt8.ofNat letter.toNat) := by
  refine ⟨digitsOf 58 (value 256 (byteDigits key.bytes)), fun _ => digitsOf_lt (by decide), ?_,
    value_digitsOf .., ?_, ?_, ?_⟩
  · intro zero
    obtain ⟨rest, shape⟩ := List.head?_eq_some_iff.mp zero
    exact head_digitsOf _ 0 rest shape rfl
  · have zeros : leadingZeros (byteDigits key.bytes) = List.replicate (key.bytes.takeWhile (· = 0)).length 0 := by
      rw [leadingZeros_eq, leadingZeros, byteDigits, List.takeWhile_map, List.length_map]
      congr 3
      funext byte
      simp [← UInt8.toNat_inj]
    rw [base58Encode, convert, Alphabet.spell, List.map_append, zeros, List.map_replicate]
    rfl
  · have short := base58Encode_length_le (Nat.le_of_eq key.size)
    rwa [key.size] at short
  · intro wanted
    refine ⟨_, base58StartsWith_eq key.size wanted, ?_⟩
    rw [utf8_ascii (base58Encode_ascii key.bytes), List.isPrefixOf_iff_prefix]

section Accepted
variable {text : String} (accepted : validatePrefix text = .ok ())
include accepted

theorem accepted_bytes : ∀ byte ∈ utf8 text, byte ∈ alphabet := by
  intro byte member
  by_contra foreign
  obtain ⟨invalid, found⟩ : ∃ invalid, (utf8 text).find? (!alphabet.contains ·) = some invalid :=
    Option.isSome_iff_exists.mp (List.find?_isSome.mpr ⟨byte, member, by simpa using foreign⟩)
  rw [validatePrefix] at accepted
  simp only [found] at accepted
  split at accepted
  next => cases accepted
  next => split at accepted <;> cases accepted

/-- An accepted prefix consists of letters of the alphabet. -/
theorem accepted_letters : (∀ letter ∈ text.toList, letter ∈ base58Alphabet.letters) ∧
    utf8 text = text.toList.map fun letter => UInt8.ofNat letter.toNat := by
  have known := accepted_bytes accepted
  rw [alphabet_eq] at known
  have small : ∀ byte ∈ utf8 text, byte.toNat < 128 := by
    intro byte member
    obtain ⟨letter, inside, same⟩ := List.mem_map.mp (known byte member)
    have bound := alphabet_ascii letter inside
    subst same
    rwa [toNat_small bound]
  obtain ⟨ascii, spelled⟩ := utf8_of_small small
  refine ⟨?_, spelled⟩
  intro letter member
  have inside : UInt8.ofNat letter.toNat ∈ utf8 text := by
    rw [spelled]
    exact List.mem_map_of_mem member
  obtain ⟨other, listed, same⟩ := List.mem_map.mp (known _ inside)
  exact ascii_injective (alphabet_ascii other listed) (ascii letter member) same ▸ listed

/-- Comparing a key with an accepted prefix compares the characters. -/
theorem base58StartsWith_iff {bytes : Bytes} (size : bytes.length = 32) :
    base58StartsWith bytes (utf8 text) = some true ↔ text.toList <+: base58Encode bytes := by
  obtain ⟨known, spelled⟩ := accepted_letters accepted
  rw [base58StartsWith_eq size, utf8_ascii (base58Encode_ascii bytes), spelled, Option.some.injEq, List.isPrefixOf_iff_prefix]
  apply map_begins_iff
  intro letter member other inside same
  exact ascii_injective (alphabet_ascii letter (known letter member)) (base58Encode_ascii bytes other inside) same

theorem accepted_decodes : ∃ decoded, base58Decode text.toList = some decoded := by
  obtain ⟨digits, read⟩ := Alphabet.read?_of_mem (accepted_letters accepted).1
  exact ⟨_, by rw [base58Decode, read]; rfl⟩

/-- An accepted prefix can be found exactly when it decodes to at most 32 bytes. -/
theorem validatePrefix_reachable_iff :
    (∃ key : Bytes, key.length = 32 ∧ base58StartsWith key (utf8 text) = some true) ↔
      ∃ decoded, base58Decode text.toList = some decoded ∧ decoded.length ≤ 32 := by
  obtain ⟨decoded, read⟩ := accepted_decodes accepted
  rw [read]
  calc (∃ key : Bytes, key.length = 32 ∧ base58StartsWith key (utf8 text) = some true)
    _ ↔ ∃ key : Bytes, key.length = 32 ∧ text.toList <+: base58Encode key :=
      exists_congr fun key => and_congr_right fun size => base58StartsWith_iff accepted size
    _ ↔ decoded.length ≤ 32 := base58_begins_iff read 32
    _ ↔ ∃ other, some decoded = some other ∧ other.length ≤ 32 := by simp

end Accepted

theorem validatePrefix_reachable_pamm :
    ∃ key : Bytes, key.length = 32 ∧ base58StartsWith key (utf8 "PAMM") = some true := by
  have accepted : validatePrefix "PAMM" = .ok () := by decide +kernel
  exact (validatePrefix_reachable_iff accepted).mpr ⟨_, rfl, by decide +kernel⟩

/-- No key begins with the letters of more than 32 bytes. -/
theorem unreachable_of_long {text : String} (accepted : validatePrefix text = .ok ())
    (long : (base58Decode text.toList).all (fun decoded => decide (32 < decoded.length)) = true) :
    ¬∃ key : Bytes, key.length = 32 ∧ base58StartsWith key (utf8 text) = some true := by
  intro found
  obtain ⟨key, size, begins⟩ := found
  obtain ⟨decoded, read⟩ := accepted_decodes accepted
  have short := (base58_begins_iff read 32).mp ⟨key, size, (base58StartsWith_iff accepted size).mp begins⟩
  rw [read] at long
  exact absurd short (Nat.not_le.mpr (of_decide_eq_true long))

/-- A prefix of 44 times the last letter, or of 33 times the first one, is accepted and no key has it. -/
theorem validatePrefix_unreachable :
    (validatePrefix (String.ofList (List.replicate 44 'z')) = .ok () ∧
      ¬∃ key : Bytes, key.length = 32 ∧ base58StartsWith key (utf8 (String.ofList (List.replicate 44 'z'))) = some true) ∧
    validatePrefix (String.ofList (List.replicate 33 '1')) = .ok () ∧
      ¬∃ key : Bytes, key.length = 32 ∧ base58StartsWith key (utf8 (String.ofList (List.replicate 33 '1'))) = some true := by
  have last : validatePrefix (String.ofList (List.replicate 44 'z')) = .ok () := by decide +kernel
  have first : validatePrefix (String.ofList (List.replicate 33 '1')) = .ok () := by decide +kernel
  exact ⟨⟨last, unreachable_of_long last (by decide +kernel)⟩, first, unreachable_of_long first (by decide +kernel)⟩

end ArchKit.Vanity
