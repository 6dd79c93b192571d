import ArchKit.Error

namespace ArchKit
open Radix

/-- `<[u8; 32]>::try_from`. -/
def Pubkey.ofBytes? (bytes : Bytes) : Option Pubkey :=
  if size : bytes.length = 32 then some ⟨bytes, size⟩ else none

theorem Pubkey.ofBytes?_eq_some {bytes : Bytes} {key : Pubkey} : ofBytes? bytes = some key ↔ bytes = key.bytes := by
  unfold ofBytes?
  by_cases size : bytes.length = 32
  · rw [dif_pos size, Option.some.injEq]
    cases key
    simp only [mk.injEq]
  · rw [dif_neg size]
    refine iff_of_false (by simp) ?_
    intro same
    exact size (by rw [same]; exact key.size)

namespace Token

def parsePubkey (value label : String) : Except CliError Pubkey :=
  match (base58Decode value.toList).bind Pubkey.ofBytes? with
  | some key => .ok key
  | none =>
    match (hexDecode value.toList).bind Pubkey.ofBytes? with
    | some key => .ok key
    | none => .error (.invalidArgument (label ++ " must be a Base58 or 64-character hexadecimal Arch public key"))

theorem decodes_iff {decoded : Option Bytes} {key : Pubkey} :
    decoded.bind Pubkey.ofBytes? = some key ↔ decoded = some key.bytes := by
  rw [Option.bind_eq_some_iff]
  constructor
  · intro found
    obtain ⟨bytes, read, same⟩ := found
    rw [read, Pubkey.ofBytes?_eq_some.mp same]
  · intro read
    exact ⟨key.bytes, read, Pubkey.ofBytes?_eq_some.mpr rfl⟩

/-- A hexadecimal key has 64 characters and a Base58 key at most 44. -/
theorem base58_not_hex {text : List Char} {key other : Bytes} (first : base58Decode text = some key)
    (size : key.length = 32) (second : hexDecode text = some other) (otherSize : other.length = 32) : False := by
  have short := base58Encode_length_le (Nat.le_of_eq size)
  have long := hexDecode_length second
  rw [base58Encode_of_decode first] at short
  omega

theorem parsePubkey_eq_ok {value label : String} {key : Pubkey} : parsePubkey value label = .ok key ↔
    base58Decode value.toList = some key.bytes ∨ hexDecode value.toList = some key.bytes := by
  unfold parsePubkey
  cases first : (base58Decode value.toList).bind Pubkey.ofBytes? with
  | some other =>
    have read := decodes_iff.mp first
    simp only [Except.ok.injEq]
    constructor
    · intro same
      exact .inl (same ▸ read)
    · intro either
      rcases either with again | second
      · exact Option.some.inj (first.symm.trans (decodes_iff.mpr again))
      · exact (base58_not_hex read other.size second key.size).elim
  | none =>
    have unread : ¬base58Decode value.toList = some key.bytes := by
      intro read
      rw [decodes_iff.mpr read] at first
      cases first
    simp only [unread, false_or]
    rw [← decodes_iff]
    cases (hexDecode value.toList).bind Pubkey.ofBytes? with
    | some other => simp
    | none => simp

/-- Every spelling of a key is read as that key, and no text spells two keys. -/
theorem parsePubkey_unambiguous (label : String) :
    (∀ key : Pubkey, parsePubkey (toString key) label = .ok key ∧
      ∀ text : String, text.toList.map Char.toLower = hexEncode key.bytes → parsePubkey text label = .ok key) ∧
    (∀ text key, parsePubkey text label = .ok key ↔
      base58Decode text.toList = some key.bytes ∨ hexDecode text.toList = some key.bytes) ∧
    ∀ text : String, ¬((∃ bytes, base58Decode text.toList = some bytes ∧ bytes.length = 32) ∧
      ∃ bytes, hexDecode text.toList = some bytes ∧ bytes.length = 32) := by
  refine ⟨?_, fun text key => parsePubkey_eq_ok, ?_⟩
  · intro key
    constructor
    · apply parsePubkey_eq_ok.mpr (.inl _)
      change base58Decode (String.ofList (base58Encode key.bytes)).toList = _
      rw [String.toList_ofList, base58Decode_encode]
    · intro text spelled
      exact parsePubkey_eq_ok.mpr (.inr (hexDecode_encode key.bytes spelled))
  · intro text both
    obtain ⟨⟨first, read, size⟩, second, also, otherSize⟩ := both
    exact base58_not_hex read size also otherSize

end Token
end ArchKit
