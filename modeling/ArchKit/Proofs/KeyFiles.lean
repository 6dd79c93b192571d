import ArchKit.Disk

/-! What a key file holds while it is written: the secret once all its digits are there,
and no key before. -/

namespace ArchKit
open Effects Radix Text

theorem utf8_ofList (letters : List Char) : utf8 (String.ofList letters) = letters.flatMap String.utf8EncodeChar := by
  rw [utf8, String.toByteArray_ofList, List.utf8Encode]
  simp

theorem utf8_append (first last : String) : utf8 (first ++ last) = utf8 first ++ utf8 last := by
  simp [utf8]

/-- The encoding of ASCII text has one byte for each character. -/
theorem utf8_ascii {letters : List Char} (ascii : ∀ letter ∈ letters, letter.toNat < 128) :
    utf8 (String.ofList letters) = letters.map fun letter => UInt8.ofNat letter.toNat := by
  rw [utf8_ofList]
  induction letters with
  | nil => rfl
  | cons letter letters ih =>
    have small : letter.val.toNat ≤ 0x7f := Nat.le_of_lt_succ (ascii letter List.mem_cons_self)
    have single : String.utf8EncodeChar letter = [UInt8.ofNat letter.toNat] := if_pos small
    rw [List.flatMap_cons, List.map_cons, single, ih (fun other member => ascii other (List.mem_cons_of_mem _ member)),
      List.singleton_append]

namespace Keys
variable {sdk : Sdk} {keypair : Keypair}

/-- A buffer is written at once where the server takes it whole. -/
theorem writeAll_whole {δ : Type} {server : Server api δ} {before after : δ} (fail : IoError → CliError) {file : File}
    {buffer : Bytes} (idle : buffer = [] → after = before)
    (taken : buffer ≠ [] → server before (.write file buffer) (.ok buffer.length) after) :
    Fallible.Executes server (writeAll fail file buffer) before (.ok ()) after := by
  cases buffer with
  | nil =>
    rw [writeAll, idle rfl]
    exact .pure
  | cons byte rest =>
    rw [writeAll]
    apply Fallible.Executes.perform (I := api) _ (taken (List.cons_ne_nil byte rest))
    dsimp only [List.length_cons]
    rw [List.drop_length, writeAll]
    exact .pure

/-- The key that is read from the bytes of a file. -/
def heldKey? (sdk : Sdk) (bytes : Bytes) : Option SecretKey :=
  (fromUtf8? bytes).bind fun contents => (parseSecretKey sdk contents).toOption

/-- The line that is written for a key. -/
def keyLine (keypair : Keypair) : Bytes := utf8 (encodedSecret keypair) ++ utf8 "\n"

def lineText (keypair : Keypair) : List Char := hexEncode keypair.secretKey.bytes ++ ['\n']

theorem hexLetter_plain : ∀ digit < 16, (Radix.hexAlphabet.letter digit).toNat < 128 ∧
    isWhitespace (hexAlphabet.letter digit) = false ∧ hexAlphabet.letter digit ≠ '[' := by
  decide

theorem keyLine_eq (keypair : Keypair) : keyLine keypair = utf8 (String.ofList (lineText keypair)) := by
  rw [keyLine, lineText, String.ofList_append, utf8_append]
  rfl

theorem lineText_ascii (keypair : Keypair) : ∀ letter ∈ lineText keypair, letter.toNat < 128 := by
  intro letter member
  rcases List.mem_append.mp member with digit | last
  · obtain ⟨number, small, same⟩ := hexEncode_digits _ letter digit
    rw [same]
    exact (hexLetter_plain number small).1
  · rw [List.mem_singleton.mp last]
    decide

/-- The start of a key line is the text that starts the line. -/
theorem decode_started {bytes : Bytes} (started : bytes <+: keyLine keypair) :
    fromUtf8? bytes = some (String.ofList ((lineText keypair).take bytes.length)) := by
  rw [fromUtf8?_eq_some, utf8_ascii (fun letter member => lineText_ascii keypair letter (List.mem_of_mem_take member)),
    List.map_take, ← utf8_ascii (lineText_ascii keypair), ← keyLine_eq]
  exact List.prefix_iff_eq_take.mp started

theorem digits_length (keypair : Keypair) : (hexEncode keypair.secretKey.bytes).length = 64 := by
  rw [hexEncode_length, keypair.secretKey.valid.1]

theorem digits_plain {keypair : Keypair} {letter : Char} (member : letter ∈ hexEncode keypair.secretKey.bytes) :
    isWhitespace letter = false ∧ letter ≠ '[' := by
  obtain ⟨number, small, same⟩ := hexEncode_digits _ letter member
  rw [same]
  exact (hexLetter_plain number small).2

/-- All digits of the key are read as the key. -/
theorem parse_line {count : Nat} (complete : 64 ≤ count) :
    parseSecretKey sdk (String.ofList ((lineText keypair).take count)) = .ok keypair.secretKey := by
  have shape : (lineText keypair).take count = hexEncode keypair.secretKey.bytes ++ ['\n'].take (count - 64) := by
    rw [lineText, List.take_append, digits_length, List.take_of_length_le (by rw [digits_length]; exact complete)]
  have blank : ∀ letter ∈ ['\n'].take (count - 64), isWhitespace letter := by
    intro letter member
    rw [List.mem_singleton.mp (List.mem_of_mem_take member)]
    rfl
  have trimmed : trim (hexEncode keypair.secretKey.bytes ++ ['\n'].take (count - 64)) = hexEncode keypair.secretKey.bytes := by
    have surrounded := trim_surround (hexEncode keypair.secretKey.bytes)
      (show ∀ letter ∈ [], isWhitespace letter from fun _ member => nomatch member) blank
    rw [List.nil_append] at surrounded
    rw [surrounded, trim_eq_self (fun letter member => (digits_plain member).1)]
  have valid : SecretKey.fromSlice? keypair.secretKey.bytes = some keypair.secretKey := dif_pos keypair.secretKey.valid
  rw [parseSecretKey, shape, String.toList_ofList, trimmed, hexDecode_hexEncode, Option.bind_some, valid]

/-- Fewer digits are not read as any key. -/
theorem parse_short {count : Nat} (short : count < 64) {secret : SecretKey} :
    parseSecretKey sdk (String.ofList ((lineText keypair).take count)) ≠ .ok secret := by
  have shape : (lineText keypair).take count = (hexEncode keypair.secretKey.bytes).take count := by
    rw [lineText, List.take_append_of_le_length (by rw [digits_length]; omega)]
  have plain : ∀ letter ∈ (hexEncode keypair.secretKey.bytes).take count, isWhitespace letter = false ∧ letter ≠ '[' :=
    fun letter member => digits_plain (List.mem_of_mem_take member)
  have unread : (hexDecode ((hexEncode keypair.secretKey.bytes).take count)).bind SecretKey.fromSlice? = none := by
    rw [Option.bind_eq_none_iff]
    intro bytes decoded
    have size := hexDecode_length decoded
    rw [List.length_take, digits_length] at size
    exact dif_neg (fun valid => by have := valid.1; omega)
  rw [parseSecretKey, shape, String.toList_ofList, trim_eq_self (fun letter member => (plain letter member).1), unread]
  dsimp only
  cases read : sdk.bytesFromJson (String.ofList ((hexEncode keypair.secretKey.bytes).take count)) with
  | error error => exact fun same => by cases same
  | ok bytes =>
    have bracket := sdk.bytesFromJson_array _ _ read
    rw [String.toList_ofList] at bracket
    exact absurd rfl (plain _ bracket).2

theorem heldKey?_started {bytes : Bytes} (started : bytes <+: keyLine keypair) :
    heldKey? sdk bytes = if 64 ≤ bytes.length then some keypair.secretKey else none := by
  rw [heldKey?, decode_started started, Option.bind_some]
  by_cases complete : 64 ≤ bytes.length
  · rw [if_pos complete, parse_line complete]
    rfl
  · rw [if_neg complete]
    cases parsed : parseSecretKey sdk (String.ofList ((lineText keypair).take bytes.length)) with
    | ok secret => exact absurd parsed (parse_short (by omega))
    | error error => rfl

/-- A key that can be read is not changed by the rest of the line. -/
theorem heldKey?_grows {first last : Bytes} (started : last <+: keyLine keypair) (part : first <+: last) {secret : SecretKey}
    (held : heldKey? sdk first = some secret) : heldKey? sdk last = some secret := by
  rw [heldKey?_started (part.trans started)] at held
  by_cases complete : 64 ≤ first.length
  · have longer := part.length_le
    rw [if_pos complete] at held
    rw [heldKey?_started started, if_pos (by omega), held]
  · rw [if_neg complete] at held
    cases held

theorem heldKey?_line (keypair : Keypair) : heldKey? sdk (keyLine keypair) = some keypair.secretKey := by
  have complete : 64 ≤ (keyLine keypair).length := by
    rw [keyLine_eq, utf8_ascii (lineText_ascii keypair), List.length_map, lineText, List.length_append, digits_length]
    exact Nat.le_add_right _ _
  rw [heldKey?_started (List.prefix_refl _), if_pos complete]

end Keys
end ArchKit
