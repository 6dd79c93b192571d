import ArchKit.Chain
import Mathlib.Data.List.Sort

/-! Executable stand-ins for the libraries. Messages are compiled and signed as the
SDK documents it; public keys, derived addresses and signatures come from tables, and
the codec knows finitely many documents. -/

namespace ArchKit
open Radix

namespace Instruction

/-- The accounts an instruction names, the invoked program last. -/
def accounts (systemProgram : Pubkey) : Instruction → List AccountMeta
  | .createAccount payer account _ _ _ => [.new payer true, .new account true, .newReadonly systemProgram false]
  | .assign account _ => [.new account true, .newReadonly systemProgram false]
  | .invoke programId accounts _ => accounts ++ [.newReadonly programId false]

theorem signers_of_accounts {systemProgram : Pubkey} {instruction : Instruction} {named : AccountMeta}
    (member : named ∈ instruction.accounts systemProgram) (signs : named.isSigner = true) :
    named.pubkey ∈ instruction.signers := by
  cases instruction with
  | createAccount payer account lamports space owner =>
    simp only [accounts, List.mem_cons, List.not_mem_nil, or_false] at member
    rcases member with rfl | rfl | rfl
    · simp [signers, AccountMeta.new]
    · simp [signers, AccountMeta.new]
    · cases signs
  | assign account owner =>
    simp only [accounts, List.mem_cons, List.not_mem_nil, or_false] at member
    rcases member with rfl | rfl
    · simp [signers, AccountMeta.new]
    · cases signs
  | invoke programId named' data =>
    rcases List.mem_append.mp member with inside | last
    · exact List.mem_map_of_mem (List.mem_filter.mpr ⟨inside, signs⟩)
    · cases List.mem_singleton.mp last
      cases signs

end Instruction

namespace Reference

def number (key : Pubkey) : Nat := value 256 (byteDigits key.bytes)

section Compilation
variable (systemProgram : Pubkey) (instructions : List Instruction) (payer : Option Pubkey)

def named : List AccountMeta := instructions.flatMap (·.accounts systemProgram)

/-- Every key but the payer's, once, in ascending order. -/
def keys : List Pubkey :=
  (((named systemProgram instructions).map AccountMeta.pubkey).filter (some · ≠ payer)).dedup.insertionSort
    (number · ≤ number ·)

def signs (key : Pubkey) : Bool :=
  (named systemProgram instructions).any fun account => account.pubkey = key && account.isSigner

def writes (key : Pubkey) : Bool :=
  (named systemProgram instructions).any fun account => account.pubkey = key && account.isWritable

def ordered (wanted : Pubkey → Bool) : List Pubkey :=
  let selected := (keys systemProgram instructions payer).filter wanted
  selected.filter (writes systemProgram instructions) ++ selected.filter (!writes systemProgram instructions ·)

/-- Signers before the others with the payer first, and within both groups the writable
accounts before the read-only ones. -/
def compile : Nat × List Pubkey :=
  let signers := payer.toList ++ ordered systemProgram instructions payer (signs systemProgram instructions)
  (signers.length, signers ++ ordered systemProgram instructions payer (!signs systemProgram instructions ·))

theorem compile_required (key : Pubkey)
    (required : key ∈ (compile systemProgram instructions payer).2.take (compile systemProgram instructions payer).1) :
    payer = some key ∨ ∃ instruction ∈ instructions, key ∈ instruction.signers := by
  simp only [compile, List.take_left] at required
  rcases List.mem_append.mp required with first | rest
  · exact .inl (Option.mem_toList.mp first)
  · right
    have signer : signs systemProgram instructions key = true := by
      simp only [ordered, List.mem_append, List.mem_filter] at rest
      rcases rest with writable | readonly
      · exact writable.1.2
      · exact readonly.1.2
    obtain ⟨account, member, same⟩ := List.any_eq_true.mp signer
    simp only [Bool.and_eq_true, decide_eq_true_eq] at same
    obtain ⟨instruction, inside, member⟩ := List.mem_flatMap.mp member
    exact ⟨instruction, inside, same.1 ▸ Instruction.signers_of_accounts member same.2⟩

end Compilation

structure Tables where
  systemProgram : Pubkey
  programAddress : Pubkey → Pubkey
  seededAddress : Pubkey → String → Pubkey → Except String Pubkey
  publicKey : Keypair → Pubkey
  sign : Keypair → ArchMessage → Signature

namespace Tables
variable (tables : Tables)

/-- One signature for each required key, in the order of the keys. -/
def buildAndSign (message : ArchMessage) (signers : List Keypair) (_network : Network) :
    Except ArchError RuntimeTransaction :=
  match (message.accountKeys.take message.numRequiredSignatures).mapM
      (fun key => signers.find? (tables.publicKey · = key)) with
  | some ordered => .ok ⟨0, ordered.map (tables.sign · message), message⟩
  | none => .error (.other "missing signer")

theorem buildAndSign_message (message : ArchMessage) (signers : List Keypair) (network : Network)
    (transaction : RuntimeTransaction) (built : tables.buildAndSign message signers network = .ok transaction) :
    transaction.message = message := by
  unfold buildAndSign at built
  split at built
  next => cases built; rfl
  next => cases built

theorem buildAndSign_signs (message : ArchMessage) (signers : List Keypair) (network : Network)
    (covered : ∀ key ∈ message.accountKeys.take message.numRequiredSignatures,
      ∃ signer ∈ signers, tables.publicKey signer = key) :
    ∃ transaction, tables.buildAndSign message signers network = .ok transaction := by
  have found : ∀ keys : List Pubkey, (∀ key ∈ keys, ∃ signer ∈ signers, tables.publicKey signer = key) →
      ∃ ordered, keys.mapM (fun key => signers.find? (tables.publicKey · = key)) = some ordered := by
    intro keys covered
    induction keys with
    | nil => exact ⟨[], rfl⟩
    | cons key keys ih =>
      obtain ⟨rest, ordered⟩ := ih (fun other member => covered other (List.mem_cons_of_mem _ member))
      obtain ⟨signer, member, same⟩ := covered key List.mem_cons_self
      have present : (signers.find? (tables.publicKey · = key)).isSome := by
        simpa using ⟨signer, member, same⟩
      obtain ⟨chosen, first⟩ := Option.isSome_iff_exists.mp present
      exact ⟨chosen :: rest, by simp [List.mapM_cons, first, ordered]⟩
  obtain ⟨ordered, all⟩ := found _ covered
  exact ⟨_, by rw [buildAndSign, all]⟩

def sdk : Sdk where
  findProgramAddress := tables.programAddress
  createWithSeed := tables.seededAddress
  minimumRent dataLen := (128 + dataLen) * 6960
  systemProgram := tables.systemProgram
  xOnlyPublicKey := tables.publicKey
  bytesFromJson _ := .error "expected value"
  messageKeys := compile tables.systemProgram
  buildAndSign := tables.buildAndSign
  bytesFromJson_array := fun _ _ read => by cases read
  messageKeys_required := compile_required tables.systemProgram
  buildAndSign_message := tables.buildAndSign_message
  buildAndSign_signs := tables.buildAndSign_signs

end Tables

/-- A JSON document with its serialization and the compressed serialization. -/
structure Document where
  json : Json
  text : Bytes
  compressed : Bytes

def codec (documents : List Document) : Codec where
  fromSlice text :=
    match documents.find? (·.text = text) with
    | some document => .ok document.json
    | none => .error "expected value"
  toVec json :=
    match documents.find? (·.json = json) with
    | some document => .ok document.text
    | none => .error "unknown document"
  inflate compressed :=
    match documents.find? (·.compressed = compressed) with
    | some document => .ok document.text
    | none => .error "corrupt deflate stream"
  deflate text :=
    match documents.find? (·.text = text) with
    | some document => .ok (.ok document.compressed)
    | none => .error "unknown text"

private theorem find_unique {κ : Type} [DecidableEq κ] {documents : List Document} (field : Document → κ)
    (distinct : (documents.map field).Nodup) {document : Document} (member : document ∈ documents) :
    documents.find? (field · = field document) = some document := by
  induction documents with
  | nil => cases member
  | cons head rest ih =>
    obtain ⟨fresh, distinct⟩ := List.nodup_cons.mp distinct
    rcases List.mem_cons.mp member with rfl | member
    · simp
    · have different : field head ≠ field document := fun same => fresh (same ▸ List.mem_map_of_mem member)
      simpa [different] using ih distinct member

theorem codec_lawful {documents : List Document} (texts : (documents.map Document.text).Nodup)
    (payloads : (documents.map Document.compressed).Nodup) : (codec documents).Lawful where
  fromSlice_toVec value bytes written := by
    simp only [codec] at written ⊢
    split at written
    next document found =>
      cases written
      rw [find_unique Document.text texts (List.mem_of_find?_eq_some found)]
      have same := List.find?_some found
      exact congrArg Except.ok (of_decide_eq_true same)
    next => cases written
  inflate_deflate bytes compressed written := by
    simp only [codec] at written ⊢
    split at written
    next document found =>
      cases written
      rw [find_unique Document.compressed payloads (List.mem_of_find?_eq_some found)]
      have same := List.find?_some found
      exact congrArg Except.ok (of_decide_eq_true same)
    next => cases written

section Deployment
open Idl

def program : Pubkey := .fromSlice (List.replicate 32 3)

def secret (byte : UInt8) (valid : ValidScalar (List.replicate 32 byte)) : Keypair := ⟨⟨List.replicate 32 byte, valid⟩⟩

def authorityKeypair : Keypair := secret 2 (by decide +kernel)
def firstBuffer : Keypair := secret 4 (by decide +kernel)
def secondBuffer : Keypair := secret 5 (by decide +kernel)
def thirdBuffer : Keypair := secret 6 (by decide +kernel)

/-- The x-only public keys of the secrets above. -/
def publicKeys : List (Keypair × Bytes) :=
  [(authorityKeypair,
      [0x4d, 0x4b, 0x6c, 0xd1, 0x36, 0x10, 0x32, 0xca, 0x9b, 0xd2, 0xae, 0xb9, 0xd9, 0x00, 0xaa, 0x4d,
       0x45, 0xd9, 0xea, 0xd8, 0x0a, 0xc9, 0x42, 0x33, 0x74, 0xc4, 0x51, 0xa7, 0x25, 0x4d, 0x07, 0x66]),
    (firstBuffer,
      [0x46, 0x27, 0x79, 0xad, 0x4a, 0xad, 0x39, 0x51, 0x46, 0x14, 0x75, 0x1a, 0x71, 0x08, 0x5f, 0x2f,
       0x10, 0xe1, 0xc7, 0xa5, 0x93, 0xe4, 0xe0, 0x30, 0xef, 0xb5, 0xb8, 0x72, 0x1c, 0xe5, 0x5b, 0x0b]),
    (secondBuffer,
      [0x62, 0xc0, 0xa0, 0x46, 0xda, 0xcc, 0xe8, 0x6d, 0xdd, 0x03, 0x43, 0xc6, 0xd3, 0xc7, 0xc7, 0x9c,
       0x22, 0x08, 0xba, 0x0d, 0x9c, 0x9c, 0xf2, 0x4a, 0x6d, 0x04, 0x6d, 0x21, 0xd2, 0x1f, 0x90, 0xf7]),
    (thirdBuffer,
      [0xf0, 0x06, 0xa1, 0x8d, 0x56, 0x53, 0xc4, 0xed, 0xf5, 0x39, 0x1f, 0xf2, 0x3a, 0x61, 0xf0, 0x3f,
       0xf8, 0x3d, 0x23, 0x7e, 0x88, 0x0e, 0xe6, 0x11, 0x87, 0xfa, 0x9f, 0x37, 0x9a, 0x02, 0x8e, 0x0a])]

def publicKey (keypair : Keypair) : Pubkey := .fromSlice ((publicKeys.lookup keypair).getD [])

def base : Pubkey := .fromSlice
  [0xf9, 0x0f, 0xbc, 0xef, 0x1a, 0xbe, 0x97, 0xaa, 0x0b, 0xc4, 0x64, 0xb6, 0xfe, 0x0f, 0xfc, 0x44,
   0xb2, 0x21, 0xdc, 0x02, 0x6c, 0x3c, 0x7a, 0x53, 0x79, 0xbd, 0x68, 0x5c, 0x81, 0x99, 0xe6, 0x8e]
def canonical : Pubkey := .fromSlice
  [0x82, 0xc5, 0x72, 0xda, 0x0f, 0xc8, 0x84, 0x9f, 0x61, 0x3c, 0xbb, 0xbc, 0x6b, 0xaf, 0x90, 0x36,
   0xec, 0x98, 0xd2, 0x37, 0x62, 0x52, 0x01, 0x99, 0xba, 0x7c, 0x75, 0xa5, 0xc0, 0xa1, 0x66, 0xde]

def tables : Tables where
  systemProgram := .fromSlice []
  programAddress key := if key = program then base else .fromSlice []
  seededAddress first seed owner :=
    if first = base ∧ seed = idlSeed ∧ owner = program then .ok canonical else .error "unknown seed"
  publicKey := publicKey
  sign _ _ := ⟨List.replicate 64 0, by decide⟩

/-- A document that is already normalized for the program. -/
def document (members : List (String × Json)) (text : String) (compressed : Bytes) : Document :=
  ⟨.object ([("address", .string (pubkeyHex program))] ++ members ++
      [("metadata", .object [("spec", .string "0.1.0")])]), text.toUTF8.data.toList, compressed⟩

def plain : Document := document []
  "\x7b\"address\":\"0303030303030303030303030303030303030303030303030303030303030303\",\"metadata\":\x7b\"spec\":\"0.1.0\"\x7d\x7d"
  [0x78, 0x9c, 0xab, 0x56, 0x4a, 0x4c, 0x49, 0x29, 0x4a, 0x2d, 0x2e, 0x56, 0xb2, 0x52, 0x32, 0x30,
   0xa6, 0x0c, 0x2a, 0xe9, 0x28, 0xe5, 0xa6, 0x96, 0x24, 0xa6, 0x24, 0x96, 0x24, 0x2a, 0x59, 0x55,
   0x2b, 0x15, 0x17, 0xa4, 0x26, 0x83, 0x4c, 0xd5, 0x33, 0xd4, 0x33, 0x50, 0xaa, 0xad, 0x05, 0x00,
   0x27, 0xa3, 0x19, 0x3e]

def documented : Document := document [("docs", .array [.number (.int 1)])]
  "\x7b\"address\":\"0303030303030303030303030303030303030303030303030303030303030303\",\"docs\":[1],\"metadata\":\x7b\"spec\":\"0.1.0\"\x7d\x7d"
  [0x78, 0x9c, 0xab, 0x56, 0x4a, 0x4c, 0x49, 0x29, 0x4a, 0x2d, 0x2e, 0x56, 0xb2, 0x52, 0x32, 0x30,
   0xa6, 0x0c, 0x2a, 0xe9, 0x28, 0xe5, 0xe4, 0x27, 0x03, 0x4d, 0x8a, 0x36, 0x8c, 0xd5, 0x51, 0xca,
   0x4d, 0x2d, 0x49, 0x4c, 0x49, 0x2c, 0x49, 0x54, 0xb2, 0xaa, 0x56, 0x2a, 0x2e, 0x48, 0x4d, 0x06,
   0x59, 0xa0, 0x67, 0xa8, 0x67, 0xa0, 0x54, 0x5b, 0x0b, 0x00, 0x4e, 0x27, 0x1c, 0x7a]

def site : Site := ⟨tables.sdk, codec [plain, documented], program, publicKey authorityKeypair⟩

theorem site_lawful : site.codec.Lawful := codec_lawful (by decide +kernel) (by decide +kernel)

def preparedIdl (document : Document) (requested : Option Nat) : PreparedIdl :=
  ⟨document.json, document.compressed, requested.getD defaultIdlAccountSize, requested⟩

/-- An IDL account of the given length that holds the document. -/
def published (document : Document) (length : Nat) : AccountInfo :=
  ⟨0, program, Satellite.header site.authority document.compressed.length ++ document.compressed ++
    List.replicate (length - idlHeaderLen - document.compressed.length) 0, false⟩

def publisher : Publisher := { site with network := .bitcoin, authorityKeypair }

/-- A chain with at most the canonical account. -/
def chain (ι : Type) (account : Option AccountInfo) : World ι :=
  ⟨⟨fun address => if address = canonical then account else none, fun _ => 0⟩, [], []⟩

theorem derives : deriveIdlAddresses site.sdk site.program = .ok (base, canonical) := by decide +kernel

theorem signed : publisher.sdk.xOnlyPublicKey publisher.authorityKeypair = publisher.authority := rfl

theorem prepares_plain : prepareBytes site.codec plain.text site.program (some 200) = .ok (preparedIdl plain (some 200)) := by
  decide +kernel

theorem prepares_documented : prepareBytes site.codec documented.text site.program none = .ok (preparedIdl documented none) := by
  decide +kernel

/-- Truthful replies, one for each choice: a key is drawn where a choice names it. -/
def reply (key : Option Keypair) (world : World Unit) (operation : Request) : Option (operation.Reply × World Unit) :=
  Chain.attempt site.sdk site.program () world (key.elim .honest .draw) operation

end Deployment
end Reference
end ArchKit
