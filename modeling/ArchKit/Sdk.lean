import ArchKit.Effects.Program
import ArchKit.Json
import ArchKit.Radix.Base58
import ArchKit.Radix.Hex

/-! The SDK types the toolkit handles and the requests it makes of the outside
world. SDK functions whose code is not part of the toolkit are fields of `Sdk`,
together with what their documentation promises. -/

namespace ArchKit
open Radix

abbrev Bytes := List UInt8

structure Pubkey where
  bytes : Bytes
  size : bytes.length = 32
  deriving DecidableEq

namespace Pubkey

/-- `Pubkey::from_slice`: the slice is copied over 32 zero bytes. -/
def fromSlice (data : Bytes) : Pubkey := ⟨(data ++ List.replicate 32 0).take 32, by simp⟩

/-- The derived order: byte by byte. -/
instance : LE Pubkey := ⟨fun first second => first.bytes ≤ second.bytes⟩

instance : DecidableLE Pubkey := fun first second => inferInstanceAs (Decidable (first.bytes ≤ second.bytes))

theorem fromSlice_eq_iff {data : Bytes} (size : data.length = 32) (key : Pubkey) :
    fromSlice data = key ↔ data = key.bytes := by
  have same : (fromSlice data).bytes = data := by
    simp only [fromSlice]
    rw [← size, List.take_left]
  constructor
  · intro equal
    rw [← same, equal]
  · intro equal
    cases key
    simp only [mk.injEq, fromSlice]
    rw [← size, List.take_left]
    exact equal

instance : ToString Pubkey := ⟨fun key => String.ofList (base58Encode key.bytes)⟩

end Pubkey

/-- The order of secp256k1. -/
def curveOrder : Nat := 0xFFFFFFFFFFFFFFFFFFFFFFFFFFFFFFFEBAAEDCE6AF48A03BBFD25E8CD0364141

/-- Big-endian 32 bytes are a secret key when they denote a nonzero scalar. -/
def ValidScalar (bytes : Bytes) : Prop :=
  bytes.length = 32 ∧ 0 < value 256 (byteDigits bytes) ∧ value 256 (byteDigits bytes) < curveOrder

instance (bytes : Bytes) : Decidable (ValidScalar bytes) := inferInstanceAs (Decidable (_ ∧ _ ∧ _))

structure SecretKey where
  bytes : Bytes
  valid : ValidScalar bytes
  deriving DecidableEq

structure Keypair where
  secretKey : SecretKey
  deriving DecidableEq

inductive Network where
  | bitcoin | testnet | testnet4 | signet | regtest
  deriving DecidableEq

/-- A block hash or a transaction id. Only equality is ever inspected. -/
structure Hash where
  number : Nat
  deriving DecidableEq

instance : ToString Hash := ⟨fun hash => toString hash.number⟩

structure Signature where
  bytes : Bytes
  size : bytes.length = 64
  deriving DecidableEq

/-- `<[u8; 64]>::try_from`. -/
def Signature.ofBytes? (bytes : Bytes) : Option Signature :=
  if size : bytes.length = 64 then some ⟨bytes, size⟩ else none

structure AccountInfo where
  lamports : Nat
  owner : Pubkey
  data : Bytes
  isExecutable : Bool
  deriving DecidableEq

/-- An account that was found by its program. -/
structure ProgramAccount where
  pubkey : Pubkey
  account : AccountInfo
  deriving DecidableEq

/-- An account that was found by its address. -/
structure AccountInfoWithPubkey extends AccountInfo where
  key : Pubkey
  deriving DecidableEq

inductive AccountFilter where
  | dataSize (size : Nat)
  | dataContent (offset : Nat) (bytes : Bytes)
  deriving DecidableEq

structure AccountMeta where
  pubkey : Pubkey
  isSigner : Bool
  isWritable : Bool
  deriving DecidableEq

namespace AccountMeta

/-- `AccountMeta::new`. -/
def new (pubkey : Pubkey) (isSigner : Bool) : AccountMeta := ⟨pubkey, isSigner, true⟩

def newReadonly (pubkey : Pubkey) (isSigner : Bool) : AccountMeta := ⟨pubkey, isSigner, false⟩

end AccountMeta

/-- System instructions keep the arguments of their SDK constructor; every other
instruction is the triple the toolkit builds itself. -/
inductive Instruction where
  | createAccount (payer account : Pubkey) (lamports space : Nat) (owner : Pubkey)
  | assign (account owner : Pubkey)
  | invoke (programId : Pubkey) (accounts : List AccountMeta) (data : Bytes)
  deriving DecidableEq

def Instruction.signers : Instruction → List Pubkey
  | .createAccount payer account _ _ _ => [payer, account]
  | .assign account _ => [account]
  | .invoke _ accounts _ => (accounts.filter AccountMeta.isSigner).map AccountMeta.pubkey

structure ArchMessage where
  numRequiredSignatures : Nat
  accountKeys : List Pubkey
  recentBlockhash : Hash
  instructions : List Instruction
  deriving DecidableEq

structure RuntimeTransaction where
  version : Nat
  signatures : List Signature
  message : ArchMessage
  deriving DecidableEq

inductive Status where
  | queued | processed
  | failed (message : String)
  deriving DecidableEq

/-- The `{:?}` rendering. -/
def Status.debug : Status → String
  | .queued => "Queued"
  | .processed => "Processed"
  | .failed message => s!"Failed({message.quote})"

structure ProcessedTransaction where
  status : Status

inductive ArchError where
  | notFound (message : String)
  | transactionError (message : String)
  | other (message : String)
  deriving DecidableEq

inductive ErrorKind where
  | notFound | alreadyExists | permissionDenied | invalidData | writeZero | other
  deriving DecidableEq

structure IoError where
  kind : ErrorKind
  message : String
  deriving DecidableEq

/-- A file-system path as the operating system spells it. -/
structure Path where
  bytes : Bytes
  deriving DecidableEq

/-- `Path::to_str`. -/
def Path.toStr (path : Path) : Option String := String.fromUTF8? ⟨path.bytes.toArray⟩

/-- A file opened for writing. -/
structure File where
  path : Path
  deriving DecidableEq

structure Sdk where
  findProgramAddress : Pubkey → Pubkey
  createWithSeed : Pubkey → String → Pubkey → Except String Pubkey
  minimumRent : Nat → Nat
  systemProgram : Pubkey
  xOnlyPublicKey : Keypair → Pubkey
  /-- `serde_json::from_str::<Vec<u8>>`. -/
  bytesFromJson : String → Except String Bytes
  /-- The number of required signatures and the account keys of a compiled message. -/
  messageKeys : List Instruction → Option Pubkey → Nat × List Pubkey
  buildAndSign : ArchMessage → List Keypair → Network → Except ArchError RuntimeTransaction
  bytesFromJson_array : ∀ text bytes, bytesFromJson text = .ok bytes → '[' ∈ text.toList
  messageKeys_required : ∀ instructions payer key,
    key ∈ (messageKeys instructions payer).2.take (messageKeys instructions payer).1 →
    payer = some key ∨ ∃ instruction ∈ instructions, key ∈ instruction.signers
  buildAndSign_message : ∀ message signers network transaction,
    buildAndSign message signers network = .ok transaction → transaction.message = message
  buildAndSign_signs : ∀ message signers network,
    (∀ key ∈ message.accountKeys.take message.numRequiredSignatures,
      ∃ signer ∈ signers, xOnlyPublicKey signer = key) →
    ∃ transaction, buildAndSign message signers network = .ok transaction

/-- `ArchMessage::new`. -/
def ArchMessage.new (sdk : Sdk) (instructions : List Instruction) (payer : Option Pubkey) (blockhash : Hash) :
    ArchMessage :=
  ⟨(sdk.messageKeys instructions payer).1, (sdk.messageKeys instructions payer).2, blockhash, instructions⟩

/-- A message is signed by its payer and the signers of its instructions. -/
theorem Sdk.signs (sdk : Sdk) (instructions : List Instruction) (payer : Pubkey) (blockhash : Hash)
    (signers : List Keypair) (network : Network)
    (pays : ∃ signer ∈ signers, sdk.xOnlyPublicKey signer = payer)
    (covers : ∀ instruction ∈ instructions, ∀ key ∈ instruction.signers,
      ∃ signer ∈ signers, sdk.xOnlyPublicKey signer = key) :
    ∃ transaction, sdk.buildAndSign (.new sdk instructions (some payer) blockhash) signers network = .ok transaction ∧
      transaction.message = .new sdk instructions (some payer) blockhash := by
  obtain ⟨transaction, built⟩ := sdk.buildAndSign_signs (.new sdk instructions (some payer) blockhash) signers network (by
    intro key required
    rcases sdk.messageKeys_required instructions (some payer) key required with same | ⟨instruction, member, signs⟩
    · cases same; exact pays
    · exact covers instruction member key signs)
  exact ⟨transaction, built, sdk.buildAndSign_message _ _ _ _ built⟩

/-- The status of an HTTP response and its body read as JSON. -/
structure HttpResponse where
  status : Nat
  json : Except String Json

inductive Request where
  | readAccountInfo (address : Pubkey)
  | getProgramAccounts (program : Pubkey) (filters : Option (List AccountFilter))
  | getMultipleAccounts (addresses : List Pubkey)
  | getBestFinalizedBlockHash
  | sendTransaction (transaction : RuntimeTransaction)
  | waitForProcessedTransaction (id : Hash)
  | createAndFundAccountWithFaucet (keypair : Keypair)
  | tryDeployProgram (name : String) (program authority : Keypair) (elfPath : String)
  | generateNewKeypair (network : Network)
  | isFile (path : Path)
  | read (path : Path)
  | symlinkMetadata (path : Path)
  | createNew (path : Path)
  | write (file : File) (buffer : Bytes)
  | syncAll (file : File)
  | signMessageBip322 (keypair : Keypair) (digest : Bytes) (network : Network)
  | post (url token : String) (body : Json)
  deriving DecidableEq

abbrev Request.Reply : Request → Type
  | .readAccountInfo _ => Except ArchError AccountInfo
  | .getProgramAccounts .. => Except ArchError (List ProgramAccount)
  | .getMultipleAccounts _ => Except ArchError (List (Option AccountInfoWithPubkey))
  | .getBestFinalizedBlockHash => Except ArchError Hash
  | .sendTransaction _ => Except ArchError Hash
  | .waitForProcessedTransaction _ => Except ArchError ProcessedTransaction
  | .createAndFundAccountWithFaucet _ => Except ArchError Unit
  | .tryDeployProgram .. => Except String Pubkey
  | .generateNewKeypair _ => Keypair × Pubkey
  | .isFile _ => Bool
  | .read _ => Except IoError Bytes
  | .symlinkMetadata _ => Except IoError Unit
  | .createNew _ => Except IoError File
  | .write .. => Except IoError Nat
  | .syncAll _ => Except IoError Unit
  | .signMessageBip322 .. => Except ArchError Signature
  | .post .. => Except String HttpResponse

/-- The requests that leave the machine. -/
def Request.isRpc : Request → Bool
  | .readAccountInfo _ | .getProgramAccounts .. | .getMultipleAccounts _ | .getBestFinalizedBlockHash
  | .sendTransaction _ | .waitForProcessedTransaction _ | .createAndFundAccountWithFaucet _ | .tryDeployProgram ..
  | .post .. => true
  | .generateNewKeypair _ | .isFile _ | .read _ | .symlinkMetadata _ | .createNew _ | .write .. | .syncAll _
  | .signMessageBip322 .. => false

/-- The requests that may change the chain. -/
def Request.submits : Request → Bool
  | .sendTransaction _ => true
  | _ => false

def api : Effects.Interface := ⟨Request, Request.Reply⟩

instance : DecidableEq api.Request := inferInstanceAs (DecidableEq Request)

end ArchKit
