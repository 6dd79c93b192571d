import ArchKit.ArchSigner

/-! What the toolkit knows of the token program: what its accounts hold, the
instructions it is sent and how both are spelled in bytes. The libraries that spell them
are not part of the toolkit and come as fields of `TokenSdk`. -/

namespace ArchKit

structure Mint where
  mintAuthority : Option Pubkey := none
  supply : UInt64 := 0
  decimals : UInt8 := 0
  isInitialized : Bool := false
  freezeAuthority : Option Pubkey := none
  deriving DecidableEq

inductive AccountState where
  | uninitialized | initialized | frozen
  deriving DecidableEq

structure TokenAccount where
  mint : Pubkey
  owner : Pubkey
  amount : UInt64 := 0
  delegate : Option Pubkey := none
  state : AccountState := .uninitialized
  isNative : Option UInt64 := none
  delegatedAmount : UInt64 := 0
  closeAuthority : Option Pubkey := none
  deriving DecidableEq

def TokenAccount.isInitialized (account : TokenAccount) : Bool := account.state ≠ .uninitialized

/-- `TokenAccount::default`. -/
def TokenAccount.blank : TokenAccount := { mint := .fromSlice [], owner := .fromSlice [] }

inductive AuthorityType where
  | mintTokens | freezeAccount | accountOwner | closeAccount
  deriving DecidableEq

/-- The trait `Pack`: values kept in accounts of one length, where an account of zeros
holds the value nobody has initialized. -/
structure Pack {α : Type} (isInitialized : α → Bool) (blank : α) where
  len : Nat
  unpackUnchecked : Bytes → Except String α
  unpack : Bytes → Except String α
  pack : α → Bytes
  pack_length : ∀ value, (pack value).length = len
  unpackUnchecked_pack : ∀ value, unpackUnchecked (pack value) = .ok value
  unpackUnchecked_zeros : unpackUnchecked (List.replicate len 0) = .ok blank
  unpackUnchecked_length : ∀ data value, unpackUnchecked data = .ok value → data.length = len
  unpack_eq_ok : ∀ data value, unpack data = .ok value ↔ unpackUnchecked data = .ok value ∧ isInitialized value = true

/-- The instructions of the toolkit, as the token program and the program of the
associated accounts understand them. -/
inductive TokenInstruction where
  | initializeMint (mint mintAuthority : Pubkey) (freezeAuthority : Option Pubkey) (decimals : UInt8)
  | createAssociated (payer associated owner mint : Pubkey)
  | mintToChecked (mint destination authority : Pubkey) (amount : UInt64) (decimals : UInt8)
  | setMintAuthority (mint : Pubkey) (newAuthority : Option Pubkey) (authority : Pubkey)
  | transferChecked (source mint destination authority : Pubkey) (amount : UInt64) (decimals : UInt8)
  deriving DecidableEq

/-- The instruction is one that the given reader understands in this way. -/
def Instruction.ReadsAs (read : Pubkey → List AccountMeta → Bytes → Option TokenInstruction) (meaning : TokenInstruction) :
    Instruction → Prop
  | .invoke programId accounts data => read programId accounts data = some meaning
  | _ => False

structure TokenSdk extends SigningSdk where
  tokenProgram : Pubkey
  associatedTokenProgram : Pubkey
  mints : Pack Mint.isInitialized {}
  accounts : Pack TokenAccount.isInitialized .blank
  getAssociatedTokenAddressAndBumpSeed : (owner mint program : Pubkey) → Pubkey × UInt8
  initializeMint : (program mint mintAuthority : Pubkey) → (freezeAuthority : Option Pubkey) → (decimals : UInt8) →
    Except String Instruction
  createAssociatedTokenAccountIdempotent : (payer associated owner mint tokenProgram systemProgram : Pubkey) → Instruction
  mintToChecked : (program mint account owner : Pubkey) → (signers : List Pubkey) → (amount : UInt64) → (decimals : UInt8) →
    Except String Instruction
  setAuthority : (program owned : Pubkey) → (newAuthority : Option Pubkey) → AuthorityType → (owner : Pubkey) →
    (signers : List Pubkey) → Except String Instruction
  transferChecked : (program source mint destination authority : Pubkey) → (signers : List Pubkey) → (amount : UInt64) →
    (decimals : UInt8) → Except String Instruction
  /-- What the two programs make of an instruction. -/
  read : Pubkey → List AccountMeta → Bytes → Option TokenInstruction
  programs : tokenProgram ≠ systemProgram
  lengths : mints.len ≠ accounts.len
  read_initializeMint : ∀ mint mintAuthority freezeAuthority decimals instruction,
    initializeMint tokenProgram mint mintAuthority freezeAuthority decimals = .ok instruction →
    instruction.ReadsAs read (.initializeMint mint mintAuthority freezeAuthority decimals)
  read_createAssociated : ∀ payer associated owner mint,
    (createAssociatedTokenAccountIdempotent payer associated owner mint tokenProgram systemProgram).ReadsAs read
      (.createAssociated payer associated owner mint)
  read_mintToChecked : ∀ mint account owner amount decimals instruction,
    mintToChecked tokenProgram mint account owner [] amount decimals = .ok instruction →
    instruction.ReadsAs read (.mintToChecked mint account owner amount decimals)
  read_setAuthority : ∀ mint newAuthority owner instruction,
    setAuthority tokenProgram mint newAuthority .mintTokens owner [] = .ok instruction →
    instruction.ReadsAs read (.setMintAuthority mint newAuthority owner)
  read_transferChecked : ∀ source mint destination authority amount decimals instruction,
    transferChecked tokenProgram source mint destination authority [] amount decimals = .ok instruction →
    instruction.ReadsAs read (.transferChecked source mint destination authority amount decimals)

namespace Pack
variable {α β : Type} {isInitialized : α → Bool} {blank : α} (pack : Pack isInitialized blank)

theorem unpack_pack {value : α} (initialized : isInitialized value = true) : pack.unpack (pack.pack value) = .ok value :=
  (pack.unpack_eq_ok _ _).mpr ⟨pack.unpackUnchecked_pack value, initialized⟩

theorem unpack_length {data : Bytes} {value : α} (read : pack.unpack data = .ok value) : data.length = pack.len :=
  pack.unpackUnchecked_length _ _ ((pack.unpack_eq_ok _ _).mp read).1

theorem unpack_initialized {data : Bytes} {value : α} (read : pack.unpack data = .ok value) : isInitialized value = true :=
  ((pack.unpack_eq_ok _ _).mp read).2

/-- An account of zeros holds no initialized value, whatever its length. -/
theorem unpack_zeros (unused : isInitialized blank = false) (size : Nat) (value : α) :
    pack.unpack (List.replicate size 0) ≠ .ok value := by
  intro read
  have length : size = pack.len := by simpa using pack.unpack_length read
  obtain ⟨unchecked, initialized⟩ := (pack.unpack_eq_ok _ _).mp read
  rw [length, pack.unpackUnchecked_zeros] at unchecked
  cases unchecked
  rw [unused] at initialized
  cases initialized

end Pack
end ArchKit
