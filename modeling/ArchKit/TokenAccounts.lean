import ArchKit.TokenSdk
import ArchKit.Transaction

/-! Token accounts and mints as the commands read them. -/

namespace ArchKit.Token
open Effects

structure MintView where
  address : Pubkey
  state : Mint

variable (sdk : TokenSdk)

def associatedTokenAddress (owner mint : Pubkey) : Pubkey × UInt8 :=
  sdk.getAssociatedTokenAddressAndBumpSeed owner mint sdk.associatedTokenProgram

def mintToUserInstructions (payer recipient mint authority : Pubkey) (amount : UInt64) (decimals : UInt8) :
    Except CliError (Pubkey × List Instruction) := do
  let destination := (associatedTokenAddress sdk recipient mint).1
  let createDestination :=
    sdk.createAssociatedTokenAccountIdempotent payer destination recipient mint sdk.tokenProgram sdk.systemProgram
  let mintTo ← (sdk.mintToChecked sdk.tokenProgram mint destination authority [] amount decimals).mapError
    fun error => .mintTokens ("could not build mint instruction: " ++ error)
  return (destination, [createDestination, mintTo])

def requireTokenProgramOwner (address owner : Pubkey) : Except CliError Unit :=
  let expected := sdk.tokenProgram
  if owner = expected then .ok ()
  else .error (.tokenProgramOwnerMismatch (toString address) (toString expected) (toString owner))

def decodeTokenAccount (address : Pubkey) (info : AccountInfo) : Except CliError TokenAccount := do
  requireTokenProgramOwner sdk address info.owner
  if info.data.length ≠ sdk.accounts.len then
    throw (.invalidTokenAccount (toString address) s!"expected {sdk.accounts.len} bytes, received {info.data.length}")
  (sdk.accounts.unpack info.data).mapError fun source => .invalidTokenAccount (toString address) source

def decodeMint (address : Pubkey) (info : AccountInfo) : Except CliError MintView := do
  requireTokenProgramOwner sdk address info.owner
  if info.data.length ≠ sdk.mints.len then
    throw (.invalidTokenMint (toString address) s!"expected {sdk.mints.len} bytes, received {info.data.length}")
  let state ← (sdk.mints.unpack info.data).mapError fun source => .invalidTokenMint (toString address) source
  return ⟨address, state⟩

def readMint (address : Pubkey) : Cli MintView := do
  let info ← Cli.rpc (← Cli.readAccountInfo address)
  Fallible.ofExcept (decodeMint sdk address info)

def readTokenAccountState (address : Pubkey) : Cli TokenAccount := do
  let info ← Cli.rpc (← Cli.readAccountInfo address)
  Fallible.ofExcept (decodeTokenAccount sdk address info)

def accountStateName : AccountState → String
  | .uninitialized => "uninitialized"
  | .initialized => "initialized"
  | .frozen => "frozen"

end ArchKit.Token
