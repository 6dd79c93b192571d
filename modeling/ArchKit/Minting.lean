import ArchKit.TokenAccounts
import ArchKit.Utils

/-! The commands `create-mint` and `mint-tokens`. -/

namespace ArchKit
open Effects Token Transaction

namespace CreateMint

structure Args where
  mintSigner : SignerSource
  signer : SignerSource
  decimals : UInt8
  freezeAuthority : Option String
  initialSupply : Option String
  fixedSupply : Bool
  /-- The flag requires the option. -/
  supplied : fixedSupply = true → initialSupply.isSome = true

def requireDistinctAccounts (authority mint : Pubkey) : Except CliError Unit :=
  if authority = mint then .error (.mintCreation s!"payer and mint account are both {mint}") else .ok ()

variable (sdk : TokenSdk)

def createMintInstructions (mint authority : Pubkey) (freezeAuthority : Option Pubkey) (decimals : UInt8)
    (initialSupply : Option UInt64) (fixedSupply : Bool) : Except CliError (List Instruction) := do
  let createAccount :=
    Instruction.createAccount authority mint (sdk.minimumRent sdk.mints.len) sdk.mints.len sdk.tokenProgram
  let initialization ← (sdk.initializeMint sdk.tokenProgram mint authority freezeAuthority decimals).mapError
    fun error => .mintCreation ("could not build initialize instruction: " ++ error)
  let mut instructions := [createAccount, initialization]
  if let some amount := initialSupply then
    let (_, mintInstructions) ← mintToUserInstructions sdk authority authority mint authority amount decimals
    instructions := instructions ++ mintInstructions
  if fixedSupply then
    let revoke ← (sdk.setAuthority sdk.tokenProgram mint none .mintTokens authority []).mapError
      fun error => .mintCreation ("could not build fixed-supply instruction: " ++ error)
    instructions := instructions ++ [revoke]
  return instructions

def run (shell : Shell) (args : Args) : Cli Unit := do
  let authoritySigner ← args.signer.resolve sdk.toSigningSdk shell "create-mint" "mint authority key"
  let mintSigner ← args.mintSigner.resolve sdk.toSigningSdk shell "create-mint" "mint key"
  let authority := authoritySigner.pubkey
  let mint := mintSigner.pubkey
  Fallible.ofExcept (requireDistinctAccounts authority mint)
  let freezeAuthority ← Fallible.ofExcept (args.freezeAuthority.mapM fun value => parsePubkey value "freeze authority")
  let initialSupply ← Fallible.ofExcept (args.initialSupply.mapM fun amount => Utils.parseAmount amount args.decimals)
  let instructions ← Fallible.ofExcept
    (createMintInstructions sdk mint authority freezeAuthority args.decimals initialSupply args.fixedSupply)
  let _ ← sendAndConfirm "mint creation" instructions authority [authoritySigner, mintSigner]

end CreateMint

namespace MintTokens

structure Args where
  recipient : String
  mint : String
  amount : String
  signer : SignerSource
  deriving DecidableEq

def requireMintAuthority (mintAddress : Pubkey) (mint : Mint) (authority : Pubkey) : Except CliError Unit :=
  if !mint.isInitialized then .error (.mintTokens s!"mint {mintAddress} is not initialized")
  else
    match mint.mintAuthority with
    | some expected =>
      if expected = authority then .ok ()
      else .error (.mintTokens s!"mint {mintAddress} has authority {expected}, but the signing key is {authority}")
    | none => .error (.mintTokens s!"mint {mintAddress} has fixed supply and no mint authority")

variable (sdk : TokenSdk)

def run (shell : Shell) (args : Args) : Cli Unit := do
  let signer ← args.signer.resolve sdk.toSigningSdk shell "mint-tokens" "mint authority key"
  let authority := signer.pubkey
  let recipient ← Fallible.ofExcept (parsePubkey args.recipient "recipient")
  let mintAddress ← Fallible.ofExcept (parsePubkey args.mint "mint")
  let mint ← readMint sdk mintAddress
  Fallible.ofExcept (requireMintAuthority mintAddress mint.state authority)
  let amount ← Fallible.ofExcept (Utils.parseAmount args.amount mint.state.decimals)
  let (_, instructions) ← Fallible.ofExcept
    (mintToUserInstructions sdk authority recipient mintAddress authority amount mint.state.decimals)
  let _ ← sendAndConfirm "token minting" instructions authority [signer]

end MintTokens
end ArchKit
