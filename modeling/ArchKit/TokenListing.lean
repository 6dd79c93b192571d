import ArchKit.Idl
import ArchKit.TokenAccounts
import Mathlib.Data.List.Dedup
import Mathlib.Data.List.Sort

/-! The token accounts of an owner, each with its mint. -/

namespace ArchKit.Token
open Effects Idl

def rpcAccountBatchSize : Nat := 100

structure TokenAccountView where
  address : Pubkey
  state : TokenAccount
  mint : MintView

/-- What a `BTreeSet` of the keys yields, in its order. -/
def distinctKeys (keys : List Pubkey) : List Pubkey := keys.dedup.insertionSort (· ≤ ·)

variable (sdk : TokenSdk)

/-- Enter the answers about one batch into the map. -/
def insertMints : List (Pubkey × Option AccountInfoWithPubkey) → (Pubkey → Option MintView) →
    Except CliError (Pubkey → Option MintView)
  | [], mints => return mints
  | (address, some info) :: rest, mints => do
    let mint ← decodeMint sdk address info.toAccountInfo
    insertMints rest (Function.update mints address (some mint))
  | (address, none) :: _, _ => throw (.invalidTokenMint (toString address) "account does not exist")

def fetchMints : List (List Pubkey) → (Pubkey → Option MintView) → Cli (Pubkey → Option MintView)
  | [], mints => return mints
  | batch :: rest, mints => do
    let infos ← Cli.rpc (← Cli.getMultipleAccounts batch)
    let mints ← Fallible.ofExcept (insertMints sdk (batch.zip infos) mints)
    fetchMints rest mints

def joinMint (mints : Pubkey → Option MintView) (account : Pubkey × TokenAccount) : Except CliError TokenAccountView :=
  match mints account.2.mint with
  | some mint => .ok ⟨account.1, account.2, mint⟩
  | none => .error (.invalidTokenMint (toString account.2.mint) "mint was not returned by the RPC")

def listTokenAccounts (owner : Pubkey) : Cli (List TokenAccountView) := do
  let accounts ← Cli.rpc (← Cli.getProgramAccounts sdk.tokenProgram
    (some [.dataSize sdk.accounts.len, .dataContent 32 owner.bytes]))
  let accounts := accounts.insertionSort (·.pubkey ≤ ·.pubkey)
  let decoded ← Fallible.ofExcept (accounts.mapM fun account =>
    (decodeTokenAccount sdk account.pubkey account.account).map fun state => (account.pubkey, state))
  let mintAddresses := distinctKeys (decoded.map (·.2.mint))
  let mints ← fetchMints sdk (chunks rpcAccountBatchSize mintAddresses) (fun _ => none)
  Fallible.ofExcept (decoded.mapM (joinMint mints))

end ArchKit.Token
