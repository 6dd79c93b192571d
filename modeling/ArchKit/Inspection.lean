import ArchKit.TokenListing
import ArchKit.Toolkit
import ArchKit.Utils

/-! The commands that only look: at keys and addresses, at accounts and at the node. Each
prints what it found, for people or as one JSON document. -/

namespace ArchKit
open Effects

namespace Token

def optionalPubkey (value : Option Pubkey) : Option String := value.map toString

variable (sdk : TokenSdk)

def readTokenAccount (address : Pubkey) : Cli TokenAccountView := do
  let state ← readTokenAccountState sdk address
  let mint ← readMint sdk state.mint
  return ⟨address, state, mint⟩

/-- The account that the RPC answered with, if there is one. -/
def associatedState (owner mintAddress address : Pubkey) : Except ArchError AccountInfo → Except CommandError (Option TokenAccount)
  | .ok info => do
    let account ← wrapError CommandError.cli (decodeTokenAccount sdk address info)
    if account.mint ≠ mintAddress ∨ account.owner ≠ owner then
      .error (.tokenAccountIdentityMismatch (toString address) (toString mintAddress) (toString account.mint)
        (toString owner) (toString account.owner))
    else .ok (some account)
  | .error (.notFound _) => .ok none
  | .error source => .error (.cli (.archRpc source))

def readAssociatedBalance (owner mintAddress : Pubkey) : Command (Pubkey × MintView × Option TokenAccount) := do
  let mint ← (readMint sdk mintAddress).wrap CommandError.cli
  let address := (associatedTokenAddress sdk owner mintAddress).1
  let reply ← (Cli.readAccountInfo address).wrap CommandError.cli
  let account ← Fallible.ofExcept (associatedState sdk owner mintAddress address reply)
  return (address, mint, account)

end Token

/-- `serde_json::to_string_pretty`. -/
abbrev Pretty := Json → Except String String

namespace Json

def int (value : Nat) : Json := .number (.int value)

/-- An optional text as `json!` renders it. -/
def optional (text : Option String) : Json := text.elim .null .string

end Json

namespace Tool

/-- Print one JSON document, or the lines for people. -/
def report (pretty : Pretty) (json : Bool) (document : Json) (lines : List String) : Tool Unit :=
  if json then do
    let text ← ofExcept ((pretty document).mapError CliError.json)
    println text
  else printLines lines

end Tool

open Token Utils

namespace Ata

structure Args where
  owner : String
  mint : String

def run (sdk : TokenSdk) (args : Args) : Tool Unit := do
  let owner ← Tool.ofExcept (parsePubkey args.owner "owner")
  let mint ← Tool.ofExcept (parsePubkey args.mint "mint")
  Tool.println (toString (associatedTokenAddress sdk owner mint).1)

end Ata

namespace PubkeyCommand

structure Args where
  secretKey : Path

def run (sdk : Sdk) (args : Args) : Tool Unit := do
  let (_, pubkey) ← Tool.ofCli (Keys.loadExistingKey sdk args.secretKey "secret key")
  Tool.println (toString pubkey)

end PubkeyCommand

namespace ArchBalance

def archDecimals : UInt8 := 9

structure Args where
  account : String

def document (account : Pubkey) (lamports : Nat) : Json :=
  .object [("account", .string (toString account)), ("amount", .string (formatAmount (UInt64.ofNat lamports) archDecimals)),
    ("decimals", .int archDecimals.toNat), ("lamports", .string (toString lamports))]

def lines (account : Pubkey) (lamports : Nat) : List String :=
  [s!"Account: {account}", s!"Balance: {formatAmount (UInt64.ofNat lamports) archDecimals} ARCH", s!"Lamports: {lamports}"]

def run (pretty : Pretty) (args : Args) (json : Bool) : Tool Unit := do
  let account ← Tool.ofExcept (parsePubkey args.account "account")
  let info ← Tool.rpc (← Tool.request (.readAccountInfo account))
  Tool.report pretty json (document account info.lamports) (lines account info.lamports)

end ArchBalance

namespace TokenBalance

structure Args where
  owner : String
  mint : String

def document (owner mintAddress address : Pubkey) (mint : MintView) (account : Option TokenAccount) : Json :=
  let amount := account.elim 0 TokenAccount.amount
  .object [("amount", .string (formatAmount amount mint.state.decimals)), ("amount_raw", .string (toString amount)),
    ("decimals", .int mint.state.decimals.toNat), ("exists", .bool account.isSome), ("mint", .string (toString mintAddress)),
    ("owner", .string (toString owner)), ("token_account", .string (toString address))]

def lines (owner mintAddress address : Pubkey) (mint : MintView) (account : Option TokenAccount) : List String :=
  let amount := account.elim 0 TokenAccount.amount
  [s!"Owner: {owner}", s!"Mint: {mintAddress}", s!"Token account: {address}", s!"Exists: {account.isSome}",
    s!"Amount: {formatAmount amount mint.state.decimals}", s!"Raw amount: {amount}", s!"Decimals: {mint.state.decimals}"]

def run (sdk : TokenSdk) (pretty : Pretty) (args : Args) (json : Bool) : Tool Unit := do
  let owner ← Tool.ofExcept (parsePubkey args.owner "owner")
  let mintAddress ← Tool.ofExcept (parsePubkey args.mint "mint")
  let (address, mint, account) ← Tool.ofCommand (readAssociatedBalance sdk owner mintAddress)
  Tool.report pretty json (document owner mintAddress address mint account) (lines owner mintAddress address mint account)

end TokenBalance

namespace TokenAccountCommand

structure Args where
  address : String

def document (view : TokenAccountView) : Json :=
  let account := view.state
  let decimals := view.mint.state.decimals
  .object [("address", .string (toString view.address)), ("amount", .string (formatAmount account.amount decimals)),
    ("amount_raw", .string (toString account.amount)), ("close_authority", .optional (optionalPubkey account.closeAuthority)),
    ("decimals", .int decimals.toNat), ("delegate", .optional (optionalPubkey account.delegate)),
    ("delegated_amount_raw", .string (toString account.delegatedAmount)), ("is_native", .bool account.isNative.isSome),
    ("mint", .string (toString account.mint)), ("native_reserve_raw", .optional (account.isNative.map toString)),
    ("owner", .string (toString account.owner)), ("state", .string (accountStateName account.state))]

def lines (view : TokenAccountView) : List String :=
  let account := view.state
  let decimals := view.mint.state.decimals
  let delegate := (optionalPubkey account.delegate).getD "none"
  let reserve := (account.isNative.map toString).getD "none"
  let closeAuthority := (optionalPubkey account.closeAuthority).getD "none"
  [s!"Token account: {view.address}", s!"Mint: {account.mint}", s!"Owner: {account.owner}",
    s!"State: {accountStateName account.state}", s!"Amount: {formatAmount account.amount decimals}",
    s!"Raw amount: {account.amount}", s!"Decimals: {decimals}", s!"Delegate: {delegate}",
    s!"Delegated raw amount: {account.delegatedAmount}", s!"Native reserve: {reserve}",
    s!"Close authority: {closeAuthority}"]

def run (sdk : TokenSdk) (pretty : Pretty) (args : Args) (json : Bool) : Tool Unit := do
  let address ← Tool.ofExcept (parsePubkey args.address "token account")
  let view ← Tool.ofCli (readTokenAccount sdk address)
  Tool.report pretty json (document view) (lines view)

end TokenAccountCommand

namespace TokenAccounts

structure Args where
  owner : String

variable (sdk : TokenSdk)

def isAssociated (owner : Pubkey) (view : TokenAccountView) : Bool :=
  (associatedTokenAddress sdk owner view.state.mint).1 = view.address

def item (owner : Pubkey) (view : TokenAccountView) : Json :=
  let decimals := view.mint.state.decimals
  .object [("address", .string (toString view.address)), ("amount", .string (formatAmount view.state.amount decimals)),
    ("amount_raw", .string (toString view.state.amount)), ("decimals", .int decimals.toNat),
    ("is_associated", .bool (isAssociated sdk owner view)), ("mint", .string (toString view.state.mint)),
    ("state", .string (accountStateName view.state.state))]

def document (owner : Pubkey) (accounts : List TokenAccountView) : Json :=
  .object [("accounts", .array (accounts.map (item sdk owner))), ("count", .int accounts.length), ("owner", .string (toString owner))]

def itemLines (owner : Pubkey) (view : TokenAccountView) : List String :=
  let decimals := view.mint.state.decimals
  ["", s!"Address: {view.address}", s!"  Mint: {view.state.mint}",
    s!"  Amount: {formatAmount view.state.amount decimals} (raw {view.state.amount})", s!"  Decimals: {decimals}",
    s!"  State: {accountStateName view.state.state}", s!"  Associated: {isAssociated sdk owner view}"]

def lines (owner : Pubkey) (accounts : List TokenAccountView) : List String :=
  [s!"Token accounts for {owner}"] ++ (if accounts.isEmpty then ["No token accounts found."] else []) ++
    accounts.flatMap (itemLines sdk owner) ++ ["", s!"Total token accounts: {accounts.length}"]

def run (pretty : Pretty) (args : Args) (json : Bool) : Tool Unit := do
  let owner ← Tool.ofExcept (parsePubkey args.owner "owner")
  let accounts ← Tool.ofCli (listTokenAccounts sdk owner)
  Tool.report pretty json (document sdk owner accounts) (lines sdk owner accounts)

end TokenAccounts

namespace MintInfo

structure Args where
  mint : String

def document (mint : MintView) : Json :=
  let state := mint.state
  .object [("decimals", .int state.decimals.toNat), ("freeze_authority", .optional (optionalPubkey state.freezeAuthority)),
    ("initialized", .bool state.isInitialized), ("mint", .string (toString mint.address)),
    ("mint_authority", .optional (optionalPubkey state.mintAuthority)), ("supply", .string (formatAmount state.supply state.decimals)),
    ("supply_raw", .string (toString state.supply))]

def lines (mint : MintView) : List String :=
  let state := mint.state
  let mintAuthority := (optionalPubkey state.mintAuthority).getD "none"
  let freezeAuthority := (optionalPubkey state.freezeAuthority).getD "none"
  [s!"Mint: {mint.address}", s!"Initialized: {state.isInitialized}", s!"Decimals: {state.decimals}",
    s!"Supply: {formatAmount state.supply state.decimals}", s!"Raw supply: {state.supply}",
    s!"Mint authority: {mintAuthority}",
    s!"Freeze authority: {freezeAuthority}"]

def run (sdk : TokenSdk) (pretty : Pretty) (args : Args) (json : Bool) : Tool Unit := do
  let address ← Tool.ofExcept (parsePubkey args.mint "mint")
  let mint ← Tool.ofCli (readMint sdk address)
  Tool.report pretty json (document mint) (lines mint)

end MintInfo

end ArchKit
