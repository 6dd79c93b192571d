import ArchKit.CommandLine
import ArchKit.Node

/-! Several users of one node, each in front of a screen. -/

namespace ArchKit

structure Session (ι : Type) where
  world : World ι
  screen : ι → List String

def AccountFilter.Matches (info : AccountInfo) : AccountFilter → Prop
  | .dataSize size => info.data.length = size
  | .dataContent offset bytes => (info.data.drop offset).take bytes.length = bytes

/-- The accounts of a program that pass the filters, each once. -/
structure Ledger.Lists (ledger : Ledger) (program : Pubkey) (filters : List AccountFilter) (accounts : List ProgramAccount) : Prop where
  once : (accounts.map ProgramAccount.pubkey).Nodup
  complete : ∀ account, account ∈ accounts ↔ ledger.accounts account.pubkey = some account.account ∧
    account.account.owner = program ∧ ∀ filter ∈ filters, filter.Matches account.account

/-- What the RPC answers to a question about several accounts. -/
def Ledger.several (ledger : Ledger) (addresses : List Pubkey) : List (Option AccountInfoWithPubkey) :=
  addresses.map fun address => (ledger.accounts address).map fun info => ⟨info, address⟩

namespace Session
variable {ι : Type} [DecidableEq ι] (process : Processor) (reliable : Prop)

/-- What the node, the network and the screen may do with a request. An answer about
several accounts is about one moment. -/
def Serves (client : ι) (before : Session ι) : (operation : Demand) → toolkit.Reply operation → Session ι → Prop
  | .inl (.getProgramAccounts program filters), reply, after => after = before ∧
      ∀ accounts, reply = .ok accounts → before.world.ledger.Lists program (filters.getD []) accounts
  | .inl (.getMultipleAccounts addresses), reply, after => after = before ∧
      ∀ infos, reply = .ok infos → infos = before.world.ledger.several addresses
  | .inl operation, reply, after => after.screen = before.screen ∧
      Node.Serves process reliable client before.world operation reply after.world
  | .inr (.println line), _, after =>
      after = { before with screen := Function.update before.screen client (before.screen client ++ [line]) }
  | .inr _, _, after => after = before

end Session
end ArchKit
