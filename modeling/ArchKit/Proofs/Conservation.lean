import ArchKit.Proofs.TokenLedger
import ArchKit.Totals

/-! The balances of a mint never add up to more than its supply, whatever instructions
are executed. -/

namespace ArchKit.TokenProgram
open Totals

/-- The tokens of the mint in what an address shows. -/
def holding (mint : Pubkey) : Option TokenAccount → Nat
  | some account => if account.mint = mint then account.amount.toNat else 0
  | none => 0

def supply (state : Option Mint) : Nat := (state.map (·.supply.toNat)).getD 0

/-- No account of the mint is wrapped native currency. -/
def Plain (mint : Pubkey) (accounts : Pubkey → Option TokenAccount) : Prop :=
  ∀ address account, accounts address = some account → account.mint = mint → account.isNative = none

/-- The supply of an ordinary mint covers its balances. -/
structure Solvent (sdk : TokenSdk) (mint : Pubkey) (ledger : Ledger) : Prop where
  covered : Within (fun address => holding mint (accountAt sdk ledger address)) (supply (mintAt sdk ledger mint))
  plain : Plain mint (accountAt sdk ledger)

variable {sdk : TokenSdk} {ledger later : Ledger} {mint : Pubkey} {accounts : Pubkey → Option TokenAccount}

theorem holding_update (address : Pubkey) (account : Option TokenAccount) :
    (fun other => holding mint (Function.update accounts address account other)) =
      Function.update (fun other => holding mint (accounts other)) address (holding mint account) := by
  funext other
  by_cases same : other = address
  · rw [same, Function.update_self, Function.update_self]
  · rw [Function.update_of_ne same, Function.update_of_ne same]

theorem Plain.update {address : Pubkey} {account : TokenAccount} (plain : Plain mint accounts)
    (ordinary : account.mint = mint → account.isNative = none) :
    Plain mint (Function.update accounts address (some account)) := by
  intro other shown found own
  by_cases same : other = address
  · rw [same, Function.update_self] at found
    cases found
    exact ordinary own
  · rw [Function.update_of_ne same] at found
    exact plain other shown found own

namespace Solvent

/-- A mint that nobody holds. -/
theorem initial (unheld : ∀ address account, accountAt sdk ledger address = some account → account.mint ≠ mint) :
    Solvent sdk mint ledger := by
  constructor
  · intro addresses
    have nothing : ∀ address ∈ addresses, holding mint (accountAt sdk ledger address) = 0 := by
      intro address _
      cases found : accountAt sdk ledger address with
      | none => rfl
      | some account => exact if_neg (unheld address account found)
    rw [Finset.sum_eq_zero nothing]
    exact Nat.zero_le _
  · exact fun address account found own => absurd own (unheld address account found)

variable (solvent : Solvent sdk mint ledger)
include solvent

/-- Nothing that concerns the mint has changed. -/
theorem of_same (mints : mintAt sdk later mint = mintAt sdk ledger mint) (same : accountAt sdk later = accountAt sdk ledger) :
    Solvent sdk mint later := ⟨by rw [same, mints]; exact solvent.covered, by rw [same]; exact solvent.plain⟩

/-- A supply that is not less may be stated for the same accounts. -/
theorem of_supply {named : Pubkey} {state : Mint} (mints : mintAt sdk later = Function.update (mintAt sdk ledger) named (some state))
    (same : accountAt sdk later = accountAt sdk ledger) (covers : named = mint → supply (mintAt sdk ledger mint) ≤ state.supply.toNat) :
    Solvent sdk mint later := by
  by_cases own : mint = named
  · subst own
    refine ⟨?_, by rw [same]; exact solvent.plain⟩
    rw [same, mints, Function.update_self]
    exact solvent.covered.mono (covers rfl)
  · exact solvent.of_same (by rw [mints, Function.update_of_ne own]) same

theorem createAssociated {payer associated owner named : Pubkey}
    (executed : TokenProgram.createAssociated sdk ledger payer associated owner named = some later) :
    Solvent sdk mint later := by
  rcases (createAssociated_eq_some executed).2 with ⟨same, _⟩ | ⟨absent, _, _, accounts, mints, _⟩
  · rw [same]
    exact solvent
  · refine ⟨?_, ?_⟩
    · have nothing : holding mint (some { mint := named, owner := owner, state := .initialized }) =
          holding mint (accountAt sdk ledger associated) := by
        rw [absent]
        exact ite_self 0
      rw [accounts, holding_update, nothing, Function.update_eq_self, mints]
      exact solvent.covered
    · rw [accounts]
      exact solvent.plain.update fun _ => rfl

theorem mintToChecked {named destination authority : Pubkey} {amount : UInt64} {decimals : UInt8}
    (executed : TokenProgram.mintToChecked sdk ledger named destination authority amount decimals = some later) :
    Solvent sdk mint later := by
  obtain ⟨account, state, total, raised, found, known, own, _, _, added, issued, mints, accounts, _⟩ :=
    mintToChecked_eq_some executed
  constructor
  · rw [accounts, holding_update, mints]
    by_cases same : mint = named
    · subst same
      have before : holding mint (accountAt sdk ledger destination) = account.amount.toNat := by rw [found]; exact if_pos own
      have after : holding mint (some { account with amount := total }) =
          holding mint (accountAt sdk ledger destination) + amount.toNat := by
        rw [before, ← added]
        exact if_pos own
      have bound : supply (Function.update (mintAt sdk ledger) mint (some { state with supply := raised }) mint) =
          supply (mintAt sdk ledger mint) + amount.toNat := by
        rw [Function.update_self, known]
        exact issued
      rw [after, bound]
      exact solvent.covered.raise
    · have foreign : account.mint ≠ mint := fun equal => same (equal.symm.trans own)
      have kept : holding mint (some { account with amount := total }) = holding mint (accountAt sdk ledger destination) := by
        rw [found]
        exact (if_neg foreign).trans (if_neg foreign).symm
      rw [kept, Function.update_eq_self, Function.update_of_ne same]
      exact solvent.covered
  · have ordinary := solvent.plain _ _ found
    rw [accounts]
    exact solvent.plain.update ordinary

theorem transferChecked {source named destination authority : Pubkey} {amount : UInt64} {decimals : UInt8}
    (executed : TokenProgram.transferChecked sdk ledger source named destination authority amount decimals = some later) :
    Solvent sdk mint later := by
  rcases transferChecked_eq_some executed with ⟨_, same⟩ |
    ⟨different, sender, receiver, charged, rest, total, found, known, own, alike, paid, left, added, accounts, mints, _⟩
  · rw [same]
    exact solvent
  · have shape := (charge_eq_some paid).2
    have debited : charged.mint = named := by
      rw [shape]
      exact own
    have ordinary : charged.isNative = sender.isNative := by rw [shape]
    constructor
    · rw [accounts, holding_update, holding_update, mints]
      by_cases same : named = mint
      · apply solvent.covered.move different
        · rw [found]
          exact (congrArg (· + amount.toNat) (if_pos (debited.trans same))).trans (left.trans (if_pos (own.trans same)).symm)
        · rw [known]
          exact (if_pos (alike.trans same)).trans (added.trans (congrArg (· + amount.toNat) (if_pos (alike.trans same)).symm))
      · have kept : holding mint (some { charged with amount := rest }) = holding mint (accountAt sdk ledger source) := by
          rw [found]
          exact (if_neg (debited ▸ same)).trans (if_neg (own ▸ same)).symm
        have still : holding mint (some { receiver with amount := total }) = holding mint (accountAt sdk ledger destination) := by
          rw [known]
          exact (if_neg (alike ▸ same)).trans (if_neg (alike ▸ same)).symm
        rw [kept, Function.update_eq_self, still, Function.update_eq_self]
        exact solvent.covered
    · have receiving := solvent.plain _ _ known
      rw [accounts]
      refine (solvent.plain.update ?_).update receiving
      intro belongs
      exact ordinary.trans (solvent.plain _ _ found (own.trans (debited.symm.trans belongs)))

/-- Every instruction of the token program keeps every mint solvent. -/
theorem execute {instruction : TokenInstruction} (executed : TokenProgram.execute sdk ledger instruction = some later) :
    Solvent sdk mint later := by
  cases instruction with
  | initializeMint named mintAuthority freezeAuthority decimals =>
    obtain ⟨_, state, _, _, absent, _, mints, accounts, _⟩ := initializeMint_eq_some executed
    apply solvent.of_supply mints accounts
    intro same
    rw [← same, absent]
    exact Nat.zero_le _
  | createAssociated payer associated owner named => exact solvent.createAssociated executed
  | mintToChecked named destination authority amount decimals => exact solvent.mintToChecked executed
  | setMintAuthority named newAuthority authority =>
    obtain ⟨state, known, _, mints, accounts, _⟩ := setMintAuthority_eq_some executed
    apply solvent.of_supply mints accounts
    intro same
    rw [← same, known]
    exact Nat.le_refl _
  | transferChecked source named destination authority amount decimals => exact solvent.transferChecked executed

/-- So does a transaction that gives no existing account to another program. -/
theorem processInstructions {instructions : List Instruction}
    (keeps : ∀ instruction ∈ instructions, ∀ address owner, instruction ≠ .assign address owner)
    (executed : TokenProgram.processInstructions sdk ledger instructions = some later) : Solvent sdk mint later := by
  induction instructions generalizing ledger with
  | nil => cases executed; exact solvent
  | cons instruction instructions ih =>
    rw [processInstructions_cons] at executed
    obtain ⟨middle, first, rest⟩ := Option.bind_eq_some_iff.mp executed
    refine ih ?_ (fun other member => keeps other (List.mem_cons_of_mem _ member)) rest
    cases instruction with
    | createAccount payer address lamports space owner =>
      obtain ⟨_, _, mints, accounts, _⟩ := createAccount_eq_some first
      exact solvent.of_same (congrFun mints mint) accounts
    | assign address owner => exact absurd rfl (keeps _ List.mem_cons_self address owner)
    | invoke programId named data =>
      obtain ⟨meaning, _, executed⟩ := Option.bind_eq_some_iff.mp first
      exact solvent.execute executed

end Solvent
end ArchKit.TokenProgram
