import ArchKit.Books
import ArchKit.Proofs.ExactTransfer
import ArchKit.Proofs.FixedSupply
import ArchKit.Proofs.OneTransaction

/-! What a transaction of a token command does to the books of the token program, on
whichever ledger it is executed: the amount that the command line states is issued or
moved, in the decimals of the mint itself, and every other account is left alone. -/

namespace ArchKit
open Books Effects Token TokenProgram

/-- Tokens of a mint that are issued, or that leave an account, and arrive at another. -/
structure Posting where
  mint : Pubkey
  payer : Option Pubkey
  payee : Pubkey
  amount : UInt64

namespace Posting

def moves (posting : Posting) : Move Pubkey := ⟨posting.payer, some posting.payee, posting.amount.toNat⟩

/-- Only tokens without a payer add to the supply. -/
def issues (posting : Posting) : Move Pubkey :=
  ⟨none, if posting.payer.isNone then some posting.mint else none, posting.amount.toNat⟩

end Posting

/-- The postings of a transaction and the accounts it may write. -/
structure Booking where
  postings : List Posting := []
  touched : List Pubkey := []

namespace Booking

instance : Append Booking := ⟨fun first second => ⟨first.postings ++ second.postings, first.touched ++ second.touched⟩⟩

@[simp] theorem append_touched (first second : Booking) : (first ++ second).touched = first.touched ++ second.touched := rfl

/-- Several transactions one after the other. -/
def total : List Booking → Booking
  | [] => {}
  | booking :: bookings => booking ++ total bookings

end Booking

def supplyAt (sdk : TokenSdk) (ledger : Ledger) (mint : Pubkey) : Nat := supply (mintAt sdk ledger mint)

/-- A ledger has become another by nothing but these postings. -/
structure Posted (sdk : TokenSdk) (ledger later : Ledger) (booking : Booking) : Prop where
  balances : Balanced (balanceAt sdk ledger) (balanceAt sdk later) (booking.postings.map Posting.moves)
  supplies : Balanced (supplyAt sdk ledger) (supplyAt sdk later) (booking.postings.map Posting.issues)
  mints : ∀ mint state, mintAt sdk ledger mint = some state →
    ∃ supply, mintAt sdk later mint = some { state with supply := supply }
  frame : ∀ address, address ∉ booking.touched → later.accounts address = ledger.accounts address

namespace Posted
variable {sdk : TokenSdk} {ledger middle later : Ledger} {first second booking : Booking}

theorem refl (sdk : TokenSdk) (ledger : Ledger) : Posted sdk ledger ledger {} where
  balances := .refl _
  supplies := .refl _
  mints := fun _ state known => ⟨state.supply, known⟩
  frame := fun _ _ => rfl

theorem trans (early : Posted sdk ledger middle first) (late : Posted sdk middle later second) :
    Posted sdk ledger later (first ++ second) where
  balances := by
    change Balanced _ _ ((first.postings ++ second.postings).map Posting.moves)
    rw [List.map_append]
    exact early.balances.trans late.balances
  supplies := by
    change Balanced _ _ ((first.postings ++ second.postings).map Posting.issues)
    rw [List.map_append]
    exact early.supplies.trans late.supplies
  mints := by
    intro mint state known
    obtain ⟨supply, shown⟩ := early.mints mint state known
    obtain ⟨final, kept⟩ := late.mints mint _ shown
    exact ⟨final, kept⟩
  frame := by
    intro address untouched
    have notFirst : address ∉ first.touched := fun member => untouched (List.mem_append_left _ member)
    have notSecond : address ∉ second.touched := fun member => untouched (List.mem_append_right _ member)
    exact (late.frame address notSecond).trans (early.frame address notFirst)

/-- Nothing was posted, and no account of the token program has changed. -/
theorem of_same (accounts : accountAt sdk later = accountAt sdk ledger) (mints : mintAt sdk later = mintAt sdk ledger)
    (frame : ∀ address, address ∉ booking.touched → later.accounts address = ledger.accounts address)
    (nothing : booking.postings = []) : Posted sdk ledger later booking where
  balances := by
    have same : balanceAt sdk later = balanceAt sdk ledger := funext fun address => by rw [balanceAt, accounts]; rfl
    rw [same, nothing]
    exact .refl _
  supplies := by
    have same : supplyAt sdk later = supplyAt sdk ledger := funext fun mint => by rw [supplyAt, mints]; rfl
    rw [same, nothing]
    exact .refl _
  mints := fun mint state known => ⟨state.supply, by rw [mints]; exact known⟩
  frame := frame

/-- The accounts that may be written may be described less closely. -/
theorem of_touched (posted : Posted sdk ledger later first) (same : first.postings = second.postings)
    (covers : ∀ address ∈ first.touched, address ∈ second.touched) : Posted sdk ledger later second where
  balances := same ▸ posted.balances
  supplies := same ▸ posted.supplies
  mints := posted.mints
  frame := fun address untouched => posted.frame address fun member => untouched (covers address member)

end Posted

section Effects
variable {sdk : TokenSdk} {ledger later : Ledger}

/-- A mint without an authority. -/
def Sealed (sdk : TokenSdk) (mint : Pubkey) (state : Mint) (ledger : Ledger) : Prop :=
  state.mintAuthority = none ∧ mintAt sdk ledger mint = some state

theorem Sealed.execute {mint : Pubkey} {state : Mint} {instruction : TokenInstruction} (closed : Sealed sdk mint state ledger)
    (executed : execute sdk ledger instruction = some later) : Sealed sdk mint state later := by
  obtain ⟨unauthorized, known⟩ := closed
  have granted {named authority : Pubkey} {found : Mint} (listed : mintAt sdk ledger named = some found)
      (authorized : found.mintAuthority = some authority) : mint ≠ named := by
    intro same
    rw [← same] at listed
    cases known.symm.trans listed
    cases unauthorized.symm.trans authorized
  refine ⟨unauthorized, ?_⟩
  cases instruction with
  | initializeMint named mintAuthority freezeAuthority decimals =>
    obtain ⟨_, _, _, _, absent, _, mints, _⟩ := initializeMint_eq_some executed
    have different : mint ≠ named := by
      intro same
      rw [← same, known] at absent
      cases absent
    rw [mints, Function.update_of_ne different]
    exact known
  | createAssociated payer associated owner named =>
    rcases (createAssociated_eq_some executed).2 with ⟨same, _⟩ | ⟨_, _, _, _, mints, _⟩
    · rw [same]
      exact known
    · rw [mints]
      exact known
  | mintToChecked named destination authority amount decimals =>
    obtain ⟨_, found, _, _, _, listed, _, _, authorized, _, _, mints, _⟩ := mintToChecked_eq_some executed
    rw [mints, Function.update_of_ne (granted listed authorized)]
    exact known
  | setMintAuthority named newAuthority authority =>
    obtain ⟨found, listed, authorized, mints, _⟩ := setMintAuthority_eq_some executed
    rw [mints, Function.update_of_ne (granted listed authorized)]
    exact known
  | transferChecked source named destination authority amount decimals =>
    rcases transferChecked_eq_some executed with ⟨_, same⟩ | ⟨_, _, _, _, _, _, _, _, _, _, _, _, _, _, mints, _⟩
    · rw [same]
      exact known
    · rw [mints]
      exact known

theorem balanceAt_update {address : Pubkey} {account : TokenAccount}
    (accounts : accountAt sdk later = Function.update (accountAt sdk ledger) address (some account)) :
    balanceAt sdk later = Function.update (balanceAt sdk ledger) address account.amount.toNat := by
  funext other
  by_cases same : other = address
  · rw [same, balanceAt, accounts, Function.update_self, Function.update_self]
    rfl
  · rw [balanceAt, accounts, Function.update_of_ne same, Function.update_of_ne same]
    rfl

theorem supplyAt_update {mint : Pubkey} {state : Mint}
    (mints : mintAt sdk later = Function.update (mintAt sdk ledger) mint (some state)) :
    supplyAt sdk later = Function.update (supplyAt sdk ledger) mint state.supply.toNat := by
  funext other
  by_cases same : other = mint
  · rw [same, supplyAt, mints, Function.update_self, Function.update_self]
    rfl
  · rw [supplyAt, mints, Function.update_of_ne same, Function.update_of_ne same]
    rfl

/-- Tokens that are issued to the account of a recipient. -/
theorem credited_posted {payer recipient mint authority destination : Pubkey} {amount : UInt64} {decimals : UInt8}
    (executed : ((createAssociated sdk ledger payer destination recipient mint).bind fun middle =>
      mintToChecked sdk middle mint destination authority amount decimals) = some later) :
    Posted sdk ledger later ⟨[⟨mint, none, destination, amount⟩], [mint, destination]⟩ := by
  obtain ⟨state, supply, account, known, _, issued, mints, accounts, _, _, added, frame⟩ := credited_eq_some executed
  refine ⟨?_, ?_, ?_, ?_⟩
  · rw [balanceAt_update accounts]
    exact .credit added
  · rw [supplyAt_update mints]
    refine .credit ?_
    rw [supplyAt, known]
    exact issued
  · intro other shown found
    by_cases same : other = mint
    · subst same
      cases known.symm.trans found
      exact ⟨supply, by rw [mints, Function.update_self]⟩
    · exact ⟨shown.supply, by rw [mints, Function.update_of_ne same]; exact found⟩
  · intro address untouched
    simp only [List.mem_cons, List.not_mem_nil, or_false, not_or] at untouched
    exact frame address untouched.1 untouched.2

/-- A mint that appears with no supply. -/
theorem initializeMint_posted {mint authority : Pubkey} {freezeAuthority : Option Pubkey} {decimals : UInt8} {lamports : Nat} {owner : Pubkey}
    (blank : ledger.accounts mint = some ⟨lamports, owner, List.replicate sdk.mints.len 0, false⟩)
    (executed : initializeMint sdk ledger mint authority freezeAuthority decimals = some later) :
    Posted sdk ledger later ⟨[], [mint]⟩ := by
  obtain ⟨info, state, present, unpacked, absent, _, mints, accounts, frame⟩ := initializeMint_eq_some executed
  cases blank.symm.trans present
  cases unpacked.symm.trans sdk.mints.unpackUnchecked_zeros
  have balances : balanceAt sdk later = balanceAt sdk ledger := funext fun address => by rw [balanceAt, accounts]; rfl
  have supplies : supplyAt sdk later = supplyAt sdk ledger := by
    have nothing : supplyAt sdk ledger mint = 0 := by
      rw [supplyAt, absent]
      rfl
    rw [supplyAt_update mints]
    exact Function.update_eq_self_iff.mpr nothing.symm
  refine ⟨?_, ?_, ?_, ?_⟩
  · rw [balances]
    exact .refl _
  · rw [supplies]
    exact .refl _
  · intro other shown found
    have different : other ≠ mint := by
      intro same
      rw [same, absent] at found
      cases found
    exact ⟨shown.supply, by rw [mints, Function.update_of_ne different]; exact found⟩
  · intro address untouched
    exact frame address fun same => untouched (List.mem_singleton.mpr same)

/-- Whoever may issue tokens of a mint that was not there before is nobody's business. -/
theorem Posted.revoke {mint authority : Pubkey} {newAuthority : Option Pubkey} {booking : Booking} {revoked : Ledger}
    (posted : Posted sdk ledger later booking) (absent : mintAt sdk ledger mint = none) (touched : mint ∈ booking.touched)
    (executed : setMintAuthority sdk later mint newAuthority authority = some revoked) : Posted sdk ledger revoked booking := by
  obtain ⟨state, known, _, mints, accounts, frame⟩ := setMintAuthority_eq_some executed
  refine ⟨?_, ?_, ?_, ?_⟩
  · have same : balanceAt sdk revoked = balanceAt sdk later := funext fun address => by rw [balanceAt, accounts]; rfl
    rw [same]
    exact posted.balances
  · have same : supplyAt sdk revoked = supplyAt sdk later := by
      rw [supplyAt_update mints]
      refine Function.update_eq_self_iff.mpr ?_
      rw [supplyAt, known]
      rfl
    rw [same]
    exact posted.supplies
  · intro other shown found
    have different : other ≠ mint := by
      intro same
      rw [same, absent] at found
      cases found
    obtain ⟨supply, kept⟩ := posted.mints other shown found
    exact ⟨supply, by rw [mints, Function.update_of_ne different]; exact kept⟩
  · intro address untouched
    have different : address ≠ mint := fun same => untouched (same ▸ touched)
    exact (frame address different).trans (posted.frame address untouched)

namespace CreateMint
variable {mint authority : Pubkey} {freezeAuthority : Option Pubkey} {decimals : UInt8} {initialSupply : Option UInt64}
  {fixedSupply : Bool} {instructions : List Instruction}

/-- The initial supply, all of it in the authority's own account. -/
def booking (sdk : TokenSdk) (mint authority : Pubkey) : Option UInt64 → Booking
  | none => ⟨[], [mint]⟩
  | some amount =>
    let holder := (associatedTokenAddress sdk authority mint).1
    ⟨[⟨mint, none, holder, amount⟩], [mint, holder]⟩

theorem createMintInstructions_posted
    (built : createMintInstructions sdk mint authority freezeAuthority decimals initialSupply fixedSupply = .ok instructions)
    (executed : processInstructions sdk ledger instructions = some later) :
    Posted sdk ledger later (booking sdk mint authority initialSupply) ∧
      ∃ supply, mintAt sdk later mint = some ⟨if fixedSupply then none else some authority, supply, decimals, true, freezeAuthority⟩ := by
  simp only [createMintInstructions_process built, Option.bind_eq_some_iff] at executed
  obtain ⟨opened, created, initialized, made, issued, supplied, ended⟩ := executed
  obtain ⟨vacant, blank, mints, accounts, frame⟩ := createAccount_eq_some created
  have absent : mintAt sdk ledger mint = none := by rw [mintAt, vacant]; rfl
  have opens : Posted sdk ledger opened ⟨[], [mint]⟩ :=
    .of_same accounts mints (fun address untouched => frame address fun same => untouched (List.mem_singleton.mpr same)) rfl
  have begun := opens.trans (initializeMint_posted blank made)
  obtain ⟨_, state, _, _, _, _, shown, _, _⟩ := initializeMint_eq_some made
  have known : mintAt sdk initialized mint = some ⟨some authority, state.supply, decimals, true, freezeAuthority⟩ := by
    rw [shown, Function.update_self]
  obtain ⟨posted, supply, kept⟩ : Posted sdk ledger issued (booking sdk mint authority initialSupply) ∧
      ∃ supply, mintAt sdk issued mint = some ⟨some authority, supply, decimals, true, freezeAuthority⟩ := by
    cases initialSupply with
    | none =>
      cases supplied
      refine ⟨begun.of_touched rfl ?_, _, known⟩
      intro address member
      simpa [booking] using member
    | some amount =>
      have credits := credited_posted supplied
      have whole := begun.trans credits
      obtain ⟨supply, kept⟩ := credits.mints mint _ known
      refine ⟨whole.of_touched rfl ?_, supply, kept⟩
      intro address member
      simpa [booking] using member
  cases fixedSupply with
  | false =>
    cases ended
    exact ⟨posted, supply, kept⟩
  | true =>
    have touched : mint ∈ (booking sdk mint authority initialSupply).touched := by cases initialSupply <;> exact List.mem_cons_self
    obtain ⟨before, again, _, revoked, _, _⟩ := setMintAuthority_eq_some ended
    cases kept.symm.trans again
    exact ⟨posted.revoke absent touched ended, supply, by rw [revoked, Function.update_self]; rfl⟩

end CreateMint
namespace TokenTransfer
variable {source destination mint authority : Pubkey} {recipient : Option Pubkey} {amount : UInt64} {decimals : UInt8}
  {instructions : List Instruction}

/-- The decimals of the mint itself are checked. -/
theorem transferChecked_listed (executed : transferChecked sdk ledger source mint destination authority amount decimals = some later) :
    ∃ state, mintAt sdk ledger mint = some state ∧ state.decimals = decimals := by
  simp only [transferChecked, bind, Option.bind_eq_some_iff, Option.guard_eq_some'] at executed
  obtain ⟨_, _, _, _, state, listed, _, ⟨_, _, _, _, checked⟩, _⟩ := executed
  exact ⟨state, listed, checked⟩

theorem transferInstructions_posted
    (built : transferInstructions sdk source destination recipient mint authority amount decimals = .ok instructions)
    (distinct : source ≠ destination) (executed : processInstructions sdk ledger instructions = some later) :
    Posted sdk ledger later ⟨[⟨mint, some source, destination, amount⟩], [source, destination]⟩ ∧
      ∃ state, mintAt sdk later mint = some state ∧ state.decimals = decimals := by
  rw [transferInstructions_process built, Option.bind_eq_some_iff] at executed
  obtain ⟨ready, opened, transferred⟩ := executed
  have prepared := prepare_eq_some opened
  obtain ⟨same, _⟩ | ⟨_, sender, receiver, charged, rest, total, found, known, _, _, _, left, added, accounts, mints, frame⟩ :=
    transferChecked_eq_some transferred
  · exact absurd same distinct
  obtain ⟨state, listed, checked⟩ := transferChecked_listed transferred
  have balances : balanceAt sdk ready = balanceAt sdk ledger := by
    funext address
    by_cases same : address = destination
    · rw [same]
      exact prepared.balance
    · rw [balanceAt, prepared.others address same]
      rfl
  refine ⟨⟨?_, ?_, ?_, ?_⟩, state, by rw [mints]; exact listed, checked⟩
  · have middle : balanceAt sdk later =
        Function.update (Function.update (balanceAt sdk ready) source rest.toNat) destination total.toNat := by
      funext address
      by_cases credited : address = destination
      · rw [credited, Function.update_self, balanceAt, accounts, Function.update_self]
        rfl
      · by_cases debited : address = source
        · rw [debited, Function.update_of_ne distinct, Function.update_self, balanceAt, accounts, Function.update_of_ne distinct,
            Function.update_self]
          rfl
        · rw [Function.update_of_ne credited, Function.update_of_ne debited, balanceAt, accounts, Function.update_of_ne credited,
            Function.update_of_ne debited]
          rfl
    rw [middle, balances]
    apply Balanced.move distinct
    · rw [← balances, balanceAt_of_account found]
      exact left
    · rw [← balances, balanceAt_of_account known]
      exact added
  · have same : supplyAt sdk later = supplyAt sdk ledger := funext fun other => by rw [supplyAt, mints, prepared.mints]; rfl
    rw [same]
    exact .still _ _
  · intro other shown found
    exact ⟨shown.supply, by rw [mints, prepared.mints]; exact found⟩
  · intro address untouched
    simp only [List.mem_cons, List.not_mem_nil, or_false, not_or] at untouched
    exact (frame address untouched.1 untouched.2).trans (prepared.frame address untouched.2)

end TokenTransfer
end Effects

namespace Submission

/-- What the books show of a command whose transaction was executed. The amount is the
text of the command line, read in the decimals that the ledger shows for the mint. -/
inductive Posts (sdk : TokenSdk) (ledger : Ledger) : Submission → Booking → Prop where
  | createMint {args : CreateMint.Args} {mint authority : Pubkey} {state : Mint} {initialSupply : Option UInt64}
      (listed : mintAt sdk ledger mint = some state) (scaled : state.decimals = args.decimals)
      (fixed : state.mintAuthority = if args.fixedSupply then none else some authority)
      (freezable : (args.freezeAuthority.mapM fun value => parsePubkey value "freeze authority") = .ok state.freezeAuthority)
      (supplied : (args.initialSupply.mapM fun amount => Utils.parseAmount amount state.decimals) = .ok initialSupply) :
      Posts sdk ledger (.createMint args) (CreateMint.booking sdk mint authority initialSupply)
  | mintTokens {args : MintTokens.Args} {recipient mint : Pubkey} {state : Mint} {amount : UInt64}
      (credited : parsePubkey args.recipient "recipient" = .ok recipient) (named : parsePubkey args.mint "mint" = .ok mint)
      (listed : mintAt sdk ledger mint = some state) (parsed : Utils.parseAmount args.amount state.decimals = .ok amount) :
      Posts sdk ledger (.mintTokens args)
        ⟨[⟨mint, none, (associatedTokenAddress sdk recipient mint).1, amount⟩], [mint, (associatedTokenAddress sdk recipient mint).1]⟩
  | transfer {submission : Submission} {args : TokenTransfer.TransferArgs} {source destination mint : Pubkey}
      {recipient : Option Pubkey} {state : Mint} {amount : UInt64} (requests : submission.Requests args)
      (named : parsePubkey args.mint "mint" = .ok mint) (listed : mintAt sdk ledger mint = some state)
      (parsed : Utils.parseAmount args.amount state.decimals = .ok amount)
      (chosen : ∀ text, args.source = some text → parsePubkey text "source token account" = .ok source)
      (own : args.source = none → ∃ authority, source = (associatedTokenAddress sdk authority mint).1)
      (aims : TokenTransfer.Aims sdk mint args.destination destination recipient) (distinct : source ≠ destination) :
      Posts sdk ledger submission ⟨[⟨mint, some source, destination, amount⟩], [source, destination]⟩

variable {sdk : ToolSdk} {submission : Submission} {transaction : RuntimeTransaction} {ledger later : Ledger}

/-- Later postings leave the decimals alone. -/
theorem Posts.grow {booking other : Booking} (posts : submission.Posts sdk.toTokenSdk ledger booking)
    (posted : Posted sdk.toTokenSdk ledger later other) : submission.Posts sdk.toTokenSdk later booking := by
  cases posts with
  | createMint listed scaled fixed freezable supplied =>
    obtain ⟨supply, kept⟩ := posted.mints _ _ listed
    exact .createMint kept scaled fixed freezable supplied
  | mintTokens credited named listed parsed =>
    obtain ⟨supply, kept⟩ := posted.mints _ _ listed
    exact .mintTokens credited named kept parsed
  | transfer requests named listed parsed chosen own aims distinct =>
    obtain ⟨supply, kept⟩ := posted.mints _ _ listed
    exact .transfer requests named kept parsed chosen own aims distinct

/-- A command of the token program. -/
def IsToken : Submission → Prop
  | .transferArch _ => False
  | _ => True

theorem chosen_source {given : Option Pubkey} {text : Option String} {label : String} {fallback : Pubkey}
    (parsed : (text.mapM fun value => parsePubkey value label) = .ok given) :
    (∀ value, text = some value → parsePubkey value label = .ok (given.getD fallback)) ∧ (text = none → given = none) := by
  cases text with
  | none =>
    cases parsed
    exact ⟨(fun _ same => by cases same), fun _ => rfl⟩
  | some value =>
    refine ⟨?_, fun same => by cases same⟩
    intro other same
    cases same
    change some <$> parsePubkey value label = .ok given at parsed
    cases read : parsePubkey value label with
    | error error =>
      rw [read] at parsed
      cases parsed
    | ok key =>
      rw [read] at parsed
      cases parsed
      rfl

/-- Executed on any ledger, the transaction of a command does what its command line says. -/
theorem Describes.posted (describes : submission.Describes sdk transaction) (token : submission.IsToken)
    (executed : processInstructions sdk.toTokenSdk ledger transaction.message.instructions = some later) :
    ∃ booking, submission.Posts sdk.toTokenSdk later booking ∧ Posted sdk.toTokenSdk ledger later booking := by
  cases describes with
  | createMint asked carries =>
    obtain ⟨blockhash, same⟩ := carries
    rw [same] at executed
    obtain ⟨posted, supply, listed⟩ := CreateMint.createMintInstructions_posted asked.built executed
    exact ⟨_, .createMint listed rfl rfl asked.frozenBy asked.supplied, posted⟩
  | mintTokens asked carries =>
    obtain ⟨blockhash, same⟩ := carries
    rw [same] at executed
    obtain ⟨derived, process⟩ := mintToUserInstructions_eq_ok asked.built
    have credited := (process ledger).symm.trans executed
    have posted := credited_posted credited
    obtain ⟨middle, _, issued⟩ := Option.bind_eq_some_iff.mp credited
    obtain ⟨_, state, _, supply, _, _, _, scaled, _, _, _, mints, _⟩ := mintToChecked_eq_some issued
    have parsed := asked.parsed
    rw [← scaled] at parsed
    rw [derived] at posted
    have listed : mintAt sdk.toTokenSdk later asked.mint = some { state with supply := supply } := by
      rw [mints, Function.update_self]
    exact ⟨_, .mintTokens asked.credited asked.named listed parsed, posted⟩
  | transfer requests asked carries =>
    obtain ⟨blockhash, same⟩ := carries
    rw [same] at executed
    obtain ⟨posted, state, listed, scaled⟩ := TokenTransfer.transferInstructions_posted asked.built asked.distinct executed
    have parsed := asked.parsed
    rw [← scaled] at parsed
    obtain ⟨named, own⟩ := chosen_source asked.chosen
    refine ⟨_, .transfer requests asked.named listed parsed named ?_ asked.aims asked.distinct, posted⟩
    intro absent
    rw [own absent]
    exact ⟨asked.authority, rfl⟩
  | transferArch asked carries => exact token.elim

/-- What the creation of accounts and all instructions of the token program keep is kept
by the transaction of every token command. -/
theorem Describes.keeps {holds : Ledger → Prop} (describes : submission.Describes sdk transaction) (token : submission.IsToken)
    (creates : ∀ {before after : Ledger} {payer address owner : Pubkey} {lamports space : Nat},
      processInstruction sdk.toTokenSdk before (.createAccount payer address lamports space owner) = some after →
      holds before → holds after)
    (executes : ∀ {before after : Ledger} (instruction : TokenInstruction), execute sdk.toTokenSdk before instruction = some after →
      holds before → holds after)
    (executed : processInstructions sdk.toTokenSdk ledger transaction.message.instructions = some later) (start : holds ledger) :
    holds later := by
  have issues {before after : Ledger} {payer associated owner mint authority : Pubkey} {amount : UInt64} {decimals : UInt8}
      (credited : ((createAssociated sdk.toTokenSdk before payer associated owner mint).bind fun middle =>
        mintToChecked sdk.toTokenSdk middle mint associated authority amount decimals) = some after) (held : holds before) :
      holds after := by
    obtain ⟨middle, opened, issued⟩ := Option.bind_eq_some_iff.mp credited
    have ready := executes (.createAssociated payer associated owner mint) opened held
    exact executes (.mintToChecked mint associated authority amount decimals) issued ready
  cases describes with
  | createMint asked carries =>
    obtain ⟨blockhash, same⟩ := carries
    rw [same] at executed
    simp only [ArchMessage.new, CreateMint.createMintInstructions_process asked.built, Option.bind_eq_some_iff] at executed
    obtain ⟨opened, created, initialized, made, issued, supplied, ended⟩ := executed
    have begun := executes (.initializeMint asked.mint asked.authority _ _) made (creates created start)
    have stocked : holds issued := by
      cases supply : asked.initialSupply with
      | none =>
        rw [supply] at supplied
        cases supplied
        exact begun
      | some amount =>
        rw [supply] at supplied
        exact issues supplied begun
    unfold CreateMint.revoke at ended
    split at ended
    · exact executes (.setMintAuthority asked.mint none asked.authority) ended stocked
    · cases ended
      exact stocked
  | mintTokens asked carries =>
    obtain ⟨blockhash, same⟩ := carries
    rw [same] at executed
    obtain ⟨_, process⟩ := mintToUserInstructions_eq_ok asked.built
    exact issues ((process ledger).symm.trans executed) start
  | transfer requests asked carries =>
    obtain ⟨blockhash, same⟩ := carries
    rw [same] at executed
    simp only [ArchMessage.new, TokenTransfer.transferInstructions_process asked.built, Option.bind_eq_some_iff] at executed
    obtain ⟨ready, opened, transferred⟩ := executed
    have prepared : holds ready := by
      cases target : asked.recipient with
      | none =>
        rw [target] at opened
        cases opened
        exact start
      | some owner =>
        rw [target] at opened
        exact executes (.createAssociated asked.authority asked.destination owner asked.mint) opened start
    exact executes (.transferChecked _ asked.mint asked.destination asked.authority asked.amount asked.decimals) transferred prepared
  | transferArch asked carries => exact token.elim

end Submission
end ArchKit
