import ArchKit.Proofs.Conservation
import ArchKit.Proofs.TokenCommands
import ArchKit.TokenReference
import ArchKit.TokenTransfer

/-! A token transfer moves the stated amount or nothing, whatever happened to the chain
since it was read. -/

namespace ArchKit.TokenTransfer
open Effects Fallible Token TokenProgram

section Instructions
variable {sdk : TokenSdk} {ledger ready later : Ledger} {source destination mint authority : Pubkey}
  {recipient : Option Pubkey} {amount : UInt64} {decimals : UInt8} {instructions : List Instruction}

/-- The account of a recipient is opened where it is missing. -/
def prepare (sdk : TokenSdk) (ledger : Ledger) (authority destination mint : Pubkey) : Option Pubkey → Option Ledger
  | none => some ledger
  | some owner => createAssociated sdk ledger authority destination owner mint

theorem transferInstructions_process
    (built : transferInstructions sdk source destination recipient mint authority amount decimals = .ok instructions) :
    processInstructions sdk ledger instructions = (prepare sdk ledger authority destination mint recipient).bind fun ready =>
      transferChecked sdk ready source mint destination authority amount decimals := by
  cases recipient with
  | none =>
    obtain ⟨transfer, made, same⟩ := bind_eq_ok.mp built
    cases same
    rw [List.nil_append, processInstructions_cons,
      processInstruction_of_reads (sdk.read_transferChecked _ _ _ _ _ _ _ (mapError_eq_ok.mp made))]
    exact Option.bind_fun_some _
  | some owner =>
    obtain ⟨transfer, made, same⟩ := bind_eq_ok.mp built
    cases same
    rw [List.nil_append, List.cons_append, processInstructions_cons, processInstruction_of_reads (sdk.read_createAssociated ..)]
    congr 1
    funext ready
    rw [List.nil_append, processInstructions_cons,
      processInstruction_of_reads (sdk.read_transferChecked _ _ _ _ _ _ _ (mapError_eq_ok.mp made))]
    exact Option.bind_fun_some _

/-- Preparing a transfer changes no balance. -/
structure Prepared (sdk : TokenSdk) (ledger ready : Ledger) (destination mint : Pubkey) (recipient : Option Pubkey) : Prop where
  mints : mintAt sdk ready = mintAt sdk ledger
  others : ∀ address, address ≠ destination → accountAt sdk ready address = accountAt sdk ledger address
  balance : balanceAt sdk ready destination = balanceAt sdk ledger destination
  derived : ∀ owner, recipient = some owner → destination = (associatedTokenAddress sdk owner mint).1
  owned : ∀ owner, recipient = some owner → ∃ account, accountAt sdk ready destination = some account ∧ account.owner = owner
  frame : ∀ address, address ≠ destination → ready.accounts address = ledger.accounts address

theorem prepare_eq_some (prepared : prepare sdk ledger authority destination mint recipient = some ready) :
    Prepared sdk ledger ready destination mint recipient := by
  cases recipient with
  | none =>
    cases prepared
    exact ⟨rfl, fun _ _ => rfl, rfl, (fun _ same => by cases same), (fun _ same => by cases same), fun _ _ => rfl⟩
  | some owner =>
    obtain ⟨derived, either⟩ := createAssociated_eq_some prepared
    rcases either with ⟨same, account, found, own, _⟩ | ⟨absent, _, _, accounts, mints, frame⟩
    · subst same
      refine ⟨rfl, fun _ _ => rfl, rfl, ?_, ?_, fun _ _ => rfl⟩
      · intro other same
        cases same
        exact derived
      · intro other same
        cases same
        exact ⟨account, found, own⟩
    · refine ⟨mints, ?_, ?_, ?_, ?_, frame⟩
      · intro address different
        rw [accounts, Function.update_of_ne different]
      · rw [balanceAt, accounts, Function.update_self, balanceAt, absent]
        rfl
      · intro other same
        cases same
        exact derived
      · intro other same
        cases same
        exact ⟨_, by rw [accounts, Function.update_self], rfl⟩

/-- The amount has left the source and arrived at the destination; nothing else moved. -/
structure Moved (sdk : TokenSdk) (ledger later : Ledger) (source destination mint : Pubkey) (recipient : Option Pubkey)
    (amount : UInt64) : Prop where
  debited : balanceAt sdk later source + amount.toNat = balanceAt sdk ledger source
  credited : balanceAt sdk later destination = balanceAt sdk ledger destination + amount.toNat
  others : ∀ address, address ≠ source → address ≠ destination → accountAt sdk later address = accountAt sdk ledger address
  mints : mintAt sdk later = mintAt sdk ledger
  account : ∃ account, accountAt sdk later destination = some account ∧ account.mint = mint ∧
    ∀ owner, recipient = some owner → account.owner = owner ∧ destination = (associatedTokenAddress sdk owner mint).1

theorem balanceAt_of_account {address : Pubkey} {account : TokenAccount} (found : accountAt sdk ledger address = some account) :
    balanceAt sdk ledger address = account.amount.toNat := by
  simp only [balanceAt, found, Option.map_some, Option.getD_some]

theorem transferInstructions_moves
    (built : transferInstructions sdk source destination recipient mint authority amount decimals = .ok instructions)
    (distinct : source ≠ destination) (executed : processInstructions sdk ledger instructions = some later) :
    Moved sdk ledger later source destination mint recipient amount := by
  rw [transferInstructions_process built, Option.bind_eq_some_iff] at executed
  obtain ⟨ready, opened, transferred⟩ := executed
  have prepared := prepare_eq_some opened
  obtain ⟨same, _⟩ | ⟨_, sender, receiver, charged, rest, total, found, known, own, alike, paid, left, added, accounts, mints, frame⟩ :=
    transferChecked_eq_some transferred
  · exact absurd same distinct
  have debited : accountAt sdk later source = some { charged with amount := rest } := by
    rw [accounts, Function.update_of_ne distinct, Function.update_self]
  have credited : accountAt sdk later destination = some { receiver with amount := total } := by
    rw [accounts, Function.update_self]
  have before : accountAt sdk ledger source = some sender := (prepared.others source distinct).symm.trans found
  refine ⟨?_, ?_, ?_, mints.trans prepared.mints, _, credited, alike, ?_⟩
  · rw [balanceAt_of_account debited, balanceAt_of_account before]
    exact left
  · rw [balanceAt_of_account credited, ← prepared.balance, balanceAt_of_account known]
    exact added
  · intro address notSource notDestination
    rw [accounts, Function.update_of_ne notDestination, Function.update_of_ne notSource]
    exact prepared.others address notDestination
  · intro owner same
    obtain ⟨account, shown, owns⟩ := prepared.owned owner same
    cases known.symm.trans shown
    exact ⟨owns, prepared.derived owner same⟩

/-- Only an allowance of its own can keep an owner from paying. -/
theorem charge_exists_iff {sender : TokenAccount} (owned : sender.owner = authority) :
    (∃ charged, charge sender authority amount = some charged) ↔
      (sender.delegate = some authority → amount ≤ sender.delegatedAmount) := by
  unfold charge
  by_cases delegated : sender.delegate = some authority
  · rw [if_pos delegated]
    constructor
    · intro paid _
      obtain ⟨charged, paid⟩ := paid
      obtain ⟨left, subtracted, _⟩ := Option.bind_eq_some_iff.mp paid
      have exact := checkedSub_eq_some.mp subtracted
      exact UInt64.le_iff_toNat_le.mpr (by omega)
    · intro allowed
      exact ⟨_, Option.bind_eq_some_iff.mpr ⟨_, if_pos (allowed delegated), rfl⟩⟩
  · rw [if_neg delegated, if_pos owned]
    exact ⟨fun _ own => absurd own delegated, fun _ => ⟨sender, rfl⟩⟩

/-- What can still fail between two accounts that were checked. -/
theorem transferChecked_exists_iff {sender receiver : TokenAccount} {state : Mint}
    (found : accountAt sdk ready source = some sender) (known : accountAt sdk ready destination = some receiver)
    (listed : mintAt sdk ready mint = some state) (sending : sender.state = .initialized)
    (receiving : receiver.state = .initialized) (own : sender.mint = mint) (alike : receiver.mint = mint)
    (owned : sender.owner = authority) (enough : amount ≤ sender.amount) (distinct : source ≠ destination) :
    (∃ later, transferChecked sdk ready source mint destination authority amount state.decimals = some later) ↔
      (sender.delegate = some authority → amount ≤ sender.delegatedAmount) ∧
      receiver.amount.toNat + amount.toNat < 2 ^ 64 ∧
      (sender.isNative.isSome = true → amount.toNat ≤ ready.lamportsAt source ∧
        ready.lamportsAt destination + amount.toNat < 2 ^ 64) := by
  have moves : sender.isNative.isSome = true → wrapped sender amount = amount.toNat := fun native => if_pos native
  constructor
  · intro executed
    obtain ⟨later, executed⟩ := executed
    simp only [transferChecked, found, known, listed, bind, Option.bind_some, Option.bind_eq_some_iff, Option.guard_eq_some',
      if_neg distinct, checkedAdd_eq_some] at executed
    obtain ⟨_, _, rest, _, charged, paid, total, added, _, funded, _⟩ := executed
    refine ⟨(charge_exists_iff owned).mp ⟨charged, paid⟩, added ▸ total.toNat_lt, ?_⟩
    intro native
    rw [← moves native]
    exact funded native
  · intro payable
    obtain ⟨allowed, fits, funded⟩ := payable
    obtain ⟨charged, paid⟩ := (charge_exists_iff owned).mpr allowed
    simp only [transferChecked, found, known, listed, bind, Option.bind_some, Option.bind_eq_some_iff, Option.guard_eq_some',
      if_neg distinct, pure, Option.some.injEq]
    refine ⟨_, (), ⟨by simp [sending], by simp [receiving], own.trans alike.symm, own, trivial⟩, _, if_pos enough, charged, paid, _,
      if_pos fits, (), ?_, rfl⟩
    intro native
    rw [moves native]
    exact funded native

/-- The lamports of an account, or those it is opened with. -/
def receivingLamports (sdk : TokenSdk) (ledger : Ledger) (destination : Pubkey) : Nat :=
  ((ledger.accounts destination).map AccountInfo.lamports).getD (sdk.minimumRent sdk.accounts.len)

/-- The account of a recipient is missing or in use. -/
def Awaits (sdk : TokenSdk) (ledger : Ledger) (destination : Pubkey) : Option Pubkey → Prop
  | none => True
  | some owner => ledger.accounts destination = none ∨
      ∃ account, accountAt sdk ledger destination = some account ∧ account.owner = owner ∧ account.state = .initialized

/-- The account to credit, as the destination of a command names it. -/
inductive Targets (sdk : TokenSdk) (ledger : Ledger) (mint : Pubkey) : Destination → Pubkey → Option Pubkey → Prop where
  | user {recipient : Pubkey} : Targets sdk ledger mint (.user recipient) (associatedTokenAddress sdk recipient mint).1 (some recipient)
  | account {destination : Pubkey} {receiver : TokenAccount} (found : accountAt sdk ledger destination = some receiver)
      (own : receiver.mint = mint) (active : receiver.state = .initialized) :
      Targets sdk ledger mint (.account destination) destination none

/-- An account that can be credited, with the balance and the lamports it had before. -/
structure Ready (sdk : TokenSdk) (ledger ready : Ledger) (destination mint : Pubkey) (receiver : TokenAccount) : Prop where
  found : accountAt sdk ready destination = some receiver
  own : receiver.mint = mint
  active : receiver.state = .initialized
  balance : receiver.amount.toNat = balanceAt sdk ledger destination
  lamports : ready.lamportsAt destination = receivingLamports sdk ledger destination

theorem Ready.of_account {receiver : TokenAccount} (found : accountAt sdk ledger destination = some receiver)
    (own : receiver.mint = mint) (active : receiver.state = .initialized) :
    Ready sdk ledger ledger destination mint receiver := by
  refine ⟨found, own, active, (balanceAt_of_account found).symm, ?_⟩
  obtain ⟨info, present, _⟩ := accountAt_eq_some.mp found
  rw [Ledger.lamportsAt, receivingLamports, present]
  rfl

/-- Once the account is there, it can be credited. -/
theorem prepare_ready {named : Destination} (targets : Targets sdk ledger mint named destination recipient)
    (awaits : Awaits sdk ledger destination recipient)
    (opened : prepare sdk ledger authority destination mint recipient = some ready) :
    (∃ receiver, Ready sdk ledger ready destination mint receiver) ∧
      ∀ account, accountAt sdk ledger destination = some account → account.mint = mint := by
  cases targets with
  | account found own active =>
    cases opened
    refine ⟨⟨_, .of_account found own active⟩, ?_⟩
    intro account again
    cases found.symm.trans again
    exact own
  | @user recipient =>
    obtain ⟨_, ⟨same, account, found, _, own⟩ | ⟨nobody, _, listed, accounts, _⟩⟩ := createAssociated_eq_some opened
    · subst same
      have active : account.state = .initialized := by
        rcases awaits with absent | ⟨other, again, _, active⟩
        · rw [accountAt, absent, Option.bind_none] at found
          cases found
        · cases found.symm.trans again
          exact active
      refine ⟨⟨account, .of_account found own active⟩, ?_⟩
      intro other again
      cases found.symm.trans again
      exact own
    · have absent : ledger.accounts (associatedTokenAddress sdk recipient mint).1 = none := by
        refine awaits.resolve_right ?_
        intro there
        obtain ⟨other, found, _⟩ := there
        cases nobody.symm.trans found
      obtain ⟨state, listed⟩ := Option.ne_none_iff_exists'.mp listed
      cases opened.symm.trans (createAssociated_absent authority rfl listed absent)
      refine ⟨⟨{ mint := mint, owner := recipient, state := .initialized }, ?_, rfl, rfl, ?_, ?_⟩, ?_⟩
      · rw [accounts, Function.update_self]
      · rw [balanceAt, nobody]
        rfl
      · simp only [Ledger.lamportsAt, openAccount, Function.update_self, Option.map_some, Option.getD_some, Nat.zero_max,
          receivingLamports, absent, Option.map_none, Option.getD_none]
      · intro other found
        cases nobody.symm.trans found

/-- Only an account of another mint can be in the way. -/
theorem prepare_some {state : Mint} {named : Destination} (authority : Pubkey)
    (targets : Targets sdk ledger mint named destination recipient) (awaits : Awaits sdk ledger destination recipient)
    (listed : mintAt sdk ledger mint = some state)
    (alike : ∀ account, accountAt sdk ledger destination = some account → account.mint = mint) :
    ∃ ready, prepare sdk ledger authority destination mint recipient = some ready := by
  cases targets with
  | account => exact ⟨ledger, rfl⟩
  | user =>
    rcases awaits with absent | ⟨account, found, owned, _⟩
    · exact ⟨_, createAssociated_absent authority rfl listed absent⟩
    · exact ⟨ledger, createAssociated_found authority rfl found ⟨owned, alike account found⟩⟩

end Instructions

/-- A transfer that the checks of a command let through on a ledger. -/
structure Transfer (sdk : TokenSdk) (ledger : Ledger) (args : TransferArgs) (authority : Pubkey) where
  mint : Pubkey
  state : Mint
  amount : UInt64
  source : Pubkey
  sender : TokenAccount
  destination : Pubkey
  recipient : Option Pubkey
  instructions : List Instruction
  named : parsePubkey args.mint "mint" = .ok mint
  listed : mintAt sdk ledger mint = some state
  parsed : Utils.parseAmount args.amount state.decimals = .ok amount
  chosen : (args.source.mapM fun value => parsePubkey value "source token account").map
    (·.getD (associatedTokenAddress sdk authority mint).1) = .ok source
  found : accountAt sdk ledger source = some sender
  own : sender.mint = mint
  owned : sender.owner = authority
  active : sender.state = .initialized
  enough : amount ≤ sender.amount
  targets : Targets sdk ledger mint args.destination destination recipient
  distinct : source ≠ destination
  built : transferInstructions sdk source destination recipient mint authority amount state.decimals = .ok instructions

namespace Transfer
variable {sdk : TokenSdk} {ledger later : Ledger} {args : TransferArgs} {authority : Pubkey}
  (transfer : Transfer sdk ledger args authority)

/-- No account of another mint is in the way. -/
def Alike : Prop := ∀ account, accountAt sdk ledger transfer.destination = some account → account.mint = transfer.mint

/-- An owner who is its own delegate spends the allowance. -/
def Allowed : Prop := transfer.sender.delegate = some authority → transfer.amount ≤ transfer.sender.delegatedAmount

/-- What the token program asks of a transfer beyond the checks. -/
structure Payable : Prop where
  alike : transfer.Alike
  allowed : transfer.Allowed
  fits : balanceAt sdk ledger transfer.destination + transfer.amount.toNat < 2 ^ 64
  funded : transfer.sender.isNative.isSome = true → transfer.amount.toNat ≤ ledger.lamportsAt transfer.source ∧
    receivingLamports sdk ledger transfer.destination + transfer.amount.toNat < 2 ^ 64

theorem moves (executed : processInstructions sdk later transfer.instructions = some final) :
    Moved sdk later final transfer.source transfer.destination transfer.mint transfer.recipient transfer.amount :=
  transferInstructions_moves transfer.built transfer.distinct executed

/-- On the ledger that was checked, a transfer succeeds whenever it is payable. -/
theorem executes_iff (awaits : Awaits sdk ledger transfer.destination transfer.recipient) :
    (∃ final, processInstructions sdk ledger transfer.instructions = some final) ↔ transfer.Payable := by
  have asks : ∀ ready receiver, prepare sdk ledger authority transfer.destination transfer.mint transfer.recipient = some ready →
      Ready sdk ledger ready transfer.destination transfer.mint receiver →
      ((∃ final, transferChecked sdk ready transfer.source transfer.mint transfer.destination authority transfer.amount
          transfer.state.decimals = some final) ↔
        (transfer.sender.delegate = some authority → transfer.amount ≤ transfer.sender.delegatedAmount) ∧
        balanceAt sdk ledger transfer.destination + transfer.amount.toNat < 2 ^ 64 ∧
        (transfer.sender.isNative.isSome = true → transfer.amount.toNat ≤ ledger.lamportsAt transfer.source ∧
          receivingLamports sdk ledger transfer.destination + transfer.amount.toNat < 2 ^ 64)) := by
    intro ready receiver opened credit
    have prepared := prepare_eq_some opened
    have kept : ready.lamportsAt transfer.source = ledger.lamportsAt transfer.source := by
      rw [Ledger.lamportsAt, prepared.frame _ transfer.distinct, Ledger.lamportsAt]
    rw [← credit.balance, ← credit.lamports, ← kept]
    exact transferChecked_exists_iff ((prepared.others _ transfer.distinct).trans transfer.found) credit.found
      ((congrFun prepared.mints _).trans transfer.listed) transfer.active credit.active transfer.own credit.own transfer.owned
      transfer.enough transfer.distinct
  rw [transferInstructions_process transfer.built]
  simp only [Option.bind_eq_some_iff]
  constructor
  · intro executed
    obtain ⟨final, ready, opened, transferred⟩ := executed
    obtain ⟨⟨receiver, credit⟩, alike⟩ := prepare_ready transfer.targets awaits opened
    obtain ⟨allowed, fits, funded⟩ := (asks ready receiver opened credit).mp ⟨final, transferred⟩
    exact ⟨alike, allowed, fits, funded⟩
  · intro payable
    obtain ⟨ready, opened⟩ := prepare_some authority transfer.targets awaits transfer.listed payable.alike
    obtain ⟨⟨receiver, credit⟩, _⟩ := prepare_ready transfer.targets awaits opened
    obtain ⟨final, transferred⟩ := (asks ready receiver opened credit).mpr ⟨payable.allowed, payable.fits, payable.funded⟩
    exact ⟨final, ready, opened, transferred⟩

/-- Between accounts of an ordinary mint only an allowance of the owner itself matters. -/
theorem payable_of_solvent (solvent : Solvent sdk transfer.mint ledger) (alike : transfer.Alike) (allowed : transfer.Allowed) :
    transfer.Payable where
  alike := alike
  allowed := allowed
  fits := by
    have together := solvent.covered.pair transfer.distinct
    have sends : holding transfer.mint (accountAt sdk ledger transfer.source) = transfer.sender.amount.toNat := by
      rw [transfer.found]
      exact if_pos transfer.own
    have receives : holding transfer.mint (accountAt sdk ledger transfer.destination) = balanceAt sdk ledger transfer.destination := by
      cases there : accountAt sdk ledger transfer.destination with
      | none =>
        rw [balanceAt, there]
        rfl
      | some account =>
        rw [balanceAt_of_account there]
        exact if_pos (alike account there)
    have bounded : supply (mintAt sdk ledger transfer.mint) < 2 ^ 64 := by
      rw [transfer.listed]
      exact transfer.state.supply.toNat_lt
    have enough := UInt64.le_iff_toNat_le.mp transfer.enough
    omega
  funded := by
    intro native
    rw [solvent.plain _ _ transfer.found transfer.own] at native
    cases native

end Transfer

section Checks
variable {address authority mint : Pubkey} {account : TokenAccount} {amount : UInt64}

theorem requireInitialized_eq_ok {state : AccountState} {label : String} :
    requireInitialized address state label = .ok () ↔ state = .initialized := by
  simp only [requireInitialized]
  split
  next active => simp [active]
  next inactive => simp [inactive]

theorem validateSource_eq_ok : validateSource address account authority mint amount = .ok () ↔
    account.mint = mint ∧ account.owner = authority ∧ account.state = .initialized ∧ amount ≤ account.amount := by
  simp only [validateSource]
  by_cases own : account.mint = mint
  · by_cases owned : account.owner = authority
    · by_cases active : account.state = .initialized
      · by_cases short : account.amount < amount
        · simp [own, owned, active, short, requireInitialized, bind, Except.bind]
        · simp [own, owned, active, short, UInt64.not_lt.mp short, requireInitialized, bind, Except.bind, pure, Except.pure]
      · simp [own, owned, active, requireInitialized, bind, Except.bind]
    · simp [own, owned, bind, Except.bind]
  · simp [own, bind, Except.bind]

theorem validateDestination_eq_ok : validateDestination address account mint = .ok () ↔
    account.mint = mint ∧ account.state = .initialized := by
  simp only [validateDestination]
  by_cases own : account.mint = mint
  · simp [own, requireInitialized_eq_ok]
  · simp [own, bind, Except.bind]

theorem requireDistinctAccounts_eq_ok {source destination : Pubkey} :
    requireDistinctAccounts source destination = .ok () ↔ source ≠ destination := by
  simp only [requireDistinctAccounts]
  split
  next different => simp [different]
  next same => simp [same]

end Checks

section Run
variable {ι : Type} {sdk : TokenSdk} {reliable : Prop} {client : ι}

/-- The instructions of a transfer that was checked for the signer of the command. -/
def Requested (sdk : TokenSdk) (reliable : Prop) (client : ι) (shell : Shell) (args : TransferArgs) (world : World ι)
    (instructions : List Instruction) : Prop :=
  ∃ signer, Executes (Serves sdk reliable client) (args.signer.resolve sdk.toSigningSdk shell "token-transfer" "transfer key")
      world (.ok signer) world ∧
    ∃ transfer : Transfer sdk world.ledger args signer.pubkey, transfer.instructions = instructions

theorem resolveDestination_ensures (mint : Pubkey) (named : Destination) (world : World ι) :
    Ensures (Serves sdk reliable client) (resolveDestination sdk mint named) (fun outcome after => after = world ∧
      ∀ target, outcome = .ok target → Targets sdk world.ledger mint named target.1 target.2) world := by
  cases named with
  | user recipient =>
    refine ⟨rfl, ?_⟩
    intro target same
    cases same
    exact .user
  | account destination =>
    apply Ensures.still_bind (readTokenAccountState_ensures destination) _ (fun error _ => ⟨rfl, fun _ same => by cases same⟩)
    intro receiver found
    apply Ensures.ofExcept_bind _ (fun error _ => ⟨rfl, fun _ same => by cases same⟩)
    intro _ valid
    obtain ⟨own, active⟩ := validateDestination_eq_ok.mp valid
    refine ⟨rfl, ?_⟩
    intro target same
    cases same
    exact .account (found receiver rfl) own active

theorem run_ensures (shell : Shell) (args : TransferArgs) (world : World ι) :
    Ensures (Serves sdk reliable client) (run sdk shell args)
      (SubmitsAtMost sdk reliable client (Requested sdk reliable client shell args world) world) world := by
  have unsent : ∀ error, SubmitsAtMost sdk reliable client (Requested sdk reliable client shell args world) world
      (.error error : Except CliError Unit) world := fun error => .inl ⟨rfl, error, rfl⟩
  have resolves : Ensures (Serves sdk reliable client)
      (args.signer.resolve sdk.toSigningSdk shell "token-transfer" "transfer key") (fun outcome after => after = world ∧
        Executes (Serves sdk reliable client) (args.signer.resolve sdk.toSigningSdk shell "token-transfer" "transfer key")
          world outcome world) world := by
    apply ensures_iff.mpr
    intro outcome after executed
    have same := ensures_iff.mp (silent_ensures (args.signer.resolve_silent ..) world) _ _ executed
    exact ⟨same, same ▸ executed⟩
  apply Ensures.still_bind resolves _ (fun error _ => unsent error)
  intro signer resolved
  apply Ensures.ofExcept_bind _ (fun error _ => unsent error)
  intro mintAddress named
  apply Ensures.still_bind (readMint_ensures mintAddress) _ (fun error _ => unsent error)
  intro mint known
  have listed := known mint rfl
  have unready : (!mint.state.isInitialized) = false := by rw [mintAt_initialized listed, Bool.not_true]
  simp only [unready, Bool.false_eq_true, if_false]
  apply Ensures.ofExcept_bind _ (fun error _ => unsent error)
  intro amount parsed
  apply Ensures.ofExcept_bind _ (fun error _ => unsent error)
  intro given chosen
  apply Ensures.still_bind (readTokenAccountState_ensures _) _ (fun error _ => unsent error)
  intro sender found
  apply Ensures.ofExcept_bind _ (fun error _ => unsent error)
  intro _ valid
  obtain ⟨own, owned, active, enough⟩ := validateSource_eq_ok.mp valid
  apply Ensures.still_bind (resolveDestination_ensures mintAddress args.destination world) _ (fun error _ => unsent error)
  intro target targets
  obtain ⟨destination, recipient⟩ := target
  apply Ensures.ofExcept_bind _ (fun error _ => unsent error)
  intro _ different
  apply Ensures.ofExcept_bind _ (fun error _ => unsent error)
  intro instructions built
  let transfer : Transfer sdk world.ledger args signer.pubkey := {
    mint := mintAddress, state := mint.state, amount, source := given.getD (associatedTokenAddress sdk signer.pubkey mintAddress).1
    sender, destination, recipient, instructions, named, listed, parsed, own, owned, active, enough, built
    chosen := by rw [chosen]; rfl
    found := found sender rfl
    targets := targets (destination, recipient) rfl
    distinct := requireDistinctAccounts_eq_ok.mp different }
  exact sendAndConfirm_last "token transfer" signer.pubkey [signer] world ⟨signer, resolved, transfer, rfl⟩

/-- One invocation of `token-transfer` or `token-transfer-to-account`. -/
inductive Command where
  | toUser (args : UserArgs)
  | toAccount (args : AccountArgs)

def Command.run (sdk : TokenSdk) (shell : Shell) : Command → Cli Unit
  | .toUser args => runToUser sdk shell args
  | .toAccount args => runToAccount sdk shell args

inductive Command.Asks : Command → TransferArgs → Prop where
  | toUser {args : UserArgs} {recipient : Pubkey} (parsed : parsePubkey args.recipient "recipient" = .ok recipient) :
      Asks (.toUser args) ⟨.user recipient, args.mint, args.amount, args.signer, args.source⟩
  | toAccount {args : AccountArgs} {destination : Pubkey}
      (parsed : parsePubkey args.destination "destination token account" = .ok destination) :
      Asks (.toAccount args) ⟨.account destination, args.mint, args.amount, args.signer, args.source⟩

theorem Command.run_ensures (shell : Shell) (command : Command) (world : World ι) :
    Ensures (Serves sdk reliable client) (command.run sdk shell) (fun outcome after =>
      (after = world ∧ ∃ error, outcome = .error error) ∨ ∃ args, command.Asks args ∧
        SubmitsAtMost sdk reliable client (Requested sdk reliable client shell args world) world outcome after) world := by
  cases command with
  | toUser args =>
    apply Ensures.ofExcept_bind _ (fun error _ => .inl ⟨rfl, error, rfl⟩)
    intro recipient parsed
    exact (TokenTransfer.run_ensures shell _ world).mono fun outcome after submits => .inr ⟨_, .toUser parsed, submits⟩
  | toAccount args =>
    apply Ensures.ofExcept_bind _ (fun error _ => .inl ⟨rfl, error, rfl⟩)
    intro destination parsed
    exact (TokenTransfer.run_ensures shell _ world).mono fun outcome after submits => .inr ⟨_, .toAccount parsed, submits⟩

end Run

/-- A command submits nothing or one transfer that was checked; executed on any ledger,
the transfer moves its amount or fails. -/
theorem transfer_exact {ι : Type} (sdk : TokenSdk) (reliable : Prop) (client : ι) (shell : Shell) (command : Command)
    (world after : World ι) (outcome : Except CliError Unit)
    (executed : Executes (Serves sdk reliable client) (command.run sdk shell) world outcome after) :
    (after = world ∧ ∃ error, outcome = .error error) ∨
    ∃ args signer, command.Asks args ∧
      Executes (Serves sdk reliable client) (args.signer.resolve sdk.toSigningSdk shell "token-transfer" "transfer key")
        world (.ok signer) world ∧
      ∃ transfer : Transfer sdk world.ledger args signer.pubkey, transfer.state.isInitialized = true ∧
        Submits sdk reliable client transfer.instructions world outcome after ∧
        (∀ later final, processInstructions sdk later transfer.instructions = some final →
          Moved sdk later final transfer.source transfer.destination transfer.mint transfer.recipient transfer.amount) ∧
        (Awaits sdk world.ledger transfer.destination transfer.recipient →
          ((∃ final, processInstructions sdk world.ledger transfer.instructions = some final) ↔ transfer.Payable)) ∧
        (Solvent sdk transfer.mint world.ledger → transfer.Alike → transfer.Allowed → transfer.Payable) := by
  rcases ensures_iff.mp (Command.run_ensures shell command world) _ _ executed with unsent | ⟨args, asks, submits⟩
  · exact .inl unsent
  rcases submits with unsent | ⟨instructions, requested, submitted⟩
  · exact .inl unsent
  obtain ⟨signer, resolved, transfer, same⟩ := requested
  subst same
  exact .inr ⟨args, signer, asks, resolved, transfer, mintAt_initialized transfer.listed, submitted,
    fun later final => transfer.moves, transfer.executes_iff, transfer.payable_of_solvent⟩

namespace Example
open Reference

def mint : Pubkey := .fromSlice (List.replicate 32 1)

def recipient : Pubkey := .fromSlice (List.replicate 32 2)

def authority : Pubkey := publicKey authorityKeypair

def holder : Pubkey := .fromSlice (List.replicate 32 9)

def receiver : Pubkey := .fromSlice (List.replicate 32 8)

def signature : Signature := ⟨List.replicate 64 2, List.length_replicate⟩

def tokens : TokenPrograms := programs fun owner _ => (if owner = authority then holder else receiver, 255)

/-- The authority holds two tokens of six decimals. -/
def start : World Unit :=
  ⟨⟨fun address =>
      if address = mint then some ⟨1500000, tokens.token, tokens.sdk.mints.pack ⟨none, 2000000, 6, true, none⟩, false⟩
      else if address = holder then some ⟨2000000, tokens.token, tokens.sdk.accounts.pack
        { mint, owner := authority, amount := 2000000, state := .initialized }, false⟩
      else none,
    fun _ => 0⟩, [], []⟩

def shell : Shell := ⟨.bitcoin, fun _ => none⟩

def paid : Command := .toUser ⟨toString recipient, toString mint, "1.5", .file ⟨utf8 "transfer.key"⟩, none⟩

/-- A node that executes what it is sent, and a key file with the secret of the authority. -/
def respond (_ : Unit) (world : World Unit) (operation : Request) : Option (operation.Reply × World Unit) :=
  match operation with
  | .isFile _ => some (true, world)
  | .read _ => some (.ok (utf8 (Keys.encodedSecret authorityKeypair)), world)
  | .readAccountInfo address => (world.ledger.accounts address).map fun info => (.ok info, world)
  | .getBestFinalizedBlockHash => some (.ok ⟨0⟩, world)
  | .signMessageBip322 .. => some (.ok signature, world)
  | .sendTransaction transaction =>
    (processInstructions tokens.sdk world.ledger transaction.message.instructions).map fun ledger =>
      (.ok world.nextId, world.commit () transaction ledger)
  | .waitForProcessedTransaction id => (world.log[id.number]?).map fun entry => (.ok ⟨entry.status⟩, world)
  | _ => none

theorem respond_serves {choice : Unit} {before after : World Unit} {operation : Request} {reply : operation.Reply}
    (responded : respond choice before operation = some (reply, after)) :
    Serves tokens.sdk True () before operation reply after := by
  cases operation with
  | readAccountInfo address =>
    obtain ⟨info, present, same⟩ := Option.map_eq_some_iff.mp responded
    cases same
    exact ⟨rfl, present⟩
  | sendTransaction transaction =>
    obtain ⟨ledger, done, same⟩ := Option.map_eq_some_iff.mp responded
    cases same
    exact .inr ⟨.inl rfl, .inl ⟨ledger, done, rfl⟩⟩
  | waitForProcessedTransaction id =>
    obtain ⟨entry, recorded, same⟩ := Option.map_eq_some_iff.mp responded
    cases same
    exact ⟨rfl, .inl ⟨entry, recorded, rfl⟩⟩
  | isFile | read | getBestFinalizedBlockHash | signMessageBip322 => cases responded; rfl
  | _ => cases responded

end Example

open Example in
theorem transfer_exact_paid : ∃ after args,
    Executes (Serves tokens.sdk True ()) (paid.run tokens.sdk shell) start (.ok ()) after ∧
    balanceAt tokens.sdk after.ledger holder = 500000 ∧ balanceAt tokens.sdk after.ledger receiver = 1500000 ∧
    paid.Asks args ∧ ∃ (payer : Pubkey) (transfer : Transfer tokens.sdk start.ledger args payer),
      Moved tokens.sdk start.ledger after.ledger transfer.source transfer.destination transfer.mint transfer.recipient
        transfer.amount := by
  have observed : (Program.follow respond (List.replicate 8 ()) (ExceptT.run (paid.run tokens.sdk shell)) start).map
      (fun (left, after) => (left.value?, balanceAt tokens.sdk after.ledger holder, balanceAt tokens.sdk after.ledger receiver)) =
      some (some (.ok ()), 500000, 1500000) := by
    decide +kernel
  obtain ⟨⟨left, after⟩, followed, shown⟩ := Option.map_eq_some_iff.mp observed
  simp only [Prod.mk.injEq] at shown
  obtain ⟨finished, held, received⟩ := shown
  have done := Program.value?_eq_some.mp finished
  subst done
  have executed : Executes (Serves tokens.sdk True ()) (paid.run tokens.sdk shell) start (.ok ()) after :=
    Program.follow_executes (fun _ _ _ _ _ => respond_serves) followed
  rcases transfer_exact tokens.sdk True () shell paid start after (.ok ()) executed with
    ⟨_, error, failed⟩ | ⟨args, signer, asks, _, transfer, _, submitted, moved, _⟩
  · cases failed
  cases submitted with
  | executed carries executes learns =>
    exact ⟨_, args, executed, held, received, asks, signer.pubkey, transfer, moved _ _ executes⟩

end ArchKit.TokenTransfer
