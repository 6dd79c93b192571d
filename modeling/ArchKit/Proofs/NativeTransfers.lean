import ArchKit.Books
import ArchKit.Proofs.AnyReplies
import ArchKit.Proofs.SharedChain

/-! Transfers of the native currency: what is checked before one is sent is what the chain
asks for, and transfers of any number of users at once leave every address with what it
had, what it received and not what it paid. -/

namespace ArchKit
open Books Effects Fallible Transaction

namespace SystemProgram
variable {sdk : NativeSdk} {ledger later : Ledger} {source destination : Pubkey} {amount : UInt64} {feePerSignature : Nat}
  {transaction : RuntimeTransaction}

/-- An address that can be credited. -/
def Receives (ledger : Ledger) (destination : Pubkey) (amount : Nat) : Prop :=
  ∀ receiver, ledger.accounts destination = some receiver → receiver.lamports + amount < 2 ^ 64

/-- The account that a credit leaves. -/
def credited (sdk : NativeSdk) (amount : Nat) : Option AccountInfo → AccountInfo
  | none => ⟨amount, sdk.systemProgram, [], false⟩
  | some receiver => { receiver with lamports := receiver.lamports + amount }

theorem credit_eq_some : credit sdk ledger destination amount.toNat = some later ↔
    Receives ledger destination amount.toNat ∧
      later = ledger.store destination (credited sdk amount.toNat (ledger.accounts destination)) := by
  unfold credit Receives
  cases ledger.accounts destination with
  | none => simp [credited, eq_comm]
  | some receiver => simp [credited, eq_comm]

theorem debit_eq_some {payer : Pubkey} {lamports : Nat} : debit ledger payer lamports = some later ↔
    ∃ sender, ledger.accounts payer = some sender ∧ lamports ≤ sender.lamports ∧
      later = ledger.store payer { sender with lamports := sender.lamports - lamports } := by
  unfold debit
  cases ledger.accounts payer with
  | none => simp
  | some sender => simp [eq_comm]

/-- A transaction that is a transfer and nothing else. -/
def Pays (sdk : NativeSdk) (source destination : Pubkey) (amount : UInt64) (transaction : RuntimeTransaction) : Prop :=
  ∃ blockhash, transaction.message = .new sdk.toSdk [sdk.transfer source destination amount] (some source) blockhash

theorem process_transfer (pays : Pays sdk source destination amount transaction) :
    process sdk feePerSignature ledger transaction =
      (debit ledger source feePerSignature).bind fun charged => transfer sdk charged source destination amount.toNat := by
  obtain ⟨blockhash, same⟩ := pays
  have charges : chargeFee ledger feePerSignature transaction.message = debit ledger source feePerSignature := by
    rw [same, chargeFee, ArchMessage.new, sdk.transfer_payer, sdk.transfer_signers, Nat.mul_one]
    rfl
  have instruct (charged : Ledger) : transaction.message.instructions.foldlM (processInstruction sdk) charged =
      transfer sdk charged source destination amount.toNat := by
    rw [same]
    change (processInstruction sdk charged (sdk.transfer source destination amount)).bind some = _
    rw [Option.bind_fun_some, processInstruction, sdk.readTransfer_transfer]
    rfl
  rw [process, charges]
  simp only [instruct]
  rfl

/-- A wallet that covers an amount and a fee. -/
def Covers (sdk : NativeSdk) (ledger : Ledger) (source : Pubkey) (total : Nat) : Prop :=
  ∃ sender, ledger.accounts source = some sender ∧ Wallet sdk sender ∧ total ≤ sender.lamports

/-- Two accounts have other lamports, one of which may be new. -/
structure Transferred (sdk : NativeSdk) (ledger later : Ledger) (source destination : Pubkey) (amount fee : Nat) : Prop where
  paid : ∃ sender, ledger.accounts source = some sender ∧ amount + fee ≤ sender.lamports ∧
    later.accounts source = some { sender with lamports := sender.lamports - (amount + fee) }
  received : later.accounts destination = some (credited sdk amount (ledger.accounts destination))
  frame : ∀ address, address ≠ source → address ≠ destination → later.accounts address = ledger.accounts address

theorem process_transferred (pays : Pays sdk source destination amount transaction) (distinct : source ≠ destination)
    (executed : process sdk feePerSignature ledger transaction = some later) :
    Covers sdk ledger source (amount.toNat + feePerSignature) ∧ Receives ledger destination amount.toNat ∧
      Transferred sdk ledger later source destination amount.toNat feePerSignature := by
  rw [process_transfer pays] at executed
  obtain ⟨charged, first, rest⟩ := Option.bind_eq_some_iff.mp executed
  obtain ⟨sender, present, fee, same⟩ := debit_eq_some.mp first
  subst same
  simp only [transfer, bind, Option.bind_eq_some_iff, Option.guard_eq_some'] at rest
  obtain ⟨again, found, _, wallet, paid, second, credits⟩ := rest
  rw [Ledger.store_self] at found
  cases found
  obtain ⟨_, found, enough, same⟩ := debit_eq_some.mp second
  rw [Ledger.store_self] at found
  cases found
  rw [Ledger.store_store] at same
  subst same
  obtain ⟨room, same⟩ := credit_eq_some.mp credits
  subst same
  have apart : destination ≠ source := distinct.symm
  simp only at enough
  have others : (ledger.store source { sender with lamports := sender.lamports - feePerSignature - amount.toNat }).accounts destination =
      ledger.accounts destination := Ledger.store_ne _ _ apart
  refine ⟨⟨sender, present, wallet, by omega⟩, ?_, ⟨sender, present, by omega, ?_⟩, ?_, ?_⟩
  · intro receiver shown
    exact room receiver (others.trans shown)
  · rw [Ledger.store_ne _ _ distinct, Ledger.store_self, Nat.sub_sub, Nat.add_comm feePerSignature]
  · rw [Ledger.store_self, others]
  · intro address notSource notDestination
    rw [Ledger.store_ne _ _ notDestination, Ledger.store_ne _ _ notSource]

/-- What was checked is all that the chain asks for. -/
theorem process_covered (pays : Pays sdk source destination amount transaction) (distinct : source ≠ destination)
    (covers : Covers sdk ledger source (amount.toNat + feePerSignature)) (receives : Receives ledger destination amount.toNat) :
    ∃ later, process sdk feePerSignature ledger transaction = some later := by
  obtain ⟨sender, present, wallet, enough⟩ := covers
  have apart : destination ≠ source := distinct.symm
  rw [process_transfer pays]
  simp only [Option.bind_eq_some_iff, debit_eq_some, transfer, bind, Option.guard_eq_some', credit_eq_some]
  refine ⟨_, _, ⟨sender, present, by omega, rfl⟩, _, Ledger.store_self .., (), wallet, _,
    ⟨_, Ledger.store_self .., by simp only; omega, rfl⟩, ?_, rfl⟩
  intro receiver shown
  rw [Ledger.store_ne _ _ apart, Ledger.store_ne _ _ apart] at shown
  exact receives receiver shown

end SystemProgram

/-- A transfer of the native currency that was executed. -/
structure Payment where
  source : Pubkey
  destination : Pubkey
  amount : UInt64

/-- The fee leaves the books, and the amount moves. -/
def Payment.moves (fee : Nat) (payment : Payment) : List (Move Pubkey) :=
  [⟨some payment.source, none, fee⟩, ⟨some payment.source, some payment.destination, payment.amount.toNat⟩]

open SystemProgram

section Settlement
variable {sdk : NativeSdk} {ledger middle later : Ledger} {fee : Nat} {payment : Payment} {payments : List Payment}

theorem lamportsAt_of_account {address : Pubkey} {account : AccountInfo} (present : ledger.accounts address = some account) :
    ledger.lamportsAt address = account.lamports := by
  rw [Ledger.lamportsAt, present]
  rfl

theorem lamportsAt_congr {address : Pubkey} (same : later.accounts address = ledger.accounts address) :
    later.lamportsAt address = ledger.lamportsAt address := by
  rw [Ledger.lamportsAt, same]
  rfl

/-- The lamports of an account that was credited. -/
theorem credited_lamports (amount : Nat) (address : Pubkey) :
    (credited sdk amount (ledger.accounts address)).lamports = ledger.lamportsAt address + amount := by
  rw [Ledger.lamportsAt]
  cases ledger.accounts address with
  | none => exact (Nat.zero_add amount).symm
  | some receiver => rfl

theorem SystemProgram.Transferred.balanced
    (transferred : Transferred sdk ledger later payment.source payment.destination payment.amount.toNat fee)
    (distinct : payment.source ≠ payment.destination) : Balanced ledger.lamportsAt later.lamportsAt (payment.moves fee) := by
  obtain ⟨sender, present, enough, debited⟩ := transferred.paid
  have before := lamportsAt_of_account present
  have after := lamportsAt_of_account debited
  have received := (lamportsAt_of_account transferred.received).trans (credited_lamports _ _)
  intro key
  have debits : debits (payment.moves fee) key = if payment.source = key then fee + payment.amount.toNat else 0 := by
    by_cases same : payment.source = key <;> simp [Payment.moves, Books.debits, same]
  have credits : credits (payment.moves fee) key = if payment.destination = key then payment.amount.toNat else 0 := by
    by_cases same : payment.destination = key <;> simp [Payment.moves, Books.credits, same]
  rw [debits, credits]
  by_cases pays : payment.source = key
  · subst pays
    simp only at after
    rw [if_pos rfl, if_neg distinct.symm, before, after]
    omega
  · by_cases takes : payment.destination = key
    · subst takes
      rw [if_neg pays, if_pos rfl, received, Nat.add_zero]
    · rw [if_neg pays, if_neg takes, lamportsAt_congr (transferred.frame key (Ne.symm pays) (Ne.symm takes))]

/-- Payments are all that has happened to a ledger. -/
structure Settled (sdk : NativeSdk) (fee : Nat) (ledger later : Ledger) (payments : List Payment) : Prop where
  lamports : Balanced ledger.lamportsAt later.lamportsAt (payments.flatMap (Payment.moves fee))
  kept : ∀ address account, ledger.accounts address = some account →
    ∃ lamports, later.accounts address = some { account with lamports := lamports }
  opened : ∀ address account, ledger.accounts address = none → later.accounts address = some account →
    Wallet sdk account ∧ account.isExecutable = false
  frame : ∀ address, (∀ payment ∈ payments, payment.source ≠ address ∧ payment.destination ≠ address) →
    later.accounts address = ledger.accounts address

theorem Settled.refl (sdk : NativeSdk) (fee : Nat) (ledger : Ledger) : Settled sdk fee ledger ledger [] where
  lamports := .refl _
  kept := fun _ account present => ⟨account.lamports, present⟩
  opened := fun _ _ absent present => by cases absent.symm.trans present
  frame := fun _ _ => rfl

theorem SystemProgram.Transferred.settled
    (transferred : Transferred sdk ledger middle payment.source payment.destination payment.amount.toNat fee)
    (distinct : payment.source ≠ payment.destination) (rest : Settled sdk fee middle later payments) :
    Settled sdk fee ledger later (payment :: payments) where
  lamports := (transferred.balanced distinct).trans rest.lamports
  kept := by
    intro address account present
    by_cases pays : address = payment.source
    · obtain ⟨sender, own, _, debited⟩ := transferred.paid
      rw [pays] at present ⊢
      cases own.symm.trans present
      obtain ⟨lamports, shown⟩ := rest.kept _ _ debited
      exact ⟨lamports, shown⟩
    · by_cases takes : address = payment.destination
      · have credits := transferred.received
        rw [takes] at present ⊢
        rw [present] at credits
        obtain ⟨lamports, shown⟩ := rest.kept _ _ credits
        exact ⟨lamports, shown⟩
      · exact rest.kept _ _ ((transferred.frame address pays takes).trans present)
  opened := by
    intro address account absent present
    by_cases takes : address = payment.destination
    · have credits := transferred.received
      rw [takes] at absent present
      rw [absent] at credits
      obtain ⟨lamports, shown⟩ := rest.kept _ _ credits
      cases shown.symm.trans present
      exact ⟨⟨rfl, rfl⟩, rfl⟩
    · have pays : address ≠ payment.source := by
        intro same
        obtain ⟨sender, own, _⟩ := transferred.paid
        rw [same] at absent
        cases absent.symm.trans own
      exact rest.opened address account ((transferred.frame address pays takes).trans absent) present
  frame := by
    intro address untouched
    obtain ⟨notSource, notDestination⟩ := untouched payment List.mem_cons_self
    have others := rest.frame address fun other member => untouched other (List.mem_cons_of_mem _ member)
    exact others.trans (transferred.frame address (Ne.symm notSource) (Ne.symm notDestination))

end Settlement

/-- What the command line says of a payment. -/
structure TransferArch.Orders (args : Args) (payment : Payment) : Prop where
  named : Token.parsePubkey args.destination "destination" = .ok payment.destination
  parsed : Utils.parseAmount args.amount archDecimals = .ok payment.amount
  distinct : payment.source ≠ payment.destination

/-- At every moment each address has what it had at the start, what the executed commands
paid to it and not what they paid from it, fees included. Each command was executed at
most once; one that reported success was executed, and where replies can be trusted one
that reported an error was not. -/
theorem TransferArch.lamports_accounted {ι : Type} [DecidableEq ι] (sdk : ToolSdk) (feePerSignature : Nat) (reliable : Prop) (shell : ι → Shell)
    (args : ι → Args) (start : World ι) (system : System api ι (World ι) (Except CommandError Unit))
    (reached : System.Reaches (Node.Serves (process sdk.toNativeSdk feePerSignature) reliable)
      ⟨start, fun client => ExceptT.run (TransferArch.run sdk.toNativeSdk (shell client) (args client))⟩ system) :
    ∃ payments : List (ι × Payment), (payments.map Prod.fst).Nodup ∧
      (∀ paid ∈ payments, Orders (args paid.1) paid.2) ∧
      (∀ client, system.clients client = .pure (.ok ()) → client ∈ payments.map Prod.fst) ∧
      (reliable → ∀ client error, system.clients client = .pure (.error error) → client ∉ payments.map Prod.fst) ∧
      Settled sdk.toNativeSdk feePerSignature start.ledger system.state.ledger (payments.map Prod.snd) := by
  let submission client := Submission.transferArch (args client)
  have commands : System.Reaches (Node.Serves (process sdk.toNativeSdk feePerSignature) reliable)
      ⟨start, fun client => ExceptT.run ((submission client).run sdk (shell client))⟩ system := reached
  obtain ⟨seen, recorded, settles, ends⟩ := Submission.settles commands
  obtain ⟨payments, senders, orders, settled⟩ := Node.replay_collects (fun client => (submission client).Describes sdk)
    (fun client _ payment => Orders (args client) payment) (Settled sdk.toNativeSdk feePerSignature) (Settled.refl _ _)
    (by
      intro client transaction before after final payments described executed remaining
      cases described with
      | transferArch asked carries =>
        have pays : Pays sdk.toNativeSdk asked.source asked.destination asked.amount transaction := carries
        obtain ⟨_, _, transferred⟩ := process_transferred pays asked.distinct executed
        exact ⟨⟨asked.source, asked.destination, asked.amount⟩, ⟨asked.named, asked.parsed, asked.distinct⟩,
          transferred.settled asked.distinct remaining⟩
      | transfer requests => cases requests)
    settles.describes settles.replays
  have outcomes := settles.senders ends
  rw [← senders] at outcomes
  obtain ⟨once, succeeded, failed⟩ := outcomes
  exact ⟨payments, once, orders, fun client => succeeded client (), failed, settled⟩

namespace TransferArch.Example
open Reference Submission.Example

def payer : Pubkey := publicKey authorityKeypair

def payee : Pubkey := .fromSlice (List.replicate 32 2)

/-- Two transfers from one account, which covers both and the fees. -/
def transfers (client : Bool) : Args := ⟨toString payee, if client then "1" else "0.5", .file ⟨utf8 "transfer.key"⟩⟩

def wallet : World Bool :=
  ⟨⟨fun address => if address = payer then some ⟨1500010000, tools.systemProgram, [], false⟩ else none, fun _ => 0⟩, [], []⟩

def running : System api Bool (World Bool) (Except CommandError Unit) :=
  ⟨wallet, fun client => ExceptT.run (TransferArch.run tools.toNativeSdk TokenTransfer.Example.shell (transfers client))⟩

def turns : List (Bool × Unit) :=
  List.replicate 5 (true, ()) ++ List.replicate 6 (false, ()) ++ [(true, ()), (true, ()), (false, ())]

end TransferArch.Example

open TransferArch.Example Submission.Example in
theorem TransferArch.lamports_accounted_played : ∃ (final : System api Bool (World Bool) (Except CommandError Unit)) (payments : List (Bool × Payment)),
    final.state.ledger.lamportsAt payer = 0 ∧ final.state.ledger.lamportsAt payee = 1500000000 ∧
    true ∈ payments.map Prod.fst ∧ false ∈ payments.map Prod.fst ∧
    Settled tools.toNativeSdk 5000 wallet.ledger final.state.ledger (payments.map Prod.snd) := by
  have observed : (System.play (fun client _ world operation =>
      Node.respond (process tools.toNativeSdk 5000) desk client world operation) turns running).map
      (fun final => (success? (final.clients false), success? (final.clients true), final.state.ledger.lamportsAt payer,
        final.state.ledger.lamportsAt payee)) = some (some true, some true, 0, 1500000000) := by
    decide +kernel
  obtain ⟨final, played, shown⟩ := Option.map_eq_some_iff.mp observed
  simp only [Prod.mk.injEq] at shown
  obtain ⟨second, done, succeeded⟩ := success?_eq_some shown.1
  obtain ⟨first, finished, also⟩ := success?_eq_some shown.2.1
  have reached : System.Reaches (Node.Serves (process tools.toNativeSdk 5000) True) running final :=
    System.play_reaches (fun _ _ _ _ _ _ answered => Node.respond_serves answered) turns running final played
  obtain ⟨payments, _, _, returned, _, settled⟩ :=
    lamports_accounted tools 5000 True (fun _ => TokenTransfer.Example.shell) transfers wallet final reached
  cases first with
  | error error => cases also
  | ok value =>
    cases second with
    | error error => cases succeeded
    | ok value =>
      exact ⟨final, payments, shown.2.2.1, shown.2.2.2, returned true finished, returned false done, settled⟩

namespace TransferArch
variable {sdk : NativeSdk} {address : Pubkey} {account : AccountInfo} {amount required : UInt64}

theorem validateSourceAccount_eq_ok : validateSourceAccount sdk address account required = .ok () ↔
    account.owner = sdk.systemProgram ∧ account.data = [] ∧ account.isExecutable = false ∧ required.toNat ≤ account.lamports := by
  simp only [validateSourceAccount]
  by_cases own : account.owner = sdk.systemProgram
  · by_cases empty : account.data = []
    · cases account.isExecutable with
      | true => simp [own, empty, bind, Except.bind]
      | false =>
        by_cases short : account.lamports < required.toNat
        · simp [own, empty, short, Nat.not_le.mpr short]
        · simp [own, empty, short, pure, Except.pure, Nat.not_lt.mp short]
    · simp [own, empty, bind, Except.bind]
  · simp [own, bind, Except.bind]

theorem requiredBalance_ok (made : requiredBalance amount = .ok required) :
    required.toNat = amount.toNat + baseFeePerSignature.toNat := by
  unfold requiredBalance at made
  split at made
  next total added =>
    cases made
    exact checkedAdd_eq_some.mp added
  next => cases made

theorem requireDistinctAccounts_eq_ok {source destination : Pubkey} : requireDistinctAccounts source destination = .ok () ↔
    source ≠ destination := by
  simp only [requireDistinctAccounts]
  split
  next different => simp [different]
  next same => simp [same]

/-- The transaction pays what is ordered out of an account that was shown to cover it. -/
def Backed (sdk : NativeSdk) (args : Args) (past : List (Exchange api)) (transaction : RuntimeTransaction) : Prop :=
  ∃ (payment : Payment) (account : AccountInfo), Orders args payment ∧
    ⟨.readAccountInfo payment.source, .ok account⟩ ∈ past ∧ Wallet sdk account ∧ account.isExecutable = false ∧
    payment.amount.toNat + baseFeePerSignature.toNat ≤ account.lamports ∧
    Pays sdk payment.source payment.destination payment.amount transaction

theorem run_cautious (sdk : NativeSdk) (shell : Shell) (args : Args) :
    Keeps (cautious (Backed sdk args)) (fun _ _ => True) (run sdk shell args) [] := by
  apply Keeps.remembered (SignerSource.resolve_silent ..).wrap (fun _ _ quiet => cautious_allows quiet) _ (fun _ _ _ => trivial)
  intro signer more quiet
  apply Keeps.ofExcept _ (fun _ _ => trivial)
  intro destination named
  apply Keeps.ofExcept _ (fun _ _ => trivial)
  intro _ distinct
  apply Keeps.ofExcept _ (fun _ _ => trivial)
  intro amount parsed
  generalize sum : requiredBalance amount = outcome
  apply Keeps.ofExcept _ (fun _ _ => trivial)
  intro required covered
  rw [covered] at sum
  refine ⟨trivial, ?_⟩
  intro reply
  cases reply with
  | error error => trivial
  | ok account =>
    change Keeps (cautious (Backed sdk args)) _ (do
      Fallible.ofExcept (validateSourceAccount sdk signer.pubkey account required)
      let instruction := transferInstruction sdk signer.pubkey destination amount
      let _ ← (sendAndConfirm "native ARCH transfer" [instruction] signer.pubkey [signer]).wrap CommandError.cli)
      ([] ++ more ++ [⟨.readAccountInfo signer.pubkey, .ok account⟩])
    generalize checked : validateSourceAccount sdk signer.pubkey account required = valid
    apply Keeps.ofExcept _ (fun _ _ => trivial)
    intro passed same
    rw [same] at checked
    obtain ⟨own, empty, inert, enough⟩ := validateSourceAccount_eq_ok.mp checked
    have unsent : submitted ([] ++ more ++ [⟨.readAccountInfo signer.pubkey, .ok account⟩]) = [] := by
      rw [submitted_append, List.nil_append, submitted_silent quiet]
      rfl
    have orders : Orders args ⟨signer.pubkey, destination, amount⟩ :=
      ⟨wrapError_eq_ok.mp named, wrapError_eq_ok.mp parsed, requireDistinctAccounts_eq_ok.mp distinct⟩
    have sends : Keeps (cautious (Backed sdk args)) (fun _ _ => True)
        (sendAndConfirm "native ARCH transfer" [transferInstruction sdk signer.pubkey destination amount] signer.pubkey [signer])
        ([] ++ more ++ [⟨.readAccountInfo signer.pubkey, .ok account⟩]) := by
      apply sendAndConfirm_cautious _ _ unsent
      intro later blockhash transaction carries
      refine ⟨_, account, orders, ?_, ⟨own, empty⟩, inert, ?_, blockhash, carries⟩
      · exact List.mem_append_left _ (List.mem_append_right _ (List.mem_singleton_self _))
      · rw [← requiredBalance_ok sum]
        exact enough
    rw [keeps_bind, keeps_wrap]
    apply sends.mono
    intro seen outcome _
    cases outcome <;> trivial

end TransferArch

/-- Whatever replies the command receives, it sends at most one transaction, and only after
it was shown an account that can pay. Wherever that account is still as it was shown, the
chain executes the transaction as soon as the destination can hold the amount; and
wherever the transaction is executed, the source pays the amount and the fee, the
destination gains the amount and nobody else is concerned. -/
theorem TransferArch.covered (sdk : NativeSdk) (shell : Shell) (args : Args) (oracle : Oracle api) :
    let run := Fallible.against oracle (TransferArch.run sdk shell args)
    submitted run.1 = [] ∨ ∃ (transaction : RuntimeTransaction) (payment : Payment) (account : AccountInfo),
      submitted run.1 = [transaction] ∧ Orders args payment ∧ ⟨.readAccountInfo payment.source, .ok account⟩ ∈ run.1 ∧
      (∀ ledger : Ledger, ledger.accounts payment.source = some account →
        ((∃ later, process sdk baseFeePerSignature.toNat ledger transaction = some later) ↔
          Receives ledger payment.destination payment.amount.toNat)) ∧
      ∀ fee ledger later, process sdk fee ledger transaction = some later →
        Transferred sdk ledger later payment.source payment.destination payment.amount.toNat fee := by
  obtain ⟨admits, _⟩ := (run_cautious sdk shell args).traces (traces_against oracle _)
  rcases cautious_sends admits with nothing | ⟨first, transaction, reply, rest, same, once, payment, account, orders, shown, wallet,
    _, enough, pays⟩
  · exact .inl nothing
  · refine .inr ⟨transaction, payment, account, once, orders, ?_, ?_, ?_⟩
    · rw [same]
      exact List.mem_append_left _ shown
    · intro ledger present
      constructor
      · intro executed
        obtain ⟨later, executed⟩ := executed
        exact (process_transferred pays orders.distinct executed).2.1
      · exact process_covered pays orders.distinct ⟨account, present, wallet, enough⟩
    · intro fee ledger later executed
      exact (process_transferred pays orders.distinct executed).2.2

end ArchKit
