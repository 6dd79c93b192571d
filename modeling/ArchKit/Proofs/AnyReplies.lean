import ArchKit.Proofs.Bookings
import ArchKit.Proofs.SharedChain

/-! The commands that submit one transaction, with a node that may answer anything. Even
then nothing but what the command line says can come of it. -/

namespace ArchKit
open Effects Fallible TokenProgram

def transaction? (exchange : Exchange api) : Option RuntimeTransaction :=
  match exchange.operation with
  | .sendTransaction transaction => some transaction
  | _ => none

/-- The transactions that were sent. -/
def submitted (trace : List (Exchange api)) : List RuntimeTransaction := trace.filterMap transaction?

theorem submitted_append (first second : List (Exchange api)) : submitted (first ++ second) = submitted first ++ submitted second :=
  List.filterMap_append ..

theorem submitted_silent {trace : List (Exchange api)} (quiet : ∀ exchange ∈ trace, (!Request.submits exchange.operation) = true) :
    submitted trace = [] := by
  apply List.filterMap_eq_nil_iff.mpr
  intro exchange member
  have silent := quiet exchange member
  obtain ⟨operation, reply⟩ := exchange
  cases operation with
  | sendTransaction transaction => cases silent
  | _ => rfl

/-- Somebody said that the transaction with this id was processed. -/
def acknowledgement (id : Hash) : Exchange api := ⟨.waitForProcessedTransaction id, .ok ⟨.processed⟩⟩

namespace Phase
variable {described : RuntimeTransaction → Prop} {phase : Phase} {trace : List (Exchange api)}

/-- Who has sent a transaction never gets back to where it has not. -/
theorem observe_ne_fresh (begun : phase ≠ .fresh) (operation : Request) (reply : operation.Reply) :
    phase.observe operation reply ≠ .fresh := by
  cases operation with
  | sendTransaction transaction =>
    intro same
    cases reply <;> cases same
  | waitForProcessedTransaction id =>
    cases phase with
    | sent awaited =>
      intro same
      simp only [observe] at same
      split at same
      · cases reply with
        | error error => cases same
        | ok processed =>
          dsimp only at same
          split at same <;> cases same
      · cases same
    | _ => exact begun
  | _ => cases phase <;> exact begun

theorem sends_nothing (begun : phase ≠ .fresh) (admits : (once described).Admits phase trace) : submitted trace = [] := by
  induction trace generalizing phase with
  | nil => rfl
  | cons exchange trace ih =>
    obtain ⟨allowed, rest⟩ := admits
    have later : submitted trace = [] := ih (observe_ne_fresh begun exchange.operation exchange.reply) rest
    obtain ⟨operation, reply⟩ := exchange
    cases operation with
    | sendTransaction transaction => exact absurd allowed.1 begun
    | _ => exact later

theorem sends_once (admits : (once described).Admits .fresh trace) :
    submitted trace = [] ∨ ∃ transaction, submitted trace = [transaction] ∧ described transaction := by
  induction trace with
  | nil => exact .inl rfl
  | cons exchange trace ih =>
    obtain ⟨operation, reply⟩ := exchange
    obtain ⟨allowed, rest⟩ := admits
    cases operation with
    | sendTransaction transaction =>
      have begun : Phase.observe .fresh (.sendTransaction transaction) reply ≠ .fresh := by
        intro same
        cases reply <;> cases same
      have later := sends_nothing begun rest
      refine .inr ⟨transaction, ?_, allowed.2⟩
      change transaction :: submitted trace = [transaction]
      rw [later]
    | _ => exact ih rest

/-- A phase in which no confirmation is awaited any more. -/
def Idle : Phase → Prop
  | .unknown | .refused => True
  | _ => False

theorem stays_idle (idle : phase.Idle) (admits : (once described).Admits phase trace) :
    ((once described).after phase trace).Idle := by
  induction trace generalizing phase with
  | nil => exact idle
  | cons exchange trace ih =>
    obtain ⟨operation, reply⟩ := exchange
    obtain ⟨allowed, rest⟩ := admits
    have still : (phase.observe operation reply).Idle := by
      cases operation with
      | sendTransaction transaction =>
        rw [allowed.1] at idle
        exact idle.elim
      | waitForProcessedTransaction id =>
        cases phase with
        | sent awaited => exact idle.elim
        | _ => exact idle
      | _ => cases phase <;> exact idle
    exact ih still rest

theorem acknowledged {id : Hash} (admits : (once described).Admits (.sent id) trace)
    (ended : (once described).after (.sent id) trace = .confirmed) :
    ∃ first last, trace = first ++ acknowledgement id :: last := by
  induction trace with
  | nil => cases ended
  | cons exchange trace ih =>
    obtain ⟨operation, reply⟩ := exchange
    obtain ⟨allowed, rest⟩ := admits
    have onwards (stays : (once described).observe (.sent id) operation reply = .sent id) :
        ∃ first last, (⟨operation, reply⟩ :: trace : List (Exchange api)) = first ++ acknowledgement id :: last := by
      change (once described).Admits ((once described).observe (.sent id) operation reply) trace at rest
      change (once described).after ((once described).observe (.sent id) operation reply) trace = .confirmed at ended
      rw [stays] at rest ended
      obtain ⟨first, last, same⟩ := ih rest ended
      exact ⟨_ :: first, last, by rw [same]; rfl⟩
    cases operation with
    | sendTransaction transaction => cases allowed.1
    | waitForProcessedTransaction other =>
      by_cases own : other = id
      · subst own
        have idle (refused : Phase.observe (.sent other) (.waitForProcessedTransaction other) reply = .refused) : False := by
          change (once described).Admits (Phase.observe (.sent other) (.waitForProcessedTransaction other) reply) trace at rest
          change (once described).after (Phase.observe (.sent other) (.waitForProcessedTransaction other) reply) trace = .confirmed at ended
          rw [refused] at rest ended
          have quiet : Phase.Idle .refused := trivial
          have stays := stays_idle quiet rest
          rw [ended] at stays
          exact stays
        cases reply with
        | error error => exact (idle (if_pos rfl)).elim
        | ok processed =>
          obtain ⟨status⟩ := processed
          by_cases done : status = .processed
          · subst done
            exact ⟨[], trace, rfl⟩
          · exact (idle ((if_pos rfl).trans (if_neg done))).elim
      · exact onwards (if_neg own)
    | _ => exact onwards rfl

theorem was_confirmed (admits : (once described).Admits .fresh trace) (ended : (once described).after .fresh trace = .confirmed) :
    ∃ first middle last transaction id,
      trace = first ++ ⟨.sendTransaction transaction, .ok id⟩ :: middle ++ acknowledgement id :: last := by
  induction trace with
  | nil => cases ended
  | cons exchange trace ih =>
    obtain ⟨operation, reply⟩ := exchange
    obtain ⟨allowed, rest⟩ := admits
    have onwards (stays : (once described).observe .fresh operation reply = .fresh) :
        ∃ first middle last transaction id, (⟨operation, reply⟩ :: trace : List (Exchange api)) =
          first ++ ⟨.sendTransaction transaction, .ok id⟩ :: middle ++ acknowledgement id :: last := by
      change (once described).Admits ((once described).observe .fresh operation reply) trace at rest
      change (once described).after ((once described).observe .fresh operation reply) trace = .confirmed at ended
      rw [stays] at rest ended
      obtain ⟨first, middle, last, transaction, id, same⟩ := ih rest ended
      exact ⟨_ :: first, middle, last, transaction, id, by rw [same]; rfl⟩
    cases operation with
    | sendTransaction transaction =>
      cases reply with
      | error error =>
        have quiet : Phase.Idle .unknown := trivial
        have stays := stays_idle quiet rest
        change ((once described).after (Phase.observe .fresh (.sendTransaction transaction) (.error error)) trace).Idle at stays
        change (once described).after (Phase.observe .fresh (.sendTransaction transaction) (.error error)) trace = .confirmed at ended
        rw [ended] at stays
        exact stays.elim
      | ok id =>
        obtain ⟨middle, last, same⟩ := acknowledged rest ended
        exact ⟨[], middle, last, transaction, id, by rw [same]; rfl⟩
    | _ => exact onwards rfl

end Phase
/-- At most one transaction is sent, and it is as described after what was exchanged before. -/
def cautious (described : List (Exchange api) → RuntimeTransaction → Prop) : Monitor api (List (Exchange api)) :=
  .history fun past operation =>
    match operation with
    | .sendTransaction transaction => submitted past = [] ∧ described past transaction
    | _ => True

section Cautious
variable {described : List (Exchange api) → RuntimeTransaction → Prop} {past trace : List (Exchange api)}

/-- Requests that submit nothing are always allowed. -/
theorem cautious_allows {past : List (Exchange api)} {operation : Request} (quiet : (!operation.submits) = true) :
    (cautious described).allows past operation := by
  cases operation with
  | sendTransaction transaction => cases quiet
  | _ => trivial

theorem cautious_sends (admits : (cautious described).Admits [] trace) :
    submitted trace = [] ∨ ∃ first transaction reply rest, trace = first ++ ⟨.sendTransaction transaction, reply⟩ :: rest ∧
      submitted trace = [transaction] ∧ described first transaction := by
  have allowed := Monitor.admits_history.mp admits
  have located {transaction : RuntimeTransaction} {trace : List (Exchange api)} (member : transaction ∈ submitted trace) :
      ∃ first reply rest, trace = first ++ ⟨.sendTransaction transaction, reply⟩ :: rest := by
    obtain ⟨exchange, inside, sends⟩ := List.mem_filterMap.mp member
    obtain ⟨first, rest, same⟩ := List.append_of_mem inside
    obtain ⟨operation, reply⟩ := exchange
    cases operation with
    | sendTransaction other =>
      cases sends
      exact ⟨first, reply, rest, same⟩
    | _ => cases sends
  cases sent : submitted trace with
  | nil => exact .inl rfl
  | cons transaction others =>
    obtain ⟨first, reply, rest, same⟩ := located (sent ▸ List.mem_cons_self : transaction ∈ submitted trace)
    obtain ⟨unsent, fits⟩ := allowed first _ rest same
    refine .inr ⟨first, transaction, reply, rest, same, ?_, fits⟩
    have whole : submitted trace = transaction :: submitted rest := by
      rw [same, submitted_append]
      have nothing : submitted first = [] := unsent
      rw [nothing]
      rfl
    cases later : submitted rest with
    | nil => rw [← sent, whole, later]
    | cons again more =>
      obtain ⟨second, answer, last, split⟩ := located (later ▸ List.mem_cons_self : again ∈ submitted rest)
      have before : trace = (first ++ ⟨.sendTransaction transaction, reply⟩ :: second) ++ ⟨.sendTransaction again, answer⟩ :: last := by
        rw [same, split, List.append_assoc]
        rfl
      obtain ⟨twice, _⟩ := allowed _ _ _ before
      have nothing : submitted (first ++ ⟨.sendTransaction transaction, reply⟩ :: second) = [] := twice
      rw [submitted_append] at nothing
      cases (List.append_eq_nil_iff.mp nothing).2

theorem sendAndConfirm_cautious {sdk : SigningSdk} {instructions : List Instruction} {payer : Pubkey} (action : String)
    (signers : List (ArchSigner sdk)) (unsent : submitted past = [])
    (fits : ∀ more blockhash transaction, transaction.message = .new sdk.toSdk instructions (some payer) blockhash →
      described (past ++ more) transaction) :
    Keeps (cautious described) (fun _ _ => True) (Transaction.sendAndConfirm action instructions payer signers) past := by
  refine ⟨trivial, ?_⟩
  intro hashed
  cases hashed with
  | error error => trivial
  | ok blockhash =>
    change Keeps (cautious described) _ (do
      let transaction ← Transaction.signTransaction (.new sdk.toSdk instructions (some payer) blockhash) signers
      let id ← Cli.rpc (← Cli.sendTransaction transaction)
      let processed ← Cli.rpc (← Cli.waitForProcessedTransaction id)
      if processed.status ≠ .processed then
        throw (.transactionFailed action processed.status.debug)
      return id) (past ++ [⟨.getBestFinalizedBlockHash, .ok blockhash⟩])
    simp only [Transaction.signTransaction, bind_assoc, pure_bind]
    apply Keeps.remembered (Transaction.signAll_silent _ signers _) (fun _ _ quiet => cautious_allows quiet) _ (fun _ _ _ => trivial)
    intro signatures more quiet
    have still : submitted (past ++ [⟨.getBestFinalizedBlockHash, .ok blockhash⟩] ++ more) = [] := by
      rw [submitted_append, submitted_append, unsent, submitted_silent quiet]
      rfl
    have fitting : ∀ signed : RuntimeTransaction, signed.message = .new sdk.toSdk instructions (some payer) blockhash →
        described (past ++ [⟨.getBestFinalizedBlockHash, .ok blockhash⟩] ++ more) signed := by
      intro signed same
      rw [List.append_assoc]
      exact fits _ blockhash signed same
    refine ⟨⟨still, fitting _ rfl⟩, ?_⟩
    intro sending
    cases sending with
    | error error => trivial
    | ok id =>
      refine ⟨trivial, ?_⟩
      intro waiting
      cases waiting with
      | error error => trivial
      | ok processed =>
        dsimp only
        change Keeps (cautious described) _ (if processed.status ≠ .processed then _ else _) _
        split <;> trivial

end Cautious

/-- Whatever replies a token command receives, it sends at most one transaction. Executed
on any ledger, the transaction does what the command line says and nothing else; and the
command succeeds only after it was sent and acknowledged. -/
theorem Submission.bounded (sdk : ToolSdk) (shell : Shell) (submission : Submission) (token : submission.IsToken)
    (trace : List (Exchange api)) (outcome : Except CommandError Unit) (traced : Traces (submission.run sdk shell) trace outcome) :
    (submitted trace = [] ∨ ∃ transaction, submitted trace = [transaction] ∧
      ∀ ledger later, processInstructions sdk.toTokenSdk ledger transaction.message.instructions = some later →
        ∃ booking, submission.Posts sdk.toTokenSdk later booking ∧ Posted sdk.toTokenSdk ledger later booking) ∧
    (outcome = .ok () → ∃ first middle last transaction id,
      trace = first ++ ⟨.sendTransaction transaction, .ok id⟩ :: middle ++ acknowledgement id :: last) := by
  obtain ⟨admits, ends⟩ := (submission.run_keeps shell).traces traced
  constructor
  · rcases Phase.sends_once admits with nothing | ⟨transaction, once, describes⟩
    · exact .inl nothing
    · exact .inr ⟨transaction, once, fun ledger later executed => describes.posted token executed⟩
  · intro succeeded
    subst succeeded
    exact Phase.was_confirmed admits ends

open Submission.Example in
theorem Submission.bounded_pretended : ∃ (transaction : RuntimeTransaction) (later : Ledger) (booking : Booking),
    submitted (Fallible.against (Node.pretend start.ledger desk) ((payments true).run tools TokenTransfer.Example.shell)).1 =
      [transaction] ∧
    processInstructions tools.toTokenSdk start.ledger transaction.message.instructions = some later ∧
    (payments true).Posts tools.toTokenSdk later booking ∧ Posted tools.toTokenSdk start.ledger later booking := by
  have observed : (submitted (Fallible.against (Node.pretend start.ledger desk)
      ((payments true).run tools TokenTransfer.Example.shell)).1).map (fun transaction =>
        (processInstructions tools.toTokenSdk start.ledger transaction.message.instructions).isSome) = [true] := by
    decide +kernel
  rcases (bounded tools TokenTransfer.Example.shell (payments true) trivial _ _
    (traces_against (Node.pretend start.ledger desk) _)).1 with nothing | ⟨transaction, once, executes⟩
  · rw [nothing] at observed
    cases observed
  · rw [once] at observed
    obtain ⟨later, done⟩ := Option.isSome_iff_exists.mp (List.cons.inj observed).1
    obtain ⟨booking, posts, posted⟩ := executes _ later done
    exact ⟨transaction, later, booking, once, done, posts, posted⟩

end ArchKit
