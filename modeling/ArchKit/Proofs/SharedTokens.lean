import ArchKit.Proofs.Bookings
import ArchKit.Proofs.Conservation
import ArchKit.Proofs.SharedChain

/-! Token commands of any number of users on one chain: the books of the token program
are those of the start plus one booking for each command that was executed, and no mint
ever owes more than it has issued. -/

namespace ArchKit
open Effects Fallible TokenProgram

namespace Node
variable {ι : Type} {sdk : ToolSdk} {reliable : Prop} {submission : ι → Submission} {ledger later : Ledger}
  {recorded : List (Entry ι)}

/-- What the creation of accounts and every instruction of the token program keep is kept
by all transactions. -/
theorem replay_keeps {holds : Ledger → Prop} (tokens : ∀ client, (submission client).IsToken)
    (creates : ∀ {before after : Ledger} {payer address owner : Pubkey} {lamports space : Nat},
      processInstruction sdk.toTokenSdk before (.createAccount payer address lamports space owner) = some after →
      holds before → holds after)
    (executes : ∀ {before after : Ledger} (instruction : TokenInstruction), execute sdk.toTokenSdk before instruction = some after →
      holds before → holds after)
    (describes : ∀ entry ∈ recorded, (submission entry.client).Describes sdk entry.transaction)
    (replayed : replay (Node.tokens sdk.toTokenSdk) ledger recorded = some later) (start : holds ledger) : holds later := by
  induction recorded generalizing ledger with
  | nil =>
    cases replayed
    exact start
  | cons entry entries ih =>
    have others : ∀ other ∈ entries, (submission other.client).Describes sdk other.transaction :=
      fun other member => describes other (List.mem_cons_of_mem _ member)
    simp only [replay] at replayed
    split at replayed
    next done =>
      obtain ⟨middle, first, rest⟩ := Option.bind_eq_some_iff.mp replayed
      have own := describes entry List.mem_cons_self
      exact ih others rest (own.keeps (tokens entry.client) creates executes first start)
    next missed => exact ih others replayed start

/-- One booking for each executed transaction. -/
theorem replay_posted (tokens : ∀ client, (submission client).IsToken)
    (describes : ∀ entry ∈ recorded, (submission entry.client).Describes sdk entry.transaction)
    (replayed : replay (Node.tokens sdk.toTokenSdk) ledger recorded = some later) :
    ∃ bookings : List (ι × Booking), bookings.map Prod.fst = executed recorded ∧
      (∀ booked ∈ bookings, (submission booked.1).Posts sdk.toTokenSdk later booked.2) ∧
      Posted sdk.toTokenSdk ledger later (.total (bookings.map Prod.snd)) := by
  apply replay_collects (fun client => (submission client).Describes sdk) (fun client => (submission client).Posts sdk.toTokenSdk)
    (fun before after bookings => Posted sdk.toTokenSdk before after (.total bookings))
    (fun ledger => Posted.refl sdk.toTokenSdk ledger) _ describes replayed
  intro client transaction before after final bookings described executed remaining
  obtain ⟨booking, posts, posted⟩ := described.posted (tokens client) executed
  exact ⟨booking, posts.grow remaining, posted.trans remaining⟩

end Node

/-- At every moment the balances and supplies are those of the start plus one booking for
each command that was executed: a command that reported success is among them, and where
replies can be trusted none that reported an error is. Accounts that no booking touches
are as they were. -/
theorem Submission.tokens_accounted {ι : Type} [DecidableEq ι] (sdk : ToolSdk) (reliable : Prop) (shell : ι → Shell)
    (submission : ι → Submission) (tokens : ∀ client, (submission client).IsToken) (start : World ι)
    (system : System api ι (World ι) (Except CommandError Unit))
    (reached : System.Reaches (Node.Serves (Node.tokens sdk.toTokenSdk) reliable)
      ⟨start, fun client => ExceptT.run ((submission client).run sdk (shell client))⟩ system) :
    ∃ bookings : List (ι × Booking), (bookings.map Prod.fst).Nodup ∧
      (∀ booked ∈ bookings, (submission booked.1).Posts sdk.toTokenSdk system.state.ledger booked.2) ∧
      (∀ client, system.clients client = .pure (.ok ()) → client ∈ bookings.map Prod.fst) ∧
      (reliable → ∀ client error, system.clients client = .pure (.error error) → client ∉ bookings.map Prod.fst) ∧
      Posted sdk.toTokenSdk start.ledger system.state.ledger (.total (bookings.map Prod.snd)) := by
  obtain ⟨seen, recorded, settles, ends⟩ := Submission.settles reached
  obtain ⟨bookings, senders, posts, posted⟩ := Node.replay_posted tokens settles.describes settles.replays
  have outcomes := settles.senders ends
  rw [← senders] at outcomes
  obtain ⟨once, succeeded, failed⟩ := outcomes
  exact ⟨bookings, once, posts, fun client => succeeded client (), failed, posted⟩

open Submission.Example in
theorem Submission.tokens_accounted_played : ∃ (final : System api Bool (World Bool) (Except CommandError Unit))
    (bookings : List (Bool × Booking)), bookings.map Prod.fst = [false] ∧
      (∀ booked ∈ bookings, (payments false).Posts tools.toTokenSdk final.state.ledger booked.2) ∧
      Posted tools.toTokenSdk start.ledger final.state.ledger (.total (bookings.map Prod.snd)) := by
  obtain ⟨final, error, reached, done, stopped⟩ := played
  obtain ⟨bookings, once, posts, succeeded, failed, posted⟩ :=
    tokens_accounted tools True (fun _ => TokenTransfer.Example.shell) payments (fun _ => trivial) start final reached
  have only : ∀ client ∈ bookings.map Prod.fst, client = false := by
    intro client member
    cases client with
    | false => rfl
    | true => exact absurd member (failed trivial true error stopped)
  have paid : bookings.map Prod.fst = [false] := by
    apply List.perm_singleton.mp
    rw [List.perm_ext_iff_of_nodup once (List.nodup_singleton _)]
    intro client
    rw [List.mem_singleton]
    exact ⟨only client, fun same => same ▸ succeeded false done⟩
  refine ⟨final, bookings, paid, ?_, posted⟩
  intro booked member
  have own := posts booked member
  rw [only booked.1 (List.mem_map_of_mem member)] at own
  exact own

/-- At every moment the balances of a mint add up to no more than its supply, if they did
at the start, and a mint without an authority is as it was. -/
theorem Submission.solvent {ι : Type} [DecidableEq ι] (sdk : ToolSdk) (reliable : Prop) (shell : ι → Shell)
    (submission : ι → Submission) (tokens : ∀ client, (submission client).IsToken) (start : World ι)
    (system : System api ι (World ι) (Except CommandError Unit))
    (reached : System.Reaches (Node.Serves (Node.tokens sdk.toTokenSdk) reliable)
      ⟨start, fun client => ExceptT.run ((submission client).run sdk (shell client))⟩ system) :
    (∀ mint, Solvent sdk.toTokenSdk mint start.ledger → Solvent sdk.toTokenSdk mint system.state.ledger) ∧
    ∀ mint state, mintAt sdk.toTokenSdk start.ledger mint = some state → state.mintAuthority = none →
      mintAt sdk.toTokenSdk system.state.ledger mint = some state := by
  obtain ⟨seen, recorded, settles, _⟩ := Submission.settles reached
  constructor
  · intro mint solvent
    refine Node.replay_keeps tokens ?_ ?_ settles.describes settles.replays solvent
    · intro before after payer address owner lamports space created covered
      obtain ⟨_, _, mints, accounts, _⟩ := createAccount_eq_some created
      exact covered.of_same (congrFun mints mint) accounts
    · exact fun instruction executed covered => covered.execute executed
  · intro mint state known unauthorized
    have closed : Sealed sdk.toTokenSdk mint state start.ledger := ⟨unauthorized, known⟩
    refine (Node.replay_keeps tokens ?_ ?_ settles.describes settles.replays closed).2
    · intro before after payer address owner lamports space created kept
      obtain ⟨_, _, mints, _⟩ := createAccount_eq_some created
      exact ⟨kept.1, (congrFun mints mint).trans kept.2⟩
    · exact fun instruction executed kept => kept.execute executed

namespace Submission.Example
open TokenTransfer.Example Totals

/-- The authority holds the whole supply. -/
theorem start_solvent : Solvent tools.toTokenSdk mint start.ledger := by
  have found : ∀ address, accountAt tools.toTokenSdk start.ledger address =
      if address = holder then some { mint, owner := authority, amount := 2000000, state := .initialized } else none := by
    intro address
    by_cases own : address = holder
    · rw [own, if_pos rfl]
      decide +kernel
    · rw [if_neg own]
      by_cases same : address = mint
      · rw [same]
        decide +kernel
      · simp only [accountAt, start, TokenTransfer.Example.start, if_neg own, if_neg same]
        rfl
  have issued : supply (mintAt tools.toTokenSdk start.ledger mint) = 0 + 2000000 := by decide +kernel
  constructor
  · have whole : (fun address => holding mint (accountAt tools.toTokenSdk start.ledger address)) =
        Function.update (fun _ => 0) holder (0 + 2000000) := by
      funext address
      rw [found]
      by_cases own : address = holder
      · rw [own, if_pos rfl, Function.update_self]
        rfl
      · rw [if_neg own, Function.update_of_ne own]
        rfl
    have none : Within (fun _ : Pubkey => 0) 0 := fun keys => by rw [Finset.sum_const_zero]
    rw [whole, issued]
    exact none.raise
  · intro address account shown _
    rw [found] at shown
    split at shown
    · cases shown
      rfl
    · cases shown

end Submission.Example

open Submission.Example in
theorem Submission.solvent_played : ∃ final : System api Bool (World Bool) (Except CommandError Unit),
    System.Reaches (Node.Serves process True) system final ∧ final.state.log ≠ [] ∧
      Solvent tools.toTokenSdk TokenTransfer.Example.mint final.state.ledger := by
  obtain ⟨final, error, reached, done, stopped⟩ := played
  have sound := solvent tools True (fun _ => TokenTransfer.Example.shell) payments (fun _ => trivial) start final reached
  obtain ⟨seen, recorded, settles, ends⟩ := Submission.settles reached
  obtain ⟨entry, member, _⟩ := (settles.knows false).succeeded (ends false _ done)
  have logged : final.state.log = recorded := settles.log
  exact ⟨final, reached, logged ▸ List.ne_nil_of_mem member, sound.1 _ start_solvent⟩

end ArchKit
