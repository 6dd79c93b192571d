import ArchKit.Deploy
import ArchKit.Proofs.Exchanges
import Mathlib.Data.List.Chain

/-! The funding of the authority against a node that may answer anything: how often the faucet
is asked and how the loop ends. -/

namespace ArchKit.Deploy
open Effects Fallible

/-- The error of a faucet that grants nothing. -/
def notIncreased : CliError := .archRpc (.transactionError "faucet did not increase the authority balance")

/-- The balance that the first read stands for. -/
def startingBalance : Except ArchError AccountInfo → Except ArchError Nat
  | .ok account => .ok account.lamports
  | .error (.notFound _) => .ok 0
  | .error error => .error error

def isGrant (exchange : Exchange api) : Bool :=
  match exchange.operation with
  | .createAndFundAccountWithFaucet _ => true
  | _ => false

/-- The balances among the replies. -/
def balance? : Exchange api → Option Nat
  | ⟨.readAccountInfo _, .ok account⟩ => some account.lamports
  | _ => none

/-- The errors among the replies. -/
def rpcError? : Exchange api → Option ArchError
  | ⟨.readAccountInfo _, .error error⟩ | ⟨.createAndFundAccountWithFaucet _, .error error⟩ => some error
  | _ => none

/-- How a run of the loop unfolds, grant by grant. -/
inductive Funding (keypair : Keypair) (authority : Pubkey) (target : Nat) :
    Nat → List (Exchange api) → Except CliError Unit → Prop where
  | reached {balance : Nat} (enough : target ≤ balance) : Funding keypair authority target balance [] (.ok ())
  | refused {balance : Nat} (short : balance < target) (error : ArchError) :
      Funding keypair authority target balance [⟨.createAndFundAccountWithFaucet keypair, .error error⟩] (.error (.archRpc error))
  | unread {balance : Nat} (short : balance < target) (error : ArchError) :
      Funding keypair authority target balance
        [⟨.createAndFundAccountWithFaucet keypair, .ok ()⟩, ⟨.readAccountInfo authority, .error error⟩] (.error (.archRpc error))
  | stalled {balance : Nat} (short : balance < target) (account : AccountInfo) (same : account.lamports ≤ balance) :
      Funding keypair authority target balance
        [⟨.createAndFundAccountWithFaucet keypair, .ok ()⟩, ⟨.readAccountInfo authority, .ok account⟩] (.error notIncreased)
  | raised {balance : Nat} {trace : List (Exchange api)} {outcome : Except CliError Unit} (short : balance < target)
      (account : AccountInfo) (more : balance < account.lamports)
      (rest : Funding keypair authority target account.lamports trace outcome) :
      Funding keypair authority target balance
        (⟨.createAndFundAccountWithFaucet keypair, .ok ()⟩ :: ⟨.readAccountInfo authority, .ok account⟩ :: trace) outcome

variable {keypair : Keypair} {authority : Pubkey} {target balance : Nat} {trace : List (Exchange api)}
  {outcome : Except CliError Unit}

theorem funding_of_traces (traced : Traces (topUp keypair authority target balance) trace outcome) :
    Funding keypair authority target balance trace outcome := by
  induction gap : target - balance using Nat.strong_induction_on generalizing balance trace with
  | _ gap ih =>
    subst gap
    rw [topUp] at traced
    split at traced
    next short =>
      obtain ⟨granted, afterGrant, first, called⟩ := traces_perform.mp traced
      rcases traces_rpc.mp called with ⟨_, ok, answered⟩ | ⟨error, failed, empty, ended⟩
      · obtain ⟨shown, afterRead, second, read⟩ := traces_perform.mp answered
        rcases traces_rpc.mp read with ⟨account, found, continued⟩ | ⟨error, failed, empty, ended⟩
        · subst first second ok found
          split at continued
          next more => exact .raised short account more (ih _ (by omega) continued rfl)
          next less =>
            obtain ⟨empty, ended⟩ := traces_throw.mp continued
            subst empty ended
            exact .stalled short account (not_lt.mp less)
        · subst first second ok failed empty ended
          exact .unread short error
      · subst first failed empty ended
        exact .refused short error
    next enough =>
      obtain ⟨same, ended⟩ := traces_pure.mp traced
      subst same ended
      exact .reached (not_lt.mp enough)

/-- The balances of a run, the first one included. -/
def balances (balance : Nat) (trace : List (Exchange api)) : List Nat := balance :: trace.filterMap balance?

/-- The last balance that was read. -/
def lastBalance (balance : Nat) (trace : List (Exchange api)) : Nat := (trace.filterMap balance?).getLastD balance

section Raised
variable (keypair : Keypair) (authority : Pubkey) (account : AccountInfo) (trace : List (Exchange api))

theorem balances_raised (balance : Nat) :
    balances balance (⟨.createAndFundAccountWithFaucet keypair, .ok ()⟩ :: ⟨.readAccountInfo authority, .ok account⟩ :: trace) =
      balance :: balances account.lamports trace := rfl

theorem lastBalance_raised (balance : Nat) :
    lastBalance balance (⟨.createAndFundAccountWithFaucet keypair, .ok ()⟩ :: ⟨.readAccountInfo authority, .ok account⟩ :: trace) =
      lastBalance account.lamports trace :=
  List.getLastD_cons ..

theorem grants_raised :
    (⟨.createAndFundAccountWithFaucet keypair, .ok ()⟩ :: ⟨.readAccountInfo authority, .ok account⟩ :: trace).countP isGrant =
      trace.countP isGrant + 1 := by
  rw [List.countP_cons_of_pos rfl, List.countP_cons_of_neg (fun granted => by cases granted)]

end Raised

/-- A step that is taken shortens what is left, in steps rounded up, by one. -/
theorem steps_next {gap step : Nat} (positive : 0 < step) (left : 0 < gap) :
    (gap + step - 1) / step = (gap - step + step - 1) / step + 1 := by
  have first : gap + step - 1 = gap - 1 + step := by omega
  rw [first, Nat.add_div_right _ positive]
  by_cases last : gap ≤ step
  · rw [Nat.sub_eq_zero_of_le last, Nat.zero_add, Nat.div_eq_of_lt (by omega), Nat.div_eq_of_lt (by omega)]
  · rw [Nat.sub_add_cancel (by omega)]

namespace Funding
variable (funding : Funding keypair authority target balance trace outcome)
include funding

/-- Every grant but the last raises the balance towards the target. -/
theorem grants_le : trace.countP isGrant ≤ target - balance := by
  induction funding with
  | reached => exact Nat.zero_le _
  | refused short => exact Nat.sub_pos_of_lt short
  | unread short => exact Nat.sub_pos_of_lt short
  | stalled short => exact Nat.sub_pos_of_lt short
  | @raised balance trace outcome short account more rest ih =>
    rw [grants_raised]
    omega

theorem reaches (returned : outcome = .ok ()) : target ≤ lastBalance balance trace := by
  induction funding with
  | reached enough => exact enough
  | refused => cases returned
  | unread => cases returned
  | stalled => cases returned
  | raised short account more rest ih =>
    rw [lastBalance_raised]
    exact ih returned

/-- Only the last balance may fail to be larger than the one before. -/
theorem increases : (balances balance trace).dropLast.IsChain (· < ·) := by
  induction funding with
  | reached => exact .nil
  | refused => exact .nil
  | unread => exact .nil
  | stalled => exact .singleton _
  | @raised balance trace outcome short account more rest ih =>
    have further : balances account.lamports trace ≠ [] := List.cons_ne_nil _ _
    rw [balances_raised, List.dropLast_cons_of_ne_nil further]
    refine List.isChain_cons.mpr ⟨?_, ih⟩
    intro next found
    have first : account.lamports = next := by
      cases tail : trace.filterMap balance? with
      | nil =>
        rw [balances, tail] at found
        cases found
      | cons second others =>
        rw [balances, tail] at found
        exact Option.some.inj found
    exact first ▸ more

/-- A failed call ends the loop with its error. -/
theorem fails {exchange : Exchange api} {error : ArchError} (member : exchange ∈ trace)
    (failed : rpcError? exchange = some error) : outcome = .error (.archRpc error) := by
  induction funding with
  | reached => cases member
  | refused short other =>
    rw [List.mem_singleton.mp member] at failed
    cases failed
    rfl
  | unread short other =>
    rcases List.mem_cons.mp member with same | last
    · rw [same] at failed
      cases failed
    · rw [List.mem_singleton.mp last] at failed
      cases failed
      rfl
  | stalled short account =>
    rcases List.mem_cons.mp member with same | last
    · rw [same] at failed
      cases failed
    · rw [List.mem_singleton.mp last] at failed
      cases failed
  | raised short account more rest ih =>
    rcases List.mem_cons.mp member with same | later
    · rw [same] at failed
      cases failed
    · rcases List.mem_cons.mp later with same | last
      · rw [same] at failed
        cases failed
      · exact ih last

/-- Without a failed call, the loop ends well or with a balance that did not grow. -/
theorem answered (answers : ∀ exchange ∈ trace, rpcError? exchange = none) :
    outcome = .ok () ∧ (balances balance trace).IsChain (· < ·) ∨
      outcome = .error notIncreased ∧ ¬(balances balance trace).IsChain (· < ·) := by
  induction funding with
  | reached => exact .inl ⟨rfl, .singleton _⟩
  | refused short error => cases answers _ List.mem_cons_self
  | unread short error => cases answers _ (List.mem_cons_of_mem _ List.mem_cons_self)
  | @stalled balance short account less =>
    refine .inr ⟨rfl, fun chain => ?_⟩
    change List.IsChain (· < ·) [balance, account.lamports] at chain
    exact absurd (List.isChain_pair.mp chain) (not_lt.mpr less)
  | @raised balance trace outcome short account more rest ih =>
    have grows : (balances balance (⟨.createAndFundAccountWithFaucet keypair, .ok ()⟩ ::
        ⟨.readAccountInfo authority, .ok account⟩ :: trace)).IsChain (· < ·) ↔ (balances account.lamports trace).IsChain (· < ·) :=
      List.isChain_cons_cons.trans (and_iff_right more)
    rw [grows]
    exact ih (fun exchange member => answers exchange (List.mem_cons_of_mem _ (List.mem_cons_of_mem _ member)))

/-- Grants of one size are as many as fit into the gap, rounded up. -/
theorem grants_eq {grant : Nat} (positive : 0 < grant) (answers : ∀ exchange ∈ trace, rpcError? exchange = none)
    (steps : (balances balance trace).IsChain fun first second => second = first + grant) :
    outcome = .ok () ∧ trace.countP isGrant = (target - balance + grant - 1) / grant := by
  induction funding with
  | @reached balance enough =>
    refine ⟨rfl, ?_⟩
    rw [Nat.sub_eq_zero_of_le enough, Nat.zero_add, Nat.div_eq_of_lt (by omega)]
    rfl
  | refused short error => cases answers _ List.mem_cons_self
  | unread short error => cases answers _ (List.mem_cons_of_mem _ List.mem_cons_self)
  | @stalled balance short account less =>
    change List.IsChain (fun first second => second = first + grant) [balance, account.lamports] at steps
    have raised := List.isChain_pair.mp steps
    omega
  | @raised balance trace outcome short account more rest ih =>
    obtain ⟨raised, others⟩ := List.isChain_cons_cons.mp (steps : List.IsChain _ (balance :: balances account.lamports trace))
    obtain ⟨returned, count⟩ := ih (fun exchange member =>
      answers exchange (List.mem_cons_of_mem _ (List.mem_cons_of_mem _ member))) others
    refine ⟨returned, ?_⟩
    rw [grants_raised, count, raised, ← Nat.sub_sub, ← steps_next positive (Nat.sub_pos_of_lt short)]

/-- Nothing is asked of the faucet once the balance suffices. -/
theorem idle (enough : target ≤ balance) : trace = [] ∧ outcome = .ok () := by
  cases funding with
  | reached => exact ⟨rfl, rfl⟩
  | refused short => exact absurd enough (not_le.mpr short)
  | unread short => exact absurd enough (not_le.mpr short)
  | stalled short => exact absurd enough (not_le.mpr short)
  | raised short => exact absurd enough (not_le.mpr short)

end Funding

theorem traces_balanceOf {outcome : Except CliError Nat} (traced : Traces (balanceOf authority) trace outcome) :
    ∃ reply, trace = [⟨.readAccountInfo authority, reply⟩] ∧ outcome = (startingBalance reply).mapError .archRpc := by
  obtain ⟨reply, rest, same, answered⟩ := traces_perform.mp traced
  refine ⟨reply, ?_⟩
  cases reply with
  | ok account =>
    obtain ⟨empty, ended⟩ := traces_pure.mp answered
    subst same empty ended
    exact ⟨rfl, rfl⟩
  | error error =>
    cases error with
    | notFound message =>
      obtain ⟨empty, ended⟩ := traces_pure.mp answered
      subst same empty ended
      exact ⟨rfl, rfl⟩
    | _ =>
      obtain ⟨empty, ended⟩ := traces_throw.mp answered
      subst same empty ended
      exact ⟨rfl, rfl⟩

/-- The funding of `run` is the loop with the target of the deployment. -/
theorem fundAuthority_eq (context : Context) (args : Args) (inputs : Inputs) :
    fundAuthority context args inputs = balanceOf inputs.authorityPubkey >>=
      topUp inputs.authorityKeypair inputs.authorityPubkey (fundingTarget context inputs.elfSize args.idl.isSome) := rfl

/-- Whatever the node answers, the loop ends after at most as many grants as are missing. It ends
well when the last balance suffices, and fails at the first balance that did not grow. -/
theorem topUp_exact (keypair : Keypair) (authority : Pubkey) (target : Nat) (oracle : Oracle api) :
    let run := Fallible.against oracle (balanceOf authority >>= topUp keypair authority target)
    ∃ reply trace, run.1 = ⟨.readAccountInfo authority, reply⟩ :: trace ∧
      (∀ error, startingBalance reply = .error error → trace = [] ∧ run.2 = .error (.archRpc error)) ∧
      ∀ balance, startingBalance reply = .ok balance →
        trace.countP isGrant ≤ target - balance ∧
        (target ≤ balance → trace = [] ∧ run.2 = .ok ()) ∧
        (run.2 = .ok () → target ≤ lastBalance balance trace) ∧
        (balances balance trace).dropLast.IsChain (· < ·) ∧
        (∀ exchange ∈ trace, ∀ error, rpcError? exchange = some error → run.2 = .error (.archRpc error)) ∧
        ((∀ exchange ∈ trace, rpcError? exchange = none) →
          (run.2 = .error notIncreased ↔ ¬(balances balance trace).IsChain (· < ·)) ∧
          (run.2 = .ok () ↔ (balances balance trace).IsChain (· < ·)) ∧
          ∀ grant, 0 < grant → ((balances balance trace).IsChain fun first second => second = first + grant) →
            run.2 = .ok () ∧ trace.countP isGrant = (target - balance + grant - 1) / grant) := by
  intro run
  have traced : Traces (balanceOf authority >>= topUp keypair authority target) run.1 run.2 := traces_against oracle _
  generalize run.1 = trace, run.2 = outcome at traced ⊢
  rcases traces_bind.mp traced with ⟨error, early, ended⟩ | ⟨balance, first, rest, split, early, late⟩
  · obtain ⟨reply, same, shown⟩ := traces_balanceOf early
    refine ⟨reply, [], same, ?_, ?_⟩
    · intro other failed
      rw [failed] at shown
      cases shown
      exact ⟨rfl, ended⟩
    · intro balance known
      rw [known] at shown
      cases shown
  · obtain ⟨reply, same, shown⟩ := traces_balanceOf early
    have funding := funding_of_traces late
    refine ⟨reply, rest, by rw [split, same]; rfl, ?_, ?_⟩
    · intro error failed
      rw [failed] at shown
      cases shown
    · intro other known
      rw [known] at shown
      cases shown
      refine ⟨funding.grants_le, funding.idle, funding.reaches, funding.increases,
        fun exchange member error => funding.fails member, ?_⟩
      intro answers
      have either := funding.answered answers
      refine ⟨?_, ?_, fun grant positive steps => funding.grants_eq positive answers steps⟩
      · rcases either with ⟨same, chain⟩ | ⟨same, broken⟩
        · exact iff_of_false (by rw [same]; exact fun failed => by cases failed) (not_not.mpr chain)
        · exact iff_of_true same broken
      · rcases either with ⟨same, chain⟩ | ⟨same, broken⟩
        · exact iff_of_true same chain
        · exact iff_of_false (by rw [same]; exact fun done => by cases done) broken

end ArchKit.Deploy
