import ArchKit.Effects.Trace
import ArchKit.Error

/-! The exchanges of a command with an RPC node that may answer anything. -/

namespace ArchKit
open Effects Fallible
variable {α β : Type} {trace : List (Exchange api)} {outcome : Except CliError β}

theorem traces_rpc {reply : Except ArchError α} {next : α → Cli β} : Traces (Cli.rpc reply >>= next) trace outcome ↔
    (∃ value, reply = .ok value ∧ Traces (next value) trace outcome) ∨
      ∃ error, reply = .error error ∧ trace = [] ∧ outcome = .error (.archRpc error) := by
  cases reply with
  | ok value =>
    constructor
    · intro traced
      exact .inl ⟨value, rfl, traced⟩
    · intro either
      rcases either with ⟨_, same, traced⟩ | ⟨_, failed, _⟩
      · cases same
        exact traced
      · cases failed
  | error error =>
    change Traces (throw (.archRpc error) : Cli β) trace outcome ↔ _
    rw [traces_throw]
    constructor
    · intro failed
      exact .inr ⟨error, rfl, failed⟩
    · intro either
      rcases either with ⟨_, same, _⟩ | ⟨_, same, failed⟩
      · cases same
      · cases same
        exact failed

/-- The instructions that an exchange submits. -/
def submission? (exchange : Exchange api) : Option (List Instruction) :=
  match exchange.operation with
  | .sendTransaction transaction => some transaction.message.instructions
  | _ => none

end ArchKit
