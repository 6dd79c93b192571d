import ArchKit.Effects.Program
import Mathlib.Algebra.BigOperators.Group.List.Basic
import Mathlib.Algebra.GroupWithZero.Nat

/-! Commands executed one after the other, each in the state the one before it left. -/

namespace Effects
variable {I : Interface} {κ α δ : Type}

/-- One command of a series, with its outcome and the states around it. -/
structure Attempt (κ α δ : Type) where
  command : κ
  before : δ
  outcome : α
  after : δ

inductive Series (server : Server I δ) (program : κ → Program I α) : List κ → δ → List (Attempt κ α δ) → δ → Prop where
  | nil {state : δ} : Series server program [] state [] state
  | cons {command : κ} {commands : List κ} {before middle last : δ} {outcome : α} {attempts : List (Attempt κ α δ)}
      (executed : Program.Executes server (program command) before outcome middle)
      (rest : Series server program commands middle attempts last) :
      Series server program (command :: commands) before (⟨command, before, outcome, middle⟩ :: attempts) last

namespace Series
variable {server : Server I δ} {program : κ → Program I α} {commands : List κ} {before last : δ}
  {attempts : List (Attempt κ α δ)} {invariant : δ → Prop}

/-- What every command preserves holds around each of them and in the end. -/
theorem induct (series : Series server program commands before attempts last) (start : invariant before)
    (preserves : ∀ command before outcome after, invariant before →
      Program.Executes server (program command) before outcome after → invariant after) :
    invariant last ∧ ∀ attempt ∈ attempts, invariant attempt.before ∧
      Program.Executes server (program attempt.command) attempt.before attempt.outcome attempt.after := by
  induction series with
  | nil => exact ⟨start, fun attempt member => by cases member⟩
  | cons executed rest ih =>
    obtain ⟨final, others⟩ := ih (preserves _ _ _ _ start executed)
    refine ⟨final, ?_⟩
    intro attempt member
    rcases List.mem_cons.mp member with same | later
    · subst same
      exact ⟨start, executed⟩
    · exact others attempt later

/-- A measure that grows by the gain of every command has grown by all of them. -/
theorem total (measure : δ → Nat) (gain : Attempt κ α δ → Nat)
    (series : Series server program commands before attempts last) (start : invariant before)
    (step : ∀ command before outcome after, invariant before →
      Program.Executes server (program command) before outcome after →
      invariant after ∧ measure after = measure before + gain ⟨command, before, outcome, after⟩) :
    measure last = measure before + (attempts.map gain).sum := by
  induction series with
  | nil => rfl
  | cons executed rest ih =>
    obtain ⟨kept, grown⟩ := step _ _ _ _ start executed
    rw [ih kept, grown, List.map_cons, List.sum_cons, Nat.add_assoc]

end Series
end Effects
