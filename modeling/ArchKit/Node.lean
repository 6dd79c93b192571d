import ArchKit.TokenProgram

/-! A node in front of a chain whose programs are a parameter. Every transaction that is
sent is recorded, also one that got lost. -/

namespace ArchKit

/-- What the programs of a chain make of a transaction: all of it or nothing. -/
abbrev Processor := Ledger → RuntimeTransaction → Option Ledger

namespace Node
variable {ι : Type} (process : Processor)

/-- What the chain and the network may do with a request. In a reliable network the
sender of a transaction that was executed learns that. -/
def Serves (reliable : Prop) (client : ι) (before : World ι) : (operation : Request) → operation.Reply → World ι → Prop
  | .readAccountInfo address, reply, after => after = before ∧
      match reply with
      | .ok account => before.ledger.accounts address = some account
      | .error (.notFound _) => before.ledger.accounts address = none
      | .error _ => True
  | .sendTransaction transaction, reply, after =>
      (after = before.lose client transaction ∧ ∃ error, reply = .error error) ∨
      ((reply = .ok before.nextId ∨ (¬reliable ∧ ∃ error, reply = .error error)) ∧
        ((∃ ledger, process before.ledger transaction = some ledger ∧ after = before.commit client transaction ledger) ∨
          ∃ reason, after = before.reject client transaction reason))
  | .waitForProcessedTransaction id, reply, after => after = before ∧
      ((∃ entry, before.log[id.number]? = some entry ∧ reply = .ok ⟨entry.status⟩) ∨
        ((reliable → before.log[id.number]? = none) ∧ ∃ error, reply = .error error))
  | _, _, after => after = before

/-- The ledger that the executed ones among some transactions lead to, one after the other. -/
def replay : Ledger → List (Entry ι) → Option Ledger
  | ledger, [] => some ledger
  | ledger, entry :: entries =>
    if entry.status = .processed then (process ledger entry.transaction).bind fun after => replay after entries
    else replay ledger entries

variable {process} {reliable : Prop} {client : ι} {before after : World ι}

theorem replay_append {ledger : Ledger} {first second : List (Entry ι)} :
    replay process ledger (first ++ second) = (replay process ledger first).bind fun middle => replay process middle second := by
  induction first generalizing ledger with
  | nil => rfl
  | cons entry entries ih =>
    simp only [List.cons_append, replay]
    split
    · rw [Option.bind_assoc]
      congr 1
      funext middle
      exact ih
    · exact ih

/-- What a request can do that is no submission. -/
theorem Serves.still {operation : Request} {reply : operation.Reply} (quiet : (!operation.submits) = true)
    (served : Serves process reliable client before operation reply after) : after = before := by
  cases operation with
  | sendTransaction transaction => cases quiet
  | readAccountInfo address => exact served.1
  | waitForProcessedTransaction id => exact served.1
  | _ => exact served

/-- The programs of the tokens on such a chain. -/
def tokens (sdk : TokenSdk) : Processor := fun ledger transaction =>
  TokenProgram.processInstructions sdk ledger transaction.message.instructions

theorem serves_tokens {sdk : TokenSdk} {operation : Request} {reply : operation.Reply} :
    TokenProgram.Serves sdk reliable client before operation reply after ↔
      Serves (tokens sdk) reliable client before operation reply after := by
  cases operation <;> exact Iff.rfl

end Node
end ArchKit
