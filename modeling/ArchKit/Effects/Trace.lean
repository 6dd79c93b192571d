import ArchKit.Effects.Program

/-! What passes between a program and whoever answers it: its requests with their replies,
in their order. Nothing is assumed about the answers. -/

namespace Effects
variable {I : Interface} {α β ε : Type}

/-- A request and the reply that it received. -/
structure Exchange (I : Interface) where
  operation : I.Request
  reply : I.Reply operation

/-- Somebody who answers with regard to everything that happened before. -/
abbrev Oracle (I : Interface) := List (Exchange I) → (operation : I.Request) → I.Reply operation

namespace Program

/-- The program makes these exchanges and ends with this value. -/
inductive Traces : Program I α → List (Exchange I) → α → Prop where
  | pure {value : α} : Traces (.pure value) [] value
  | request {operation : I.Request} {next : I.Reply operation → Program I α} {reply : I.Reply operation}
      {trace : List (Exchange I)} {value : α} (rest : Traces (next reply) trace value) :
      Traces (.request operation next) (⟨operation, reply⟩ :: trace) value

/-- The exchanges of a program with an oracle, after those in the past, and its value. -/
def against (oracle : Oracle I) : Program I α → List (Exchange I) → List (Exchange I) × α
  | .pure value, _ => ([], value)
  | .request operation next, past =>
    let exchange : Exchange I := ⟨operation, oracle past operation⟩
    let (trace, value) := against oracle (next exchange.reply) (past ++ [exchange])
    (exchange :: trace, value)

theorem traces_against (oracle : Oracle I) (program : Program I α) (past : List (Exchange I)) :
    Traces program (program.against oracle past).1 (program.against oracle past).2 := by
  induction program generalizing past with
  | pure value => exact .pure
  | request operation next ih => exact .request (ih _ _)

/-- The replies are those of the oracle, after what was in the past. -/
def Answered (oracle : Oracle I) : List (Exchange I) → List (Exchange I) → Prop
  | _, [] => True
  | past, exchange :: trace =>
    exchange.reply = oracle past exchange.operation ∧ Answered oracle (past ++ [exchange]) trace

theorem answered_against (oracle : Oracle I) (program : Program I α) (past : List (Exchange I)) :
    Answered oracle past (program.against oracle past).1 := by
  induction program generalizing past with
  | pure value => trivial
  | request operation next ih => exact ⟨rfl, ih _ _⟩

/-- What the oracle says of every request it has answered. -/
theorem Answered.forall {oracle : Oracle I} {fact : Exchange I → Prop} {past trace : List (Exchange I)}
    (answered : Answered oracle past trace) (holds : ∀ past operation, fact ⟨operation, oracle past operation⟩) :
    ∀ exchange ∈ trace, fact exchange := by
  induction trace generalizing past with
  | nil => exact fun _ member => by cases member
  | cons first rest ih =>
    obtain ⟨same, later⟩ := answered
    intro exchange member
    rcases List.mem_cons.mp member with equal | inside
    · have given : (⟨first.operation, oracle past first.operation⟩ : Exchange I) = first := by rw [← same]
      rw [equal, ← given]
      exact holds past first.operation
    · exact ih later exchange inside

theorem traces_bind {program : Program I α} {next : α → Program I β} {trace : List (Exchange I)} {last : β} :
    Traces (program.bind next) trace last ↔
      ∃ value first rest, trace = first ++ rest ∧ Traces program first value ∧ Traces (next value) rest last := by
  constructor
  · intro traced
    induction program generalizing trace with
    | pure value => exact ⟨value, [], trace, rfl, .pure, traced⟩
    | request operation others ih =>
      cases traced with
      | request remaining =>
        obtain ⟨value, first, rest, same, early, late⟩ := ih _ remaining
        exact ⟨value, _ :: first, rest, by rw [same]; rfl, .request early, late⟩
  · intro split
    obtain ⟨value, first, rest, same, early, late⟩ := split
    subst same
    induction early with
    | pure => exact late
    | request _ ih => exact .request (ih late)

end Program

namespace Fallible

abbrev Traces (program : Fallible I ε α) (trace : List (Exchange I)) (outcome : Except ε α) : Prop :=
  Program.Traces (ExceptT.run program) trace outcome

/-- The run of a program against an oracle. -/
abbrev against (oracle : Oracle I) (program : Fallible I ε α) : List (Exchange I) × Except ε α :=
  Program.against oracle (ExceptT.run program) []

variable {trace : List (Exchange I)} {outcome : Except ε β}

theorem traces_against (oracle : Oracle I) (program : Fallible I ε α) :
    Traces program (program.against oracle).1 (program.against oracle).2 :=
  Program.traces_against ..

theorem answered_against (oracle : Oracle I) (program : Fallible I ε α) :
    Program.Answered oracle [] (program.against oracle).1 :=
  Program.answered_against ..

theorem traces_pure {value : β} : Traces (Pure.pure value : Fallible I ε β) trace outcome ↔ trace = [] ∧ outcome = .ok value := by
  constructor
  · intro traced
    cases traced
    exact ⟨rfl, rfl⟩
  · intro same
    obtain ⟨empty, done⟩ := same
    subst empty done
    exact .pure

theorem traces_throw {error : ε} :
    Traces (MonadExcept.throw error : Fallible I ε β) trace outcome ↔ trace = [] ∧ outcome = .error error := by
  constructor
  · intro traced
    cases traced
    exact ⟨rfl, rfl⟩
  · intro same
    obtain ⟨empty, failed⟩ := same
    subst empty failed
    exact .pure

theorem traces_perform {operation : I.Request} {next : I.Reply operation → Fallible I ε β} :
    Traces (perform operation >>= next) trace outcome ↔
      ∃ reply rest, trace = ⟨operation, reply⟩ :: rest ∧ Traces (next reply) rest outcome := by
  constructor
  · intro traced
    cases traced with
    | request rest => exact ⟨_, _, rfl, rest⟩
  · intro split
    obtain ⟨reply, rest, same, traced⟩ := split
    subst same
    exact .request traced

theorem traces_bind {program : Fallible I ε α} {next : α → Fallible I ε β} :
    Traces (program >>= next) trace outcome ↔
      (∃ error, Traces program trace (.error error) ∧ outcome = .error error) ∨
      ∃ value first rest, trace = first ++ rest ∧ Traces program first (.ok value) ∧ Traces (next value) rest outcome := by
  refine Program.traces_bind.trans ⟨?_, ?_⟩
  · intro split
    obtain ⟨middle, first, rest, same, early, late⟩ := split
    cases middle with
    | ok value => exact .inr ⟨value, first, rest, same, early, late⟩
    | error error =>
      cases late
      rw [same, List.append_nil]
      exact .inl ⟨error, early, rfl⟩
  · intro either
    rcases either with ⟨error, early, same⟩ | ⟨value, first, rest, same, early, late⟩
    · rw [same]
      exact ⟨.error error, trace, [], (List.append_nil _).symm, early, .pure⟩
    · exact ⟨.ok value, first, rest, same, early, late⟩

end Fallible
end Effects
