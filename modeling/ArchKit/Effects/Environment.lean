import ArchKit.Effects.Program

/-! A program on a machine that answers some requests by itself and sends the others to
a remote server. What the program does before it sends anything depends on the machine
alone and can be computed. -/

namespace Effects

structure Machine (I : Interface) (σ : Type) where
  isLocal : I.Request → Bool
  answer : σ → (operation : I.Request) → isLocal operation = true → I.Reply operation × σ

/-- The machine, the remote server and what has been sent to it so far. -/
structure Situation (I : Interface) (σ δ : Type) where
  machine : σ
  remote : δ
  sent : List I.Request

namespace Program
variable {I : Interface} {α β : Type}

/-- Nothing is ever sent, whatever the replies are. -/
def Offline (isLocal : I.Request → Bool) : Program I α → Prop
  | .pure _ => True
  | .request operation next => isLocal operation = true ∧ ∀ reply, (next reply).Offline isLocal

theorem Offline.bind {isLocal : I.Request → Bool} {program : Program I α} {next : α → Program I β}
    (first : program.Offline isLocal) (rest : ∀ value, (next value).Offline isLocal) :
    (program.bind next).Offline isLocal := by
  induction program with
  | pure value => exact rest value
  | request operation others ih => exact ⟨first.1, fun reply => ih reply (first.2 reply)⟩

theorem Offline.mono {isLocal permissive : I.Request → Bool} {program : Program I α} (offline : program.Offline isLocal)
    (implies : ∀ operation, isLocal operation = true → permissive operation = true) : program.Offline permissive := by
  induction program with
  | pure value => trivial
  | request operation next ih => exact ⟨implies operation offline.1, fun reply => ih reply (offline.2 reply)⟩

/-- A server that local requests do not change is left alone by a program of such requests. -/
theorem Offline.ensures {δ : Type} {isLocal : I.Request → Bool} {server : Server I δ} {program : Program I α}
    (offline : program.Offline isLocal)
    (kept : ∀ state operation reply after, isLocal operation = true → server state operation reply after → after = state)
    (state : δ) : Ensures server program (fun _ after => after = state) state := by
  induction program with
  | pure value => rfl
  | request operation next ih =>
    intro reply after served
    rw [kept state operation reply after offline.1 served]
    exact ih reply (offline.2 reply)

end Program

namespace Machine
variable {I : Interface} {α β σ δ : Type} (machine : Machine I σ)

/-- Serve a request locally where that is possible, else by the remote server. -/
def Serves (server : Server I δ) : Server I (Situation I σ δ) := fun before operation reply after =>
  if stays : machine.isLocal operation = true then
    let (answer, state) := machine.answer before.machine operation stays
    reply = answer ∧ after = { before with machine := state }
  else ∃ remote, server before.remote operation reply remote ∧
    after = { before with remote, sent := before.sent ++ [operation] }

/-- Run a program that sends nothing on the machine alone. -/
def run : (program : Program I α) → program.Offline machine.isLocal → σ → α × σ
  | .pure value, _, state => (value, state)
  | .request operation next, offline, state =>
    let (reply, later) := machine.answer state operation offline.1
    run (next reply) (offline.2 reply) later

variable {machine}

section Attempt
variable {κ : Type} (machine) (respond : κ → δ → (operation : I.Request) → Option (I.Reply operation × δ))

/-- Serve a request as a choice of the remote server would. -/
def attempt (choice : κ) (situation : Situation I σ δ) (operation : I.Request) :
    Option (I.Reply operation × Situation I σ δ) :=
  if stays : machine.isLocal operation = true then
    let (answer, state) := machine.answer situation.machine operation stays
    some (answer, { situation with machine := state })
  else (respond choice situation.remote operation).map fun (reply, remote) =>
    (reply, { situation with remote, sent := situation.sent ++ [operation] })

variable {machine respond}

theorem attempt_serves {server : Server I δ} (permitted : ∀ choice state operation reply after,
      respond choice state operation = some (reply, after) → server state operation reply after)
    {choice : κ} {before after : Situation I σ δ} {operation : I.Request} {reply : I.Reply operation}
    (attempted : machine.attempt respond choice before operation = some (reply, after)) :
    machine.Serves server before operation reply after := by
  unfold attempt at attempted
  unfold Serves
  split
  next stays =>
    rw [dif_pos stays] at attempted
    cases attempted
    exact ⟨rfl, rfl⟩
  next leaves =>
    rw [dif_neg leaves] at attempted
    obtain ⟨⟨answer, remote⟩, responded, same⟩ := Option.map_eq_some_iff.mp attempted
    cases same
    exact ⟨remote, permitted _ _ _ _ _ responded, rfl⟩

end Attempt
end Machine

namespace Fallible
variable {I : Interface} {α β ε σ δ : Type} {isLocal : I.Request → Bool}

abbrev Offline (isLocal : I.Request → Bool) (program : Fallible I ε α) : Prop :=
  Program.Offline isLocal (ExceptT.run program)

theorem Offline.pure (value : α) : Offline isLocal (Pure.pure value : Fallible I ε α) := trivial

theorem Offline.throw (error : ε) : Offline isLocal (MonadExcept.throw error : Fallible I ε α) := trivial

theorem Offline.ofExcept (outcome : Except ε α) : Offline isLocal (Fallible.ofExcept outcome : Fallible I ε α) := trivial

theorem Offline.perform {operation : I.Request} {next : I.Reply operation → Fallible I ε β}
    (stays : isLocal operation = true) (rest : ∀ reply, Offline isLocal (next reply)) :
    Offline isLocal (Fallible.perform operation >>= next) :=
  ⟨stays, rest⟩

theorem Offline.bind {program : Fallible I ε α} {next : α → Fallible I ε β} (first : Offline isLocal program)
    (rest : ∀ value, Offline isLocal (next value)) : Offline isLocal (program >>= next) := by
  apply Program.Offline.bind first
  intro outcome
  cases outcome with
  | ok value => exact rest value
  | error error => exact trivial

variable {machine : Machine I σ} {server : Server I δ} {program : Fallible I ε α} {next : α → Fallible I ε β}
  {before after : Situation I σ δ} {later : σ} {outcome : Except ε β}

end Fallible
end Effects
