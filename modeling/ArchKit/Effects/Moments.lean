import ArchKit.Effects.Interleaving
import ArchKit.Effects.Sum

/-! One client of a shared state, as it sees the work of the others: between any two of
its requests they may move. Its own program runs on a server whose state is the whole
system, so what a request shows is known of a moment of that very run. -/

namespace Effects
open Relation (ReflTransGen)

variable {I : Interface} {ι δ α : Type} [DecidableEq ι]

namespace System

/-- The system serves a request of the client. -/
def Moves (service : Service I ι δ) (client : ι) : Server I (System I ι δ α) := fun before operation reply after =>
  ∃ next, before.clients client = .request operation next ∧ service client before.state operation reply after.state ∧
    after.clients = Function.update before.clients client (next reply)

/-- The others move, and the client does not. -/
abbrev Waits (service : Service I ι δ) (client : ι) : System I ι δ α → System I ι δ α → Prop :=
  ReflTransGen fun before after => ∃ other ≠ client, ∃ operation reply, Moves service other before operation reply after

/-- A request of the client, after some moves of the others. -/
def among (service : Service I ι δ) (client : ι) : Server I (System I ι δ α) := fun before operation reply after =>
  ∃ middle, Waits service client before middle ∧ Moves service client middle operation reply after

variable {service : Service I ι δ} {client : ι} {before after : System I ι δ α}

theorem Moves.step {operation : I.Request} {reply : I.Reply operation} (moved : Moves service client before operation reply after) :
    Step service before after := by
  obtain ⟨next, issued, served, same⟩ := moved
  obtain ⟨state, clients⟩ := after
  subst same
  exact .serve client issued served

theorem Step.moves (stepped : Step service before after) : ∃ client operation reply, Moves service client before operation reply after := by
  obtain ⟨client, issued, served⟩ := stepped
  exact ⟨client, _, _, _, issued, served, rfl⟩

theorem Waits.reaches (waited : Waits service client before after) : Reaches service before after := by
  induction waited with
  | refl => exact .refl
  | tail _ last ih =>
    obtain ⟨_, _, _, _, moved⟩ := last
    exact ih.tail moved.step

theorem Waits.same (waited : Waits service client before after) : after.clients client = before.clients client := by
  induction waited with
  | refl => rfl
  | tail _ last ih =>
    obtain ⟨other, different, _, _, _, _, _, same⟩ := last
    rw [same, Function.update_of_ne (Ne.symm different), ih]

/-- What the others do before a client's first request. -/
theorem executes_waits {middle last : System I ι δ α} {value : α} {program : Program I α} (waited : Waits service client before middle)
    (executed : Program.Executes (among service client) program middle value last) (rest : Waits service client last after) :
    ∃ last, Program.Executes (among service client) program before value last ∧ Waits service client last after := by
  cases executed with
  | pure => exact ⟨before, .pure, waited.trans rest⟩
  | request served remaining =>
    obtain ⟨later, more, moved⟩ := served
    exact ⟨last, .request ⟨later, waited.trans more, moved⟩ remaining, rest⟩

/-- A client that is through has executed its program among the others. -/
theorem Reaches.executes (reached : Reaches service before after) {value : α} (finished : after.clients client = .pure value) :
    ∃ last, Program.Executes (among service client) (before.clients client) before value last ∧ Waits service client last after := by
  induction reached using ReflTransGen.head_induction_on with
  | refl =>
    rw [finished]
    exact ⟨after, .pure, .refl⟩
  | @head first second stepped _ ih =>
    obtain ⟨last, executed, rest⟩ := ih
    obtain ⟨mover, operation, reply, moved⟩ := stepped.moves
    by_cases own : mover = client
    · subst own
      obtain ⟨next, issued, served, same⟩ := moved
      rw [same, Function.update_self] at executed
      rw [issued]
      exact ⟨last, .request ⟨first, .refl, next, issued, served, same⟩ executed, rest⟩
    · have waited : Waits service client first second := .single ⟨mover, own, operation, reply, moved⟩
      rw [waited.same] at executed
      exact executes_waits waited executed rest

/-- The rule for a client that is through. -/
theorem Reaches.ensures (reached : Reaches service before after) {value : α} (finished : after.clients client = .pure value)
    {post : α → System I ι δ α → Prop} (ensured : Program.Ensures (among service client) (before.clients client) post before) :
    ∃ last, post value last ∧ Waits service client last after := by
  obtain ⟨last, executed, rest⟩ := reached.executes finished
  exact ⟨last, Program.ensures_iff.mp ensured value last executed, rest⟩

/-- What nobody's request changes. -/
theorem Reaches.keeps (holds : δ → Prop) (preserves : ∀ client state operation reply later, holds state →
    service client state operation reply later → holds later) (reached : Reaches service before after) (start : holds before.state) :
    holds after.state := by
  induction reached with
  | refl => exact start
  | tail _ last ih =>
    obtain ⟨client, _, served⟩ := last
    exact preserves client _ _ _ _ ih served

/-- What the requests of others leave alone. -/
theorem Waits.unchanged {β : Type} (view : δ → β) (kept : ∀ other ≠ client, ∀ state operation reply later,
    service other state operation reply later → view later = view state) (waited : Waits service client before after) :
    view after.state = view before.state := by
  induction waited with
  | refl => rfl
  | tail _ last ih =>
    obtain ⟨other, different, _, _, _, _, served, _⟩ := last
    rw [kept other different _ _ _ _ served, ih]

end System

namespace Fallible
variable {J : Interface} {β ε κ : Type} {server : Server I δ} {post weaker : α → δ → δ → Prop} {last : β → δ → δ → Prop}
  {program : Fallible I ε α}

/-- From every state, a value that is returned is related to that state and to the one at
the end. -/
def Delivers (server : Server I δ) (program : Fallible I ε α) (post : α → δ → δ → Prop) : Prop :=
  ∀ before, Ensures server program (fun outcome after => ∀ value, outcome = .ok value → post value before after) before

omit [DecidableEq ι]

theorem Delivers.mono (delivers : Delivers server program post)
    (implies : ∀ value before after, post value before after → weaker value before after) : Delivers server program weaker := by
  intro before
  apply Ensures.mono (delivers before)
  exact fun outcome after holds value same => implies value before after (holds value same)

theorem Delivers.pure (value : α) : Delivers server (Pure.pure value : Fallible I ε α)
    fun other before after => other = value ∧ after = before := by
  intro before other same
  cases same
  exact ⟨rfl, rfl⟩

theorem Delivers.ofExcept (outcome : Except ε α) : Delivers server (Fallible.ofExcept outcome)
    fun value before after => outcome = .ok value ∧ after = before := by
  intro before
  cases outcome with
  | ok value => exact fun other same => ⟨same, rfl⟩
  | error error => exact fun other same => by cases same

theorem Delivers.perform (operation : I.Request) : Delivers server (Fallible.perform operation : Fallible I ε (I.Reply operation))
    fun reply before after => server before operation reply after := by
  intro before reply after served value same
  cases same
  exact served

theorem Delivers.bind {next : α → Fallible I ε β} {rest : α → β → δ → δ → Prop} (first : Delivers server program post)
    (others : ∀ value, Delivers server (next value) (rest value)) :
    Delivers server (program >>= next) fun other before after =>
      ∃ value middle, post value before middle ∧ rest value other middle after := by
  intro before
  rw [ensures_bind]
  apply Ensures.mono (first before)
  intro outcome middle holds
  cases outcome with
  | ok value =>
    apply Ensures.mono (others value middle)
    exact fun outcome after later other same => ⟨value, middle, holds value rfl, later other same⟩
  | error error => exact fun other same => by cases same

theorem Delivers.wrap {convert : ε → κ} (delivers : Delivers server program post) :
    Delivers server (Fallible.wrap convert program) post := by
  intro before
  rw [ensures_wrap]
  apply Ensures.mono (delivers before)
  exact fun outcome after holds value same => holds value (wrapError_eq_ok.mp same)

theorem Delivers.left {server : Server (I.sum J) δ} (delivers : Delivers server.left program post) :
    Delivers server (program.left J) post := fun before => ensures_left.mpr (delivers before)

end Fallible
end Effects
