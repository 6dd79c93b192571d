import ArchKit.Effects.Program
import Mathlib.Logic.Relation
import Mathlib.Tactic.Choose

/-! Concurrent clients of one shared state. Each client executes its program one
request at a time, in any order with the others, and a client may cease to be
scheduled at any point. Proof outlines attach an assertion to every point at which
a client waits, and the assertions have to survive the steps of the other clients. -/

namespace Effects
open Relation (ReflTransGen)

variable {I : Interface} {ι δ α β ε : Type}

/-- What serving one request of a client may reply and do to the shared state. -/
abbrev Service (I : Interface) (ι δ : Type) := ι → Server I δ

structure System (I : Interface) (ι δ α : Type) where
  state : δ
  clients : ι → Program I α

namespace System
variable [DecidableEq ι]

inductive Step (service : Service I ι δ) : System I ι δ α → System I ι δ α → Prop where
  | serve {system : System I ι δ α} (client : ι) {operation : I.Request}
      {next : I.Reply operation → Program I α} {reply : I.Reply operation} {after : δ}
      (issued : system.clients client = .request operation next)
      (served : service client system.state operation reply after) :
      Step service system ⟨after, Function.update system.clients client (next reply)⟩

abbrev Reaches (service : Service I ι δ) : System I ι δ α → System I ι δ α → Prop :=
  ReflTransGen (Step service)

theorem Reaches.mono {service permissive : Service I ι δ} {before after : System I ι δ α}
    (implies : ∀ client state operation reply later, service client state operation reply later →
      permissive client state operation reply later)
    (reached : Reaches service before after) : Reaches permissive before after := by
  induction reached with
  | refl => exact .refl
  | tail _ last ih =>
    obtain ⟨client, issued, served⟩ := last
    exact ih.tail (.serve client issued (implies _ _ _ _ _ served))

/-- Execute a schedule that names the client of every step and a choice among the
outcomes of its request. It is undefined where the choice is not available. -/
def play {κ : Type} (answer : ι → κ → δ → (operation : I.Request) → Option (I.Reply operation × δ)) :
    List (ι × κ) → System I ι δ α → Option (System I ι δ α)
  | [], system => some system
  | (client, choice) :: schedule, system =>
    match system.clients client with
    | .pure _ => none
    | .request operation next =>
      match answer client choice system.state operation with
      | none => none
      | some (reply, after) =>
        play answer schedule ⟨after, Function.update system.clients client (next reply)⟩

theorem play_reaches {κ : Type} {service : Service I ι δ}
    {answer : ι → κ → δ → (operation : I.Request) → Option (I.Reply operation × δ)}
    (permitted : ∀ client choice state operation reply after,
      answer client choice state operation = some (reply, after) →
      service client state operation reply after)
    (schedule : List (ι × κ)) (system final : System I ι δ α)
    (played : play answer schedule system = some final) : Reaches service system final := by
  induction schedule generalizing system with
  | nil => cases played; exact .refl
  | cons entry schedule ih =>
    obtain ⟨client, choice⟩ := entry
    simp only [play] at played
    split at played
    next => cases played
    next operation next issued =>
      split at played
      next => cases played
      next reply after answered =>
        have first : Step service system _ :=
          .serve client issued (permitted _ _ _ _ _ _ answered)
        exact .head first (ih _ played)

end System

/-- The shared invariant and, for every client, the changes it may make. -/
structure Rules (I : Interface) (ι δ : Type) where
  service : Service I ι δ
  invariant : δ → Prop
  guarantee : ι → δ → δ → Prop

namespace Rules
variable (rules : Rules I ι δ)

/-- No other client's step invalidates the assertion. -/
def Stable (client : ι) (assertion : δ → Prop) : Prop :=
  ∀ other, other ≠ client → ∀ before after, rules.invariant before → rules.invariant after →
    rules.guarantee other before after → assertion before → assertion after

/-- A proof outline: every request is safe to serve wherever its assertion holds,
and each reply continues from an assertion that the other clients preserve. -/
def Outline (client : ι) (pre : δ → Prop) (post : α → δ → Prop) : Program I α → Prop
  | .pure value => ∀ state, rules.invariant state → pre state → post value state
  | .request operation next => ∃ middle : I.Reply operation → δ → Prop,
      (∀ reply, rules.Stable client (middle reply)) ∧
      (∀ before reply after, rules.invariant before → pre before →
        rules.service client before operation reply after →
        rules.invariant after ∧ rules.guarantee client before after ∧ middle reply after) ∧
      ∀ reply, Outline client (middle reply) post (next reply)

variable {rules} {client : ι}

theorem Stable.true : rules.Stable client (fun _ => True) := fun _ _ _ _ _ _ _ _ => trivial

theorem Stable.and {first second : δ → Prop} (one : rules.Stable client first)
    (two : rules.Stable client second) : rules.Stable client (fun state => first state ∧ second state) :=
  fun other different before after kept later moves holds =>
    ⟨one other different before after kept later moves holds.1,
      two other different before after kept later moves holds.2⟩

theorem Stable.const (fact : Prop) : rules.Stable client (fun _ => fact) :=
  fun _ _ _ _ _ _ _ holds => holds

theorem Stable.imp {fact : Prop} {assertion : δ → Prop} (stable : rules.Stable client assertion) :
    rules.Stable client (fun state => fact → assertion state) :=
  fun other different before after kept later moves holds given =>
    stable other different before after kept later moves (holds given)

theorem Stable.exists {σ : Sort*} {assertion : σ → δ → Prop}
    (stable : ∀ value, rules.Stable client (assertion value)) :
    rules.Stable client (fun state => ∃ value, assertion value state) :=
  fun other different before after kept later moves ⟨value, holds⟩ =>
    ⟨value, stable value other different before after kept later moves holds⟩

theorem Outline.weaken {pre required : δ → Prop} {post : α → δ → Prop} {program : Program I α}
    (outline : rules.Outline client required post program)
    (implies : ∀ state, rules.invariant state → pre state → required state) :
    rules.Outline client pre post program := by
  cases program with
  | pure value => exact fun state kept holds => outline state kept (implies state kept holds)
  | request operation next =>
    obtain ⟨middle, stable, served, rest⟩ := outline
    exact ⟨middle, stable, fun before reply after kept holds => served before reply after kept (implies before kept holds), rest⟩

theorem Outline.bind {pre : δ → Prop} {between : α → δ → Prop} {post : β → δ → Prop}
    {program : Program I α} {next : α → Program I β}
    (first : rules.Outline client pre between program)
    (rest : ∀ value, rules.Outline client (between value) post (next value)) :
    rules.Outline client pre post (program.bind next) := by
  induction program generalizing pre with
  | pure value => exact (rest value).weaken first
  | request operation remaining ih =>
    obtain ⟨middle, stable, served, continued⟩ := first
    exact ⟨middle, stable, served, fun reply => ih reply (continued reply)⟩

/-- An assertion with an unknown is handled one value of the unknown at a time. -/
theorem Outline.exists {σ : Sort*} {pre : σ → δ → Prop} {post : α → δ → Prop} {program : Program I α}
    (outline : ∀ value, rules.Outline client (pre value) post program) :
    rules.Outline client (fun state => ∃ value, pre value state) post program := by
  induction program generalizing σ with
  | pure answer => exact fun state kept ⟨value, holds⟩ => outline value state kept holds
  | request operation next ih =>
    choose middle stable served rest using outline
    refine ⟨fun reply state => ∃ value, middle value reply state, fun reply => Stable.exists (stable · reply), ?_, ?_⟩
    · intro before reply after kept some law
      obtain ⟨value, holds⟩ := some
      obtain ⟨later, moves, reached⟩ := served value before reply after kept holds law
      exact ⟨later, moves, value, reached⟩
    · exact fun reply => ih reply (rest · reply)

/-- An outline that constrains only the values a fallible program returns. -/
def Achieves (rules : Rules I ι δ) (client : ι) (pre : δ → Prop) (post : α → δ → Prop)
    (program : Fallible I ε α) : Prop :=
  rules.Outline client pre (fun outcome state => ∀ value, outcome = .ok value → post value state) (ExceptT.run program)

theorem Achieves.exists {σ : Sort*} {pre : σ → δ → Prop} {post : α → δ → Prop} {program : Fallible I ε α}
    (outline : ∀ value, rules.Achieves client (pre value) post program) :
    rules.Achieves client (fun state => ∃ value, pre value state) post program :=
  Outline.exists outline

namespace Achieves
variable {pre required : δ → Prop} {post weaker : α → δ → Prop} {last : β → δ → Prop}

theorem pure {value : α} (implies : ∀ state, rules.invariant state → pre state → post value state) :
    rules.Achieves client pre post (Pure.pure value : Fallible I ε α) := by
  intro state kept holds other same
  cases same
  exact implies state kept holds

theorem throw (error : ε) : rules.Achieves client pre post (MonadExcept.throw error : Fallible I ε α) := by
  intro state kept holds value same
  cases same

theorem throw_bind (error : ε) {next : α → Fallible I ε β} :
    rules.Achieves client pre last (MonadExcept.throw error >>= next) := by
  intro state kept holds value same
  cases same

theorem weaken {program : Fallible I ε α} (outline : rules.Achieves client required post program)
    (implies : ∀ state, rules.invariant state → pre state → required state) : rules.Achieves client pre post program :=
  Outline.weaken outline implies

theorem assume {fact : Prop} {program : Fallible I ε α} (outline : fact → rules.Achieves client pre post program) :
    rules.Achieves client (fun state => fact ∧ pre state) post program :=
  (Achieves.exists outline).weaken (fun _ _ holds => ⟨holds.1, holds.2⟩)

theorem bind (between : α → δ → Prop) {program : Fallible I ε α} {next : α → Fallible I ε β}
    (first : rules.Achieves client pre between program)
    (rest : ∀ value, rules.Achieves client (between value) last (next value)) :
    rules.Achieves client pre last (program >>= next) := by
  unfold Achieves
  rw [ExceptT.run_bind]
  apply Outline.bind first
  intro outcome
  cases outcome with
  | ok value => exact Outline.weaken (rest value) (fun state _ holds => holds value rfl)
  | error error =>
    intro state _ _ value same
    cases same

theorem ofExcept {outcome : Except ε α} {next : α → Fallible I ε β}
    (rest : ∀ value, outcome = .ok value → rules.Achieves client pre last (next value)) :
    rules.Achieves client pre last (Fallible.ofExcept outcome >>= next) := by
  cases outcome with
  | ok value => exact rest value rfl
  | error error =>
    intro state _ _ value same
    cases same

theorem perform (operation : I.Request) {post : I.Reply operation → δ → Prop}
    (stable : ∀ reply, rules.Stable client (post reply))
    (served : ∀ before reply after, rules.invariant before → pre before →
      rules.service client before operation reply after →
      rules.invariant after ∧ rules.guarantee client before after ∧ post reply after) :
    rules.Achieves client pre post (Fallible.perform (ε := ε) operation) := by
  refine ⟨post, stable, served, ?_⟩
  intro reply state _ holds value same
  cases same
  exact holds

end Achieves

/-- A client that runs alone and stops anywhere has only made the changes it may make. -/
theorem Outline.stops {post : α → δ → Prop} {program : Program I α} {pre : δ → Prop}
    (outline : rules.Outline client pre post program) {before after : δ} (kept : rules.invariant before)
    (holds : pre before) (stopped : Program.Stops (rules.service client) program before after) :
    rules.invariant after ∧ ReflTransGen (rules.guarantee client) before after := by
  induction program generalizing pre before with
  | pure value =>
    cases stopped
    exact ⟨kept, .refl⟩
  | request operation next ih =>
    cases stopped with
    | here => exact ⟨kept, .refl⟩
    | request served rest =>
      obtain ⟨middle, _, law, remaining⟩ := outline
      obtain ⟨later, moves, reached⟩ := law _ _ _ kept holds served
      obtain ⟨final, changes⟩ := ih _ (remaining _) later reached rest
      exact ⟨final, .head moves changes⟩

end Rules

/-- A system each of whose clients stands at an asserted point of its outline. -/
structure Outlined (rules : Rules I ι δ) (post : ι → α → δ → Prop)
    (system : System I ι δ α) : Prop where
  invariant : rules.invariant system.state
  clients : ∀ client, ∃ pre, rules.Stable client pre ∧ pre system.state ∧
    rules.Outline client pre (post client) (system.clients client)

namespace Outlined
variable [DecidableEq ι] {rules : Rules I ι δ} {post : ι → α → δ → Prop}

theorem step {before after : System I ι δ α} (outlined : Outlined rules post before)
    (moved : System.Step rules.service before after) :
    Outlined rules post after ∧ ∃ client, rules.guarantee client before.state after.state := by
  obtain ⟨client, issued, served⟩ := moved
  obtain ⟨pre, stable, holds, outline⟩ := outlined.clients client
  rw [issued] at outline
  obtain ⟨middle, steady, law, rest⟩ := outline
  obtain ⟨kept, moves, reached⟩ := law _ _ _ outlined.invariant holds served
  refine ⟨⟨kept, ?_⟩, client, moves⟩
  intro other
  by_cases same : other = client
  · subst other
    refine ⟨middle _, steady _, reached, ?_⟩
    simpa only [Function.update_self] using rest _
  · obtain ⟨assertion, survives, held, remaining⟩ := outlined.clients other
    refine ⟨assertion, survives, survives client (Ne.symm same) _ _ outlined.invariant kept moves held, ?_⟩
    simpa only [Function.update_of_ne same] using remaining

theorem reaches {before after : System I ι δ α} (outlined : Outlined rules post before)
    (moved : System.Reaches rules.service before after) : Outlined rules post after := by
  induction moved with
  | refl => exact outlined
  | tail _ last ih => exact (ih.step last).1

/-- Every relation that composes and contains all clients' changes relates the
states before and after any execution. -/
theorem moves {before after : System I ι δ α} (outlined : Outlined rules post before)
    (moved : System.Reaches rules.service before after) {relation : δ → δ → Prop}
    (refl : ∀ state, relation state state)
    (trans : ∀ {first second third}, relation first second → relation second third → relation first third)
    (contains : ∀ client first second, rules.invariant first → rules.invariant second →
      rules.guarantee client first second → relation first second) :
    relation before.state after.state := by
  induction moved with
  | refl => exact refl _
  | tail earlier last ih =>
    have middle := outlined.reaches earlier
    obtain ⟨later, client, change⟩ := middle.step last
    exact trans ih (contains client _ _ middle.invariant later.invariant change)

omit [DecidableEq ι] in
theorem returned {system : System I ι δ α} (outlined : Outlined rules post system)
    {client : ι} {value : α} (finished : system.clients client = .pure value) :
    post client value system.state := by
  obtain ⟨pre, _, holds, outline⟩ := outlined.clients client
  rw [finished] at outline
  exact outline _ outlined.invariant holds

end Outlined
end Effects
