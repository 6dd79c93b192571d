import Mathlib.Logic.Function.Basic

/-! Client programs as trees of requests. A program issues one request at a time
and continues with the reply, so the same program can be executed alone, stopped
between two requests, or interleaved with other programs. -/

namespace Effects

/-- The requests a program may issue and the type of each one's reply. -/
structure Interface where
  Request : Type
  Reply : Request → Type

inductive Program (I : Interface) (α : Type) where
  | pure (value : α)
  | request (operation : I.Request) (next : I.Reply operation → Program I α)

/-- What serving one request may reply and do to the state. -/
abbrev Server (I : Interface) (δ : Type) := δ → (operation : I.Request) → I.Reply operation → δ → Prop

namespace Program
variable {I : Interface} {α β γ δ ε : Type}

def bind (program : Program I α) (next : α → Program I β) : Program I β :=
  match program with
  | .pure value => next value
  | .request operation rest => .request operation (fun reply => (rest reply).bind next)

def send (operation : I.Request) : Program I (I.Reply operation) := .request operation .pure

instance : Monad (Program I) where
  pure := .pure
  bind := bind

theorem bind_pure (program : Program I α) : program.bind .pure = program := by
  induction program with
  | pure value => rfl
  | request operation rest ih => simp only [bind, ih]

theorem bind_bind (client : Program I α) (middle : α → Program I β) (last : β → Program I γ) :
    (client.bind middle).bind last = client.bind (fun answer => (middle answer).bind last) := by
  induction client with
  | pure answer => rfl
  | request operation rest ih => simp only [bind, ih]

instance : LawfulMonad (Program I) :=
  LawfulMonad.mk' _ (fun program => bind_pure program) (fun _ _ => rfl) (fun client middle last => bind_bind client middle last)

@[simp] theorem bind_eq (program : Program I α) (next : α → Program I β) :
    program >>= next = program.bind next := rfl

/-- A complete execution, without interference from anybody else. -/
inductive Executes (server : Server I δ) : Program I α → δ → α → δ → Prop where
  | pure {value : α} {state : δ} : Executes server (.pure value) state value state
  | request {operation : I.Request} {next : I.Reply operation → Program I α} {before middle after : δ}
      {reply : I.Reply operation} {value : α} (served : server before operation reply middle)
      (rest : Executes server (next reply) middle value after) :
      Executes server (.request operation next) before value after

/-- An execution that is abandoned after some of its requests. -/
inductive Stops (server : Server I δ) : Program I α → δ → δ → Prop where
  | here {program : Program I α} {state : δ} : Stops server program state state
  | request {operation : I.Request} {next : I.Reply operation → Program I α} {before middle after : δ}
      {reply : I.Reply operation} (served : server before operation reply middle)
      (rest : Stops server (next reply) middle after) : Stops server (.request operation next) before after

/-- The weakest precondition: every complete execution ends as required. -/
def Ensures (server : Server I δ) : Program I α → (α → δ → Prop) → δ → Prop
  | .pure value, post, state => post value state
  | .request operation next, post, state =>
    ∀ reply after, server state operation reply after → Ensures server (next reply) post after

variable {server : Server I δ} {program : Program I α} {before after : δ} {value : α}

theorem ensures_iff {post : α → δ → Prop} {state : δ} :
    Ensures server program post state ↔
      ∀ value after, Executes server program state value after → post value after := by
  induction program generalizing state with
  | pure value =>
    refine ⟨fun holds other after executed => ?_, fun always => always _ _ .pure⟩
    cases executed
    exact holds
  | request operation next ih =>
    constructor
    · intro ensured value after executed
      cases executed with
      | request served rest => exact (ih _).mp (ensured _ _ served) value after rest
    · intro always reply middle served
      exact (ih reply).mpr (fun value after rest => always value after (.request served rest))

theorem Ensures.mono {post weaker : α → δ → Prop} {state : δ} (ensured : Ensures server program post state)
    (implies : ∀ value after, post value after → weaker value after) : Ensures server program weaker state :=
  ensures_iff.mpr (fun value after executed => implies _ _ (ensures_iff.mp ensured value after executed))

theorem ensures_bind {next : α → Program I β} {post : β → δ → Prop} {state : δ} :
    Ensures server (program.bind next) post state ↔
      Ensures server program (fun value after => Ensures server (next value) post after) state := by
  induction program generalizing state with
  | pure value => exact Iff.rfl
  | request operation rest ih => exact forall_congr' fun reply => forall_congr' fun _ => imp_congr_right fun _ => ih reply

theorem Executes.bind {next : α → Program I β} {middle : δ} {last : β} (first : Executes server program before value middle)
    (rest : Executes server (next value) middle last after) : Executes server (program.bind next) before last after := by
  induction first with
  | pure => exact rest
  | request served _ ih => exact .request served (ih rest)

theorem executes_bind {next : α → Program I β} {last : β} : Executes server (program.bind next) before last after ↔
    ∃ value middle, Executes server program before value middle ∧ Executes server (next value) middle last after := by
  constructor
  · intro executed
    induction program generalizing before with
    | pure value => exact ⟨value, before, .pure, executed⟩
    | request operation others ih =>
      cases executed with
      | request served remaining =>
        obtain ⟨value, middle, first, rest⟩ := ih _ remaining
        exact ⟨value, middle, .request served first, rest⟩
  · intro split
    obtain ⟨value, middle, first, rest⟩ := split
    exact first.bind rest

/-- An execution on a server that may reply anything. -/
theorem Executes.unserved (executed : Executes server program before value after) :
    Executes (fun _ _ _ _ => True) program () value () := by
  induction executed with
  | pure => exact .pure
  | request _ _ ih => exact .request trivial ih

theorem Executes.stops (executed : Executes server program before value after) : Stops server program before after := by
  induction executed with
  | pure => exact .here
  | request served _ ih => exact .request served ih

theorem stops_bind {next : α → Program I β} (stopped : Stops server (program.bind next) before after) :
    Stops server program before after ∨
      ∃ value middle, Executes server program before value middle ∧ Stops server (next value) middle after := by
  induction program generalizing before with
  | pure value => exact .inr ⟨value, before, .pure, stopped⟩
  | request operation rest ih =>
    cases stopped with
    | here => exact .inl .here
    | request served remaining =>
      rcases ih _ remaining with early | ⟨value, middle, first, late⟩
      · exact .inl (.request served early)
      · exact .inr ⟨value, middle, .request served first, late⟩

theorem Stops.mono {permissive : Server I δ} (implies : ∀ state operation reply later,
    server state operation reply later → permissive state operation reply later)
    (stopped : Stops server program before after) : Stops permissive program before after := by
  induction stopped with
  | here => exact .here
  | request served _ ih => exact .request (implies _ _ _ _ served) ih

/-- Serve one request for each choice and return what is left of the program. It is
undefined where a choice is not available. -/
def follow {κ : Type} (answer : κ → δ → (operation : I.Request) → Option (I.Reply operation × δ)) :
    List κ → Program I α → δ → Option (Program I α × δ)
  | [], program, state => some (program, state)
  | _ :: _, .pure _, _ => none
  | choice :: choices, .request operation next, state =>
    match answer choice state operation with
    | none => none
    | some (reply, after) => follow answer choices (next reply) after

/-- The value of a program that has nothing left to request. -/
def value? : Program I α → Option α
  | .pure value => some value
  | .request .. => none

theorem value?_eq_some : program.value? = some value ↔ program = .pure value := by
  cases program with
  | pure other => simp only [value?, Option.some.injEq, pure.injEq]
  | request => simp only [value?, reduceCtorEq]

section Follow
variable {κ : Type} {answer : κ → δ → (operation : I.Request) → Option (I.Reply operation × δ)}
  (permitted : ∀ choice state operation reply after, answer choice state operation = some (reply, after) →
    server state operation reply after)
include permitted

theorem follow_executes {choices : List κ}
    (followed : follow answer choices program before = some (.pure value, after)) :
    Executes server program before value after := by
  fun_induction follow answer choices program before with
  | case1 => cases followed; exact .pure
  | case2 => cases followed
  | case3 => cases followed
  | case4 choice choices operation next state reply middle answered ih =>
    exact .request (permitted _ _ _ _ _ answered) (ih followed)

end Follow

end Program

theorem bind_eq_ok {ε α β : Type} {first : Except ε α} {next : α → Except ε β} {value : β} :
    first >>= next = .ok value ↔ ∃ middle, first = .ok middle ∧ next middle = .ok value := by
  cases first with
  | ok middle => exact ⟨fun done => ⟨middle, rfl, done⟩, fun ⟨_, same, done⟩ => by cases same; exact done⟩
  | error error =>
    refine ⟨fun done => ?_, fun ⟨_, same, _⟩ => ?_⟩
    · cases done
    · cases same

theorem bind_eq_error {ε α β : Type} {first : Except ε α} {next : α → Except ε β} {error : ε} :
    first >>= next = .error error ↔ first = .error error ∨ ∃ middle, first = .ok middle ∧ next middle = .error error := by
  cases first with
  | ok middle =>
    refine ⟨fun failed => .inr ⟨middle, rfl, failed⟩, fun either => ?_⟩
    rcases either with same | ⟨_, same, failed⟩
    · cases same
    · cases same; exact failed
  | error other =>
    refine ⟨fun failed => ?_, fun either => ?_⟩
    · cases failed
      exact .inl rfl
    · rcases either with same | ⟨_, same, _⟩
      · cases same
        rfl
      · cases same

theorem mapError_eq_ok {ε ε' α : Type} {outcome : Except ε α} {wrap : ε → ε'} {value : α} :
    outcome.mapError wrap = .ok value ↔ outcome = .ok value := by
  cases outcome with
  | ok other =>
    constructor
    all_goals
      intro same
      cases same
      rfl
  | error error => exact iff_of_false (fun same => by cases same) (fun same => by cases same)

/-- A program that may stop early with an error, as Rust's `?` does. -/
abbrev Fallible (I : Interface) (ε α : Type) := ExceptT ε (Program I) α

namespace Fallible
variable {I : Interface} {α β δ ε : Type}

/-- Issue a request that always has an answer. -/
def perform (operation : I.Request) : Fallible I ε (I.Reply operation) :=
  ExceptT.lift (Program.send operation)

/-- An outcome computed without any request. -/
def ofExcept (outcome : Except ε α) : Fallible I ε α := ExceptT.mk (.pure outcome)

theorem ofExcept_ok_bind (value : α) (next : α → Fallible I ε β) : ofExcept (.ok value) >>= next = next value := rfl

abbrev Executes (server : Server I δ) (program : Fallible I ε α) (before : δ) (outcome : Except ε α) (after : δ) : Prop :=
  Program.Executes server (ExceptT.run program) before outcome after

abbrev Stops (server : Server I δ) (program : Fallible I ε α) (before after : δ) : Prop :=
  Program.Stops server (ExceptT.run program) before after

def Ensures (server : Server I δ) (program : Fallible I ε α) (post : Except ε α → δ → Prop) (state : δ) : Prop :=
  Program.Ensures server (ExceptT.run program) post state

variable {server : Server I δ} {post : Except ε α → δ → Prop} {last : Except ε β → δ → Prop} {state before after : δ}

theorem ensures_iff {program : Fallible I ε α} :
    Ensures server program post state ↔
      ∀ outcome after, Executes server program state outcome after → post outcome after :=
  Program.ensures_iff

theorem Ensures.mono {program : Fallible I ε α} {weaker : Except ε α → δ → Prop} (ensured : Ensures server program post state)
    (implies : ∀ outcome after, post outcome after → weaker outcome after) : Ensures server program weaker state :=
  Program.Ensures.mono ensured implies

@[simp] theorem ensures_pure (value : α) : Ensures server (Pure.pure value) post state ↔ post (.ok value) state := Iff.rfl

@[simp] theorem ensures_throw (error : ε) : Ensures server (throw error) post state ↔ post (.error error) state := Iff.rfl

@[simp] theorem ensures_throw_bind (error : ε) (next : α → Fallible I ε β) :
    Ensures server (throw error >>= next) last state ↔ last (.error error) state := Iff.rfl

theorem ensures_perform (operation : I.Request) {post : Except ε (I.Reply operation) → δ → Prop} :
    Ensures server (perform operation) post state ↔
      ∀ reply after, server state operation reply after → post (.ok reply) after := Iff.rfl

theorem ensures_bind {program : Fallible I ε α} {next : α → Fallible I ε β} :
    Ensures server (program >>= next) last state ↔
      Ensures server program (fun outcome after => match outcome with
        | .ok value => Ensures server (next value) last after
        | .error error => last (.error error) after) state := by
  unfold Ensures
  rw [ExceptT.run_bind, Program.bind_eq, Program.ensures_bind]
  constructor
  all_goals
    intro ensured
    apply Program.Ensures.mono ensured
    intro outcome after holds
    cases outcome <;> exact holds

theorem Ensures.bind {between : Except ε α → δ → Prop} {program : Fallible I ε α} {next : α → Fallible I ε β}
    (first : Ensures server program between state)
    (rest : ∀ value after, between (.ok value) after → Ensures server (next value) last after)
    (failed : ∀ error after, between (.error error) after → last (.error error) after) :
    Ensures server (program >>= next) last state := by
  rw [ensures_bind]
  apply first.mono
  intro outcome after holds
  cases outcome with
  | ok value => exact rest value after holds
  | error error => exact failed error after holds

theorem ensures_perform_bind (operation : I.Request) {next : I.Reply operation → Fallible I ε β} :
    Ensures server (perform operation >>= next) last state ↔
      ∀ reply after, server state operation reply after → Ensures server (next reply) last after := by
  rw [ensures_bind, ensures_perform]

theorem Executes.perform (operation : I.Request) {reply : I.Reply operation} {next : I.Reply operation → Fallible I ε β}
    {middle : δ} {outcome : Except ε β} (served : server before operation reply middle)
    (rest : Executes server (next reply) middle outcome after) :
    Executes server (Fallible.perform operation >>= next) before outcome after :=
  Program.Executes.request served rest

theorem Executes.bind {program : Fallible I ε α} {next : α → Fallible I ε β} {value : α} {middle : δ} {outcome : Except ε β}
    (first : Executes server program before (.ok value) middle) (rest : Executes server (next value) middle outcome after) :
    Executes server (program >>= next) before outcome after :=
  Program.Executes.bind first rest

theorem Executes.bind_error {program : Fallible I ε α} {next : α → Fallible I ε β} {error : ε}
    (first : Executes server program before (.error error) after) :
    Executes server (program >>= next) before (.error error) after :=
  Program.Executes.bind first .pure

theorem Ensures.ofExcept {outcome : Except ε α} {value : α} {next : α → Fallible I ε β} (known : outcome = .ok value)
    (rest : Ensures server (next value) last state) : Ensures server (ofExcept outcome >>= next) last state := by
  subst known
  exact rest

theorem Ensures.ofExcept_bind {outcome : Except ε α} {next : α → Fallible I ε β}
    (rest : ∀ value, outcome = .ok value → Ensures server (next value) last state)
    (failed : ∀ error, outcome = .error error → last (.error error) state) :
    Ensures server (Fallible.ofExcept outcome >>= next) last state := by
  cases outcome with
  | ok value => exact rest value rfl
  | error error => exact failed error rfl

/-- A first part that leaves the state alone and establishes a fact. -/
theorem Ensures.still_bind {fact : Except ε α → Prop} {program : Fallible I ε α} {next : α → Fallible I ε β}
    (first : Ensures server program (fun outcome after => after = state ∧ fact outcome) state)
    (rest : ∀ value, fact (.ok value) → Ensures server (next value) last state)
    (failed : ∀ error, fact (.error error) → last (.error error) state) : Ensures server (program >>= next) last state := by
  apply first.bind
  · intro value after holds
    obtain ⟨same, holds⟩ := holds
    subst same
    exact rest value holds
  · intro error after holds
    obtain ⟨same, holds⟩ := holds
    subst same
    exact failed error holds

/-- The value of a program that has returned one. -/
def returned? (program : Program I (Except ε α)) : Option α := program.value?.bind Except.toOption

theorem returned?_eq_some {program : Program I (Except ε α)} {value : α} :
    returned? program = some value ↔ program = .pure (.ok value) := by
  unfold returned?
  cases program with
  | pure outcome =>
    cases outcome with
    | ok other => simp only [Program.value?, Option.bind_some, Except.toOption, Option.some.injEq, Program.pure.injEq, Except.ok.injEq]
    | error error => simp [Program.value?, Except.toOption]
  | request => simp [Program.value?]

/-- Every execution returns a value, and the value and the state are as required. -/
abbrev Returns (server : Server I δ) (program : Fallible I ε α) (post : α → δ → Prop) (state : δ) : Prop :=
  Ensures server program (fun outcome after => ∃ value, outcome = .ok value ∧ post value after) state

theorem Returns.bind {between : α → δ → Prop} {program : Fallible I ε α} {next : α → Fallible I ε β}
    (first : Returns server program between state)
    (rest : ∀ value after, between value after → Ensures server (next value) last after) :
    Ensures server (program >>= next) last state := by
  rw [ensures_bind]
  apply first.mono
  intro outcome after holds
  obtain ⟨value, returned, holds⟩ := holds
  subst returned
  exact rest value after holds

/-- An execution passes through a state in which the first part has returned. -/
theorem Returns.executes_bind {between : α → δ → Prop} {program : Fallible I ε α} {next : α → Fallible I ε β}
    {outcome : Except ε β} (returns : Returns server program between before)
    (executed : Executes server (program >>= next) before outcome after) :
    ∃ value middle, between value middle ∧ Executes server program before (.ok value) middle ∧
      Executes server (next value) middle outcome after := by
  obtain ⟨reached, middle, first, rest⟩ := Program.executes_bind.mp executed
  obtain ⟨value, returned, holds⟩ := ensures_iff.mp returns _ _ first
  subst returned
  exact ⟨value, middle, holds, first, rest⟩

/-- An execution is abandoned in the first part, or after the first part returned. -/
theorem stops_bind {program : Fallible I ε α} {next : α → Fallible I ε β}
    (stopped : Stops server (program >>= next) before after) :
    Stops server program before after ∨
      ∃ value middle, Executes server program before (.ok value) middle ∧ Stops server (next value) middle after := by
  unfold Stops at stopped
  rw [ExceptT.run_bind, Program.bind_eq] at stopped
  rcases Program.stops_bind stopped with early | ⟨outcome, middle, first, late⟩
  · exact .inl early
  · cases outcome with
    | ok value => exact .inr ⟨value, middle, first, late⟩
    | error error =>
      cases late
      exact .inl first.stops

/-- The errors the program may end with, whatever the replies are. -/
def Raises (allowed : ε → Prop) (program : Fallible I ε α) : Prop :=
  Ensures (fun _ _ _ _ => True) program (fun outcome _ => ∀ error, outcome = .error error → allowed error) ()

section Raises
variable {allowed : ε → Prop}

theorem Raises.pure (value : α) : Raises allowed (Pure.pure value : Fallible I ε α) := fun _ same => by cases same

theorem Raises.throw {error : ε} (listed : allowed error) :
    Raises allowed (MonadExcept.throw error : Fallible I ε α) := fun _ same => by cases same; exact listed

theorem Raises.ofExcept {outcome : Except ε α} (listed : ∀ error, outcome = .error error → allowed error) :
    Raises allowed (Fallible.ofExcept outcome : Fallible I ε α) := listed

theorem Raises.perform (operation : I.Request) {next : I.Reply operation → Fallible I ε β}
    (rest : ∀ reply, Raises allowed (next reply)) : Raises allowed (Fallible.perform operation >>= next) :=
  fun reply _ _ => rest reply

theorem Raises.bind {program : Fallible I ε α} {next : α → Fallible I ε β} (first : Raises allowed program)
    (rest : ∀ value, Raises allowed (next value)) : Raises allowed (program >>= next) := by
  unfold Raises
  rw [ensures_bind]
  apply first.mono
  intro outcome _ listed
  cases outcome with
  | ok value => exact rest value
  | error error => exact fun other same => by cases same; exact listed error rfl

/-- A handler that raises its own errors hides all others. -/
theorem Raises.tryCatch {program : Fallible I ε α} {handler : ε → Fallible I ε α}
    (handled : ∀ error, Raises allowed (handler error)) : Raises allowed (MonadExcept.tryCatch program handler) := by
  apply Program.ensures_bind.mpr
  apply Program.ensures_iff.mpr
  intro outcome _ _
  cases outcome with
  | ok value => exact fun _ same => by cases same
  | error error => exact handled error

/-- What a program may raise bounds its executions on every server. -/
theorem Raises.ensures {program : Fallible I ε α} (raises : Raises allowed program)
    (returned : ∀ value after, post (.ok value) after) (failed : ∀ error after, allowed error → post (.error error) after) :
    Ensures server program post state := by
  rw [ensures_iff]
  intro outcome after executed
  cases outcome with
  | ok value => exact returned value after
  | error error => exact failed error after (ensures_iff.mp raises _ _ executed.unserved error rfl)

end Raises

/-- Every state in which an execution may be abandoned is as required. -/
def Throughout (server : Server I δ) (program : Fallible I ε α) (always : δ → Prop) (state : δ) : Prop :=
  ∀ after, Stops server program state after → always after

variable {always : δ → Prop}

theorem Throughout.start {program : Fallible I ε α} (throughout : Throughout server program always state) : always state :=
  throughout state .here

theorem Throughout.pure {value : α} (holds : always state) :
    Throughout server (Pure.pure value : Fallible I ε α) always state := by
  intro after stopped
  cases stopped
  exact holds

theorem Throughout.throw {error : ε} (holds : always state) :
    Throughout server (MonadExcept.throw error : Fallible I ε α) always state := by
  intro after stopped
  cases stopped
  exact holds

theorem Throughout.throw_bind {error : ε} {next : α → Fallible I ε β} (holds : always state) :
    Throughout server (MonadExcept.throw error >>= next) always state := by
  intro after stopped
  cases stopped
  exact holds

theorem Throughout.ofExcept {outcome : Except ε α} {next : α → Fallible I ε β} (holds : always state)
    (rest : ∀ value, outcome = .ok value → Throughout server (next value) always state) :
    Throughout server (Fallible.ofExcept outcome >>= next) always state := by
  cases outcome with
  | ok value => exact rest value rfl
  | error error =>
    intro after stopped
    cases stopped
    exact holds

theorem Throughout.perform (operation : I.Request) {next : I.Reply operation → Fallible I ε β} (holds : always state)
    (rest : ∀ reply after, server state operation reply after → Throughout server (next reply) always after) :
    Throughout server (Fallible.perform operation >>= next) always state := by
  intro after stopped
  change Program.Stops server (.request operation fun reply => ExceptT.run (next reply)) state after at stopped
  cases stopped with
  | here => exact holds
  | request served remaining => exact rest _ _ served _ remaining

theorem Throughout.bind {between : α → δ → Prop} {program : Fallible I ε α} {next : α → Fallible I ε β}
    (first : Throughout server program always state) (returns : Returns server program between state)
    (rest : ∀ value after, always after → between value after → Throughout server (next value) always after) :
    Throughout server (program >>= next) always state := by
  intro after stopped
  rcases stops_bind stopped with early | ⟨value, middle, executed, late⟩
  · exact first after early
  · obtain ⟨other, same, holds⟩ := ensures_iff.mp returns _ _ executed
    cases same
    exact rest value middle (first middle executed.stops) holds after late

end Fallible
end Effects
