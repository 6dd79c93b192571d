import ArchKit.Effects.Footprint
import ArchKit.Effects.Trace
import Mathlib.Data.List.Forall2

/-! Two runs that an observer cannot tell apart. What looks alike among requests and replies
is a parameter; a program whose parts only pass alike values on looks alike as a whole. -/

namespace Effects

/-- Which requests look alike, and which replies to two such requests. -/
structure Likeness (I : Interface) where
  Requests : I.Request → I.Request → Prop
  Replies : (first second : I.Request) → I.Reply first → I.Reply second → Prop

variable {I J : Interface} {α β γ δ ε κ : Type} {likeness : Likeness I}

section Lists
variable {related : α → β → Prop} {first : List α} {second : List β}

theorem rel_find {holds : α → Bool} {twin : β → Bool} (same : ∀ value other, related value other → holds value = twin other)
    (alike : List.Forall₂ related first second) : Option.Rel related (first.find? holds) (second.find? twin) := by
  induction alike with
  | nil => exact .none
  | @cons value other first second equal _ ih =>
    rw [List.find?_cons, List.find?_cons, same value other equal]
    split
    next => exact .some equal
    next => exact ih

theorem rel_mapM {keys : List γ} {found : γ → Option α} {other : γ → Option β} (alike : ∀ key, Option.Rel related (found key) (other key)) :
    Option.Rel (List.Forall₂ related) (keys.mapM found) (keys.mapM other) := by
  induction keys with
  | nil => exact .some .nil
  | cons key keys ih =>
    rw [List.mapM_cons, List.mapM_cons]
    have head := alike key
    generalize found key = first at head ⊢
    generalize other key = second at head ⊢
    generalize keys.mapM found = rest at ih ⊢
    generalize keys.mapM other = others at ih ⊢
    cases head with
    | none => exact .none
    | some equal =>
      cases ih with
      | none => exact .none
      | some tail => exact .some (.cons equal tail)

end Lists

namespace Likeness

def Exchanges (likeness : Likeness I) (first second : Exchange I) : Prop :=
  likeness.Requests first.operation second.operation ∧
    likeness.Replies first.operation second.operation first.reply second.reply

/-- Two outside worlds that answer alike what looks alike. -/
def Worlds (likeness : Likeness I) (first second : Oracle I) : Prop :=
  ∀ past others operation other, List.Forall₂ likeness.Exchanges past others → likeness.Requests operation other →
    likeness.Replies operation other (first past operation) (second others other)

/-- The observer sees all of the requests of the other kind. -/
def beside (likeness : Likeness I) (J : Interface) : Likeness (I.sum J) where
  Requests
    | .inl first, .inl second => likeness.Requests first second
    | .inr first, .inr second => first = second
    | _, _ => False
  Replies
    | .inl first, .inl second, reply, other => likeness.Replies first second reply other
    | .inr _, .inr _, reply, other => HEq reply other
    | _, _, _, _ => False

/-- A request that shows all there is to see. -/
def Open (likeness : Likeness I) (operation : I.Request) : Prop :=
  likeness.Requests operation operation ∧ ∀ reply other, likeness.Replies operation operation reply other → reply = other

end Likeness

namespace Program

/-- The programs make requests that look alike for as long as the replies do, and return
related values. -/
def Similar (likeness : Likeness I) (related : α → β → Prop) : Program I α → Program I β → Prop
  | .pure first, .pure second => related first second
  | .request first next, .request second rest => likeness.Requests first second ∧
      ∀ reply other, likeness.Replies first second reply other → Similar likeness related (next reply) (rest other)
  | _, _ => False

variable {related : α → β → Prop} {program : Program I α} {other : Program I β}

theorem Similar.bind {last : γ → δ → Prop} {next : α → Program I γ} {rest : β → Program I δ}
    (similar : Similar likeness related program other)
    (continued : ∀ value twin, related value twin → Similar likeness last (next value) (rest twin)) :
    Similar likeness last (program.bind next) (other.bind rest) := by
  induction program generalizing other with
  | pure value =>
    cases other with
    | pure twin => exact continued value twin similar
    | request => exact similar.elim
  | request operation others ih =>
    cases other with
    | pure => exact similar.elim
    | request => exact ⟨similar.1, fun reply twin alike => ih reply (similar.2 reply twin alike)⟩

theorem Similar.left (similar : Similar likeness related program other) :
    Similar (likeness.beside J) related (program.left J) (other.left J) := by
  induction program generalizing other with
  | pure value =>
    cases other with
    | pure => exact similar
    | request => exact similar.elim
  | request operation others ih =>
    cases other with
    | pure => exact similar.elim
    | request => exact ⟨similar.1, fun reply twin alike => ih reply (similar.2 reply twin alike)⟩

theorem Similar.mono {weaker : α → β → Prop} (similar : Similar likeness related program other)
    (implies : ∀ value twin, related value twin → weaker value twin) : Similar likeness weaker program other := by
  induction program generalizing other with
  | pure value =>
    cases other with
    | pure twin => exact implies value twin similar
    | request => exact similar.elim
  | request operation others ih =>
    cases other with
    | pure => exact similar.elim
    | request => exact ⟨similar.1, fun reply twin alike => ih reply (similar.2 reply twin alike)⟩

theorem Within.similar {fact : α → Prop} (within : program.Within likeness.Open fact) : Similar likeness Eq program program := by
  induction program with
  | pure value => rfl
  | request operation next ih =>
    refine ⟨within.1.1, ?_⟩
    intro reply twin alike
    rw [← within.1.2 reply twin alike]
    exact ih reply (within.2 reply)

/-- In two worlds that look alike, similar programs have exchanges that look alike. -/
theorem Similar.against {first second : Oracle I} (worlds : likeness.Worlds first second)
    (similar : Similar likeness related program other) {past others : List (Exchange I)}
    (alike : List.Forall₂ likeness.Exchanges past others) :
    List.Forall₂ likeness.Exchanges (program.against first past).1 (other.against second others).1 ∧
      related (program.against first past).2 (other.against second others).2 := by
  induction program generalizing other past others with
  | pure value =>
    cases other with
    | pure => exact ⟨.nil, similar⟩
    | request => exact similar.elim
  | request operation next ih =>
    cases other with
    | pure => exact similar.elim
    | request twin rest =>
      have answered := worlds past others operation twin alike similar.1
      have exchanged : likeness.Exchanges ⟨operation, first past operation⟩ ⟨twin, second others twin⟩ := ⟨similar.1, answered⟩
      obtain ⟨traces, values⟩ := ih _ (similar.2 _ _ answered) (List.rel_append alike (.cons exchanged .nil))
      exact ⟨.cons exchanged traces, values⟩

end Program

namespace Fallible

/-- The same error, or related values. -/
def Outcomes (related : α → β → Prop) : Except ε α → Except ε β → Prop
  | .ok value, .ok twin => related value twin
  | .error error, .error other => error = other
  | _, _ => False

/-- The two programs look alike, and so does what they return. -/
def Similar (likeness : Likeness I) (related : α → β → Prop) (program : Fallible I ε α) (other : Fallible I ε β) : Prop :=
  Program.Similar likeness (Outcomes related) (ExceptT.run program) (ExceptT.run other)

variable {related : α → β → Prop} {program : Fallible I ε α} {other : Fallible I ε β}

theorem Similar.pure {value : α} {twin : β} (holds : related value twin) :
    Similar likeness related (Pure.pure value : Fallible I ε α) (Pure.pure twin) := holds

theorem Similar.throw (error : ε) :
    Similar likeness related (MonadExcept.throw error : Fallible I ε α) (MonadExcept.throw error) := rfl

theorem Similar.ofExcept_bind {outcome : Except ε γ} {next : γ → Fallible I ε α} {rest : γ → Fallible I ε β}
    (continued : ∀ value, outcome = .ok value → Similar likeness related (next value) (rest value)) :
    Similar likeness related (Fallible.ofExcept outcome >>= next) (Fallible.ofExcept outcome >>= rest) := by
  cases outcome with
  | ok value => exact continued value rfl
  | error error => exact Similar.throw error

theorem Similar.bind {last : γ → δ → Prop} {next : α → Fallible I ε γ} {rest : β → Fallible I ε δ}
    (similar : Similar likeness related program other)
    (continued : ∀ value twin, related value twin → Similar likeness last (next value) (rest twin)) :
    Similar likeness last (program >>= next) (other >>= rest) := by
  unfold Similar
  rw [ExceptT.run_bind, ExceptT.run_bind]
  apply Program.Similar.bind similar
  intro outcome twin holds
  cases outcome with
  | ok value =>
    cases twin with
    | ok twin => exact continued value twin holds
    | error => exact holds.elim
  | error error =>
    cases twin with
    | ok => exact holds.elim
    | error => exact holds

/-- The same value of a part that shows it, or anything else that is equal. -/
theorem Similar.bind_eq {next : γ → Fallible I ε α} {rest : γ → Fallible I ε β} {program other : Fallible I ε γ}
    (similar : Similar likeness Eq program other) (continued : ∀ value, Similar likeness related (next value) (rest value)) :
    Similar likeness related (program >>= next) (other >>= rest) :=
  similar.bind fun value _ same => same ▸ continued value

theorem Similar.perform {operation twin : I.Request} {next : I.Reply operation → Fallible I ε α} {rest : I.Reply twin → Fallible I ε β}
    (alike : likeness.Requests operation twin)
    (continued : ∀ reply other, likeness.Replies operation twin reply other → Similar likeness related (next reply) (rest other)) :
    Similar likeness related (Fallible.perform operation >>= next) (Fallible.perform twin >>= rest) := ⟨alike, continued⟩

/-- A request of both programs whose reply is the same for both. -/
theorem Similar.perform_open {operation : I.Request} {next : I.Reply operation → Fallible I ε α}
    {rest : I.Reply operation → Fallible I ε β} (visible : likeness.Open operation)
    (continued : ∀ reply, Similar likeness related (next reply) (rest reply)) :
    Similar likeness related (Fallible.perform operation >>= next) (Fallible.perform operation >>= rest) := by
  apply Similar.perform visible.1
  intro reply other alike
  rw [visible.2 reply other alike]
  exact continued other

theorem Similar.wrap {convert : ε → κ} (similar : Similar likeness related program other) :
    Similar likeness related (Fallible.wrap convert program) (Fallible.wrap convert other) := by
  apply Program.Similar.bind similar
  intro outcome twin holds
  cases outcome with
  | ok value =>
    cases twin with
    | ok => exact holds
    | error => exact holds.elim
  | error error =>
    cases twin with
    | ok => exact holds.elim
    | error => exact congrArg convert holds

theorem Similar.left (similar : Similar likeness related program other) :
    Similar (likeness.beside J) related (program.left J) (other.left J) := Program.Similar.left similar

theorem Similar.tryCatch {handler rescue : ε → Fallible I ε α} {related : α → α → Prop} {program other : Fallible I ε α}
    (similar : Similar likeness related program other) (handled : ∀ error, Similar likeness related (handler error) (rescue error)) :
    Similar likeness related (MonadExcept.tryCatch program handler) (MonadExcept.tryCatch other rescue) := by
  apply Program.Similar.bind similar
  intro outcome twin holds
  cases outcome with
  | ok value =>
    cases twin with
    | ok => exact holds
    | error => exact holds.elim
  | error error =>
    cases twin with
    | ok => exact holds.elim
    | error =>
      cases holds
      exact handled error

/-- A part that handles nothing the observer must not see. -/
theorem Uses.similar {program : Fallible I ε α} (uses : Uses likeness.Open program) : Similar likeness Eq program program := by
  apply Program.Similar.mono (Program.Within.similar uses)
  intro outcome twin same
  subst same
  cases outcome <;> rfl

/-- In two worlds that look alike, two programs that look alike return the same. -/
theorem Similar.against {first second : Oracle I} (worlds : likeness.Worlds first second) {program other : Fallible I ε α}
    (similar : Similar likeness Eq program other) :
    List.Forall₂ likeness.Exchanges (program.against first).1 (other.against second).1 ∧
      (program.against first).2 = (other.against second).2 := by
  obtain ⟨traces, outcomes⟩ := Program.Similar.against worlds similar .nil
  refine ⟨traces, ?_⟩
  generalize (program.against first).2 = outcome at outcomes ⊢
  generalize (other.against second).2 = twin at outcomes ⊢
  cases outcome with
  | ok value =>
    cases twin with
    | ok => exact congrArg Except.ok outcomes
    | error => exact outcomes.elim
  | error error =>
    cases twin with
    | ok => exact outcomes.elim
    | error => exact congrArg Except.error outcomes

end Fallible
end Effects
