import ArchKit.Effects.Sum

/-! The footprint of a program: the requests it may make, whatever the replies are, and
what it may return. -/

namespace Effects
variable {I J : Interface} {σ α β ε κ : Type} {allowed permitted : I.Request → Prop}

namespace Program

def Within (allowed : I.Request → Prop) (fact : α → Prop) : Program I α → Prop
  | .pure value => fact value
  | .request operation next => allowed operation ∧ ∀ reply, Within allowed fact (next reply)

variable {fact weaker : α → Prop} {program : Program I α}

theorem within_bind {last : β → Prop} {next : α → Program I β} :
    (program.bind next).Within allowed last ↔ program.Within allowed fun value => (next value).Within allowed last := by
  induction program with
  | pure value => exact Iff.rfl
  | request operation rest ih => exact and_congr_right fun _ => forall_congr' fun reply => ih reply

theorem Within.mono (within : program.Within allowed fact) (more : ∀ operation, allowed operation → permitted operation)
    (implies : ∀ value, fact value → weaker value) : program.Within permitted weaker := by
  induction program with
  | pure value => exact implies value within
  | request operation next ih => exact ⟨more operation within.1, fun reply => ih reply (within.2 reply)⟩

theorem Within.traces {trace : List (Exchange I)} {value : α} (within : program.Within allowed fact)
    (traced : Traces program trace value) : (∀ exchange ∈ trace, allowed exchange.operation) ∧ fact value := by
  induction traced with
  | pure => exact ⟨fun _ member => (List.not_mem_nil member).elim, within⟩
  | request rest ih =>
    obtain ⟨inside, holds⟩ := ih (within.2 _)
    refine ⟨?_, holds⟩
    intro exchange member
    rcases List.mem_cons.mp member with own | other
    · subst own
      exact within.1
    · exact inside exchange other

theorem within_left {allowed : (I.sum J).Request → Prop} :
    (program.left J).Within allowed fact ↔ program.Within (fun operation => allowed (.inl operation)) fact := by
  induction program with
  | pure value => exact Iff.rfl
  | request operation next ih => exact and_congr_right fun _ => forall_congr' fun reply => ih reply

end Program

namespace Fallible
variable {fact weaker : α → Prop} {last : β → Prop} {program : Fallible I ε α}

/-- The requests a program may make, and what it may return where it does not fail. -/
def Within (allowed : I.Request → Prop) (fact : α → Prop) (program : Fallible I ε α) : Prop :=
  Program.Within allowed (fun outcome => ∀ value, outcome = .ok value → fact value) (ExceptT.run program)

/-- The requests a program may make. -/
abbrev Uses (allowed : I.Request → Prop) (program : Fallible I ε α) : Prop := Within allowed (fun _ => True) program

theorem Within.pure {value : α} (holds : fact value) : Within allowed fact (Pure.pure value : Fallible I ε α) := by
  intro other same
  cases same
  exact holds

theorem Within.throw (error : ε) : Within allowed fact (MonadExcept.throw error : Fallible I ε α) := by
  intro other same
  cases same

theorem Within.ofExcept {outcome : Except ε α} (returns : ∀ value, outcome = .ok value → fact value) :
    Within allowed fact (Fallible.ofExcept outcome : Fallible I ε α) := returns

theorem Within.bind {next : α → Fallible I ε β} (first : Within allowed fact program)
    (rest : ∀ value, fact value → Within allowed last (next value)) : Within allowed last (program >>= next) := by
  unfold Within
  rw [ExceptT.run_bind, Program.bind_eq, Program.within_bind]
  apply Program.Within.mono first (fun _ permitted => permitted)
  intro outcome holds
  cases outcome with
  | ok value => exact rest value (holds value rfl)
  | error error => exact fun value same => by cases same

/-- The same with the fact that carries over. -/
theorem Within.establish (fact : α → Prop) {next : α → Fallible I ε β} (first : Within allowed fact program)
    (rest : ∀ value, fact value → Within allowed last (next value)) : Within allowed last (program >>= next) := first.bind rest

theorem Within.perform {operation : I.Request} {next : I.Reply operation → Fallible I ε β} (permitted : allowed operation)
    (rest : ∀ reply, Within allowed last (next reply)) : Within allowed last (Fallible.perform operation >>= next) :=
  ⟨permitted, rest⟩

theorem Within.mono (within : Within allowed fact program) (more : ∀ operation, allowed operation → permitted operation)
    (implies : ∀ value, fact value → weaker value) : Within permitted weaker program :=
  Program.Within.mono within more fun _ holds value same => implies value (holds value same)

/-- A part whose value does not matter for the requests of the rest. -/
theorem Uses.bind {next : α → Fallible I ε β} (first : Uses allowed program) (rest : ∀ value, Within allowed last (next value)) :
    Within allowed last (program >>= next) := Within.bind first fun value _ => rest value

theorem Uses.ofExcept {outcome : Except ε α} : Uses allowed (Fallible.ofExcept outcome : Fallible I ε α) :=
  Within.ofExcept fun _ _ => trivial

theorem Within.wrap {convert : ε → κ} (within : Within allowed fact program) :
    Within allowed fact (Fallible.wrap convert program) := by
  apply Program.within_bind.mpr
  apply Program.Within.mono within (fun _ permitted => permitted)
  intro outcome holds value same
  exact holds value (wrapError_eq_ok.mp same)

theorem Within.left {allowed : (I.sum J).Request → Prop} (within : Within (fun operation => allowed (.inl operation)) fact program) :
    Within allowed fact (program.left J) := Program.within_left.mpr within

theorem Uses.tryCatch {handler : ε → Fallible I ε α} (first : Uses allowed program) (handled : ∀ error, Uses allowed (handler error)) :
    Uses allowed (MonadExcept.tryCatch program handler) := by
  apply Program.within_bind.mpr
  apply Program.Within.mono first (fun _ permitted => permitted)
  intro outcome _
  cases outcome with
  | ok value => exact fun _ _ => trivial
  | error error => exact handled error

end Fallible
end Effects
