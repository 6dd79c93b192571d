import ArchKit.Effects.Monitor

/-! Programs as parts of larger ones, which know more errors. -/

namespace Effects
variable {I : Interface} {σ δ α β ε κ : Type}

/-- The outcome with its error as the larger program spells it. -/
def wrapError (convert : ε → κ) : Except ε α → Except κ α
  | .ok value => .ok value
  | .error error => .error (convert error)

theorem wrapError_eq_ok {convert : ε → κ} {outcome : Except ε α} {value : α} :
    wrapError convert outcome = .ok value ↔ outcome = .ok value := by
  cases outcome with
  | ok other => simp only [wrapError, Except.ok.injEq]
  | error error => simp only [wrapError, reduceCtorEq]

namespace Fallible

/-- `?` where the error is converted. -/
def wrap (convert : ε → κ) (program : Fallible I ε α) : Fallible I κ α :=
  ExceptT.mk (Program.bind (ExceptT.run program) fun outcome => .pure (wrapError convert outcome))

variable {convert : ε → κ} {program : Fallible I ε α}

theorem ensures_wrap {server : Server I δ} {post : Except κ α → δ → Prop} {state : δ} :
    Ensures server (wrap convert program) post state ↔
      Ensures server program (fun outcome after => post (wrapError convert outcome) after) state :=
  Program.ensures_bind

theorem wrap_bind {next : α → Fallible I ε β} :
    wrap convert (program >>= next) = wrap convert program >>= fun value => wrap convert (next value) := by
  apply ExceptT.ext
  rw [ExceptT.run_bind]
  change Program.bind (Program.bind (ExceptT.run program) _) _ = Program.bind (Program.bind (ExceptT.run program) _) _
  rw [Program.bind_bind, Program.bind_bind]
  congr 1
  funext outcome
  cases outcome with
  | ok value => rfl
  | error error => rfl

theorem keeps_wrap {monitor : Monitor I σ} {post : σ → Except κ α → Prop} {seen : σ} :
    Keeps monitor post (wrap convert program) seen ↔
      Keeps monitor (fun seen outcome => post seen (wrapError convert outcome)) program seen :=
  Program.keeps_bind

theorem traces_wrap {trace : List (Exchange I)} {outcome : Except κ α} :
    Traces (wrap convert program) trace outcome ↔ ∃ inner, Traces program trace inner ∧ outcome = wrapError convert inner := by
  refine Program.traces_bind.trans ⟨?_, ?_⟩
  · intro split
    obtain ⟨inner, first, rest, same, early, late⟩ := split
    cases late
    rw [same, List.append_nil]
    exact ⟨inner, early, rfl⟩
  · intro inside
    obtain ⟨inner, traced, same⟩ := inside
    rw [same]
    exact ⟨inner, trace, [], (List.append_nil trace).symm, traced, .pure⟩

theorem Offline.wrap {isLocal : I.Request → Bool} (offline : Offline isLocal program) :
    Offline isLocal (Fallible.wrap convert program) :=
  Program.Offline.bind offline fun _ => trivial

theorem Raises.traces {allowed : ε → Prop} {trace : List (Exchange I)} {error : ε} (raises : Raises allowed program)
    (traced : Traces program trace (.error error)) : allowed error := by
  have ends {program : Program I (Except ε α)} {trace : List (Exchange I)} {outcome : Except ε α}
      (traced : Program.Traces program trace outcome) : Program.Executes (fun _ _ _ _ => True) program () outcome () := by
    induction traced with
    | pure => exact .pure
    | request rest ih => exact .request trivial ih
  exact ensures_iff.mp raises _ _ (ends traced) error rfl

theorem Offline.traces {isLocal : I.Request → Bool} {program : Program I α} {trace : List (Exchange I)} {value : α}
    (offline : program.Offline isLocal) (traced : Program.Traces program trace value) :
    ∀ exchange ∈ trace, isLocal exchange.operation = true := by
  induction traced with
  | pure => exact fun _ member => by cases member
  | request rest ih =>
    intro exchange member
    rcases List.mem_cons.mp member with own | inside
    · subst own
      exact offline.1
    · exact ih (offline.2 _) exchange inside

/-- Whether a program is through, and with success. -/
def success? (program : Program I (Except ε α)) : Option Bool := program.value?.map Except.isOk

theorem success?_eq_some {program : Program I (Except ε α)} {flag : Bool} (returned : success? program = some flag) :
    ∃ outcome, program = .pure outcome ∧ outcome.isOk = flag := by
  obtain ⟨outcome, same, truth⟩ := Option.map_eq_some_iff.mp returned
  exact ⟨outcome, Program.value?_eq_some.mp same, truth⟩

end Fallible
end Effects
