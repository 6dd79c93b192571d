import ArchKit.Effects.Footprint

/-! Notes that a client of a shared state keeps about its own requests. A recorder allows
requests by what has been noted, and some replies it does not expect. A program is judged
by the expected replies only, and a service that gives no others keeps all notes true. -/

namespace Effects
variable {I J : Interface} {ι ν δ α β ε κ : Type}

structure Recorder (I : Interface) (ν : Type) where
  allows : ν → I.Request → Prop
  /-- The notes after a reply, unless the reply is unexpected. -/
  observe : ν → (operation : I.Request) → I.Reply operation → Option ν

/-- A recorder of two kinds of requests, as programs of the first kind see it. -/
def Recorder.left (recorder : Recorder (I.sum J) ν) : Recorder I ν where
  allows notes operation := recorder.allows notes (.inl operation)
  observe notes operation reply := recorder.observe notes (.inl operation) reply

namespace Program

/-- With expected replies the program makes only allowed requests and ends as required. -/
def Records (recorder : Recorder I ν) (post : α → ν → Prop) : Program I α → ν → Prop
  | .pure value, notes => post value notes
  | .request operation next, notes => recorder.allows notes operation ∧
      ∀ reply after, recorder.observe notes operation reply = some after → Records recorder post (next reply) after

variable {recorder : Recorder I ν} {post weaker : α → ν → Prop} {last : β → ν → Prop} {program : Program I α} {notes : ν}

theorem Records.mono (records : program.Records recorder post notes)
    (implies : ∀ value notes, post value notes → weaker value notes) : program.Records recorder weaker notes := by
  induction program generalizing notes with
  | pure value => exact implies value notes records
  | request operation next ih => exact ⟨records.1, fun reply after expected => ih reply (records.2 reply after expected)⟩

theorem records_bind {next : α → Program I β} : (program.bind next).Records recorder last notes ↔
    program.Records recorder (fun value notes => (next value).Records recorder last notes) notes := by
  induction program generalizing notes with
  | pure value => exact Iff.rfl
  | request operation rest ih =>
    exact and_congr_right fun _ => forall_congr' fun reply => forall_congr' fun after => imp_congr_right fun _ => ih reply

theorem records_left {recorder : Recorder (I.sum J) ν} :
    (program.left J).Records recorder post notes ↔ program.Records recorder.left post notes := by
  induction program generalizing notes with
  | pure value => exact Iff.rfl
  | request operation next ih =>
    exact and_congr_right fun _ => forall_congr' fun reply => forall_congr' fun after => imp_congr_right fun _ => ih reply

/-- Requests that leave a part of the notes alone. -/
theorem Within.records {allowed : I.Request → Prop} {fact : α → Prop} (related : ν → Prop) (within : program.Within allowed fact)
    (start : related notes) (allows : ∀ notes operation, related notes → allowed operation → recorder.allows notes operation)
    (kept : ∀ notes operation reply after, related notes → allowed operation →
      recorder.observe notes operation reply = some after → related after) :
    program.Records recorder (fun value after => related after ∧ fact value) notes := by
  induction program generalizing notes with
  | pure value => exact ⟨start, within⟩
  | request operation next ih =>
    refine ⟨allows notes operation start within.1, ?_⟩
    intro reply after expected
    exact ih reply (within.2 reply) (kept notes operation reply after start within.1 expected)

end Program

/-- Clients with their notes, and a relation between the shared state and all notes. -/
structure Recorded (recorder : ι → Recorder I ν) (post : ι → α → ν → Prop) (invariant : δ → (ι → ν) → Prop)
    (system : System I ι δ α) (notes : ι → ν) : Prop where
  related : invariant system.state notes
  records : ∀ client, (system.clients client).Records (recorder client) (post client) (notes client)

namespace Recorded
variable [DecidableEq ι] {recorder : ι → Recorder I ν} {post : ι → α → ν → Prop} {invariant : δ → (ι → ν) → Prop}
  {service : Service I ι δ} {before after : System I ι δ α} {notes : ι → ν}
  (preserves : ∀ client state notes operation reply later, invariant state notes →
    (recorder client).allows (notes client) operation → service client state operation reply later →
    ∃ noted, (recorder client).observe (notes client) operation reply = some noted ∧
      invariant later (Function.update notes client noted))
include preserves

theorem step (recorded : Recorded recorder post invariant before notes) (moved : System.Step service before after) :
    ∃ notes, Recorded recorder post invariant after notes := by
  obtain ⟨client, issued, served⟩ := moved
  have own := recorded.records client
  rw [issued] at own
  obtain ⟨noted, expected, related⟩ := preserves client _ notes _ _ _ recorded.related own.1 served
  refine ⟨_, related, ?_⟩
  intro other
  by_cases same : other = client
  · subst other
    simpa only [Function.update_self] using own.2 _ noted expected
  · simpa only [Function.update_of_ne same] using recorded.records other

theorem reaches (recorded : Recorded recorder post invariant before notes) (moved : System.Reaches service before after) :
    ∃ notes, Recorded recorder post invariant after notes := by
  induction moved with
  | refl => exact ⟨notes, recorded⟩
  | tail _ last ih =>
    obtain ⟨_, reached⟩ := ih
    exact reached.step preserves last

omit [DecidableEq ι] preserves in
theorem returned {system : System I ι δ α} (recorded : Recorded recorder post invariant system notes) {client : ι} {value : α}
    (finished : system.clients client = .pure value) : post client value (notes client) := by
  have own := recorded.records client
  rw [finished] at own
  exact own

end Recorded

namespace Fallible
variable {recorder : Recorder I ν} {post weaker : α → ν → Prop} {last : β → ν → Prop} {program : Fallible I ε α} {notes : ν}

/-- The same of a program that may fail, where nothing is required of a failure. -/
def Records (recorder : Recorder I ν) (post : α → ν → Prop) (program : Fallible I ε α) (notes : ν) : Prop :=
  Program.Records recorder (fun outcome notes => ∀ value, outcome = .ok value → post value notes) (ExceptT.run program) notes

theorem Records.mono (records : Records recorder post program notes)
    (implies : ∀ value notes, post value notes → weaker value notes) : Records recorder weaker program notes :=
  Program.Records.mono records fun _ notes holds value same => implies value notes (holds value same)

theorem Records.pure {value : α} (holds : post value notes) : Records recorder post (Pure.pure value : Fallible I ε α) notes := by
  intro other same
  cases same
  exact holds

theorem Records.throw (error : ε) : Records recorder post (MonadExcept.throw error : Fallible I ε α) notes := by
  intro other same
  cases same

theorem Records.ofExcept_bind {outcome : Except ε α} {next : α → Fallible I ε β}
    (rest : ∀ value, outcome = .ok value → Records recorder last (next value) notes) :
    Records recorder last (Fallible.ofExcept outcome >>= next) notes := by
  cases outcome with
  | ok value => exact rest value rfl
  | error error => exact fun value same => by cases same

theorem Records.bind {next : α → Fallible I ε β} (first : Records recorder post program notes)
    (rest : ∀ value notes, post value notes → Records recorder last (next value) notes) :
    Records recorder last (program >>= next) notes := by
  unfold Records
  rw [ExceptT.run_bind, Program.bind_eq, Program.records_bind]
  apply Program.Records.mono first
  intro outcome notes holds
  cases outcome with
  | ok value => exact rest value notes (holds value rfl)
  | error error => exact fun value same => by cases same

theorem Records.perform {operation : I.Request} {next : I.Reply operation → Fallible I ε β}
    (allowed : recorder.allows notes operation)
    (rest : ∀ reply after, recorder.observe notes operation reply = some after → Records recorder last (next reply) after) :
    Records recorder last (Fallible.perform operation >>= next) notes :=
  ⟨allowed, rest⟩

theorem records_wrap {convert : ε → κ} :
    Records recorder post (Fallible.wrap convert program) notes ↔ Records recorder post program notes := by
  refine Program.records_bind.trans ⟨?_, ?_⟩
  · intro records
    apply Program.Records.mono records
    intro outcome notes holds value same
    exact holds value (wrapError_eq_ok.mpr same)
  · intro records
    apply Program.Records.mono records
    intro outcome notes holds value same
    exact holds value (wrapError_eq_ok.mp same)

theorem records_left {recorder : Recorder (I.sum J) ν} :
    Records recorder post (program.left J) notes ↔ Records recorder.left post program notes := Program.records_left

theorem Within.records {allowed : I.Request → Prop} {fact : α → Prop} (related : ν → Prop) (within : Within allowed fact program)
    (start : related notes) (allows : ∀ notes operation, related notes → allowed operation → recorder.allows notes operation)
    (kept : ∀ notes operation reply after, related notes → allowed operation →
      recorder.observe notes operation reply = some after → related after) :
    Records recorder (fun value after => related after ∧ fact value) program notes := by
  apply Program.Records.mono (Program.Within.records related within start allows kept)
  intro outcome notes holds value same
  exact ⟨holds.1, holds.2 value same⟩

end Fallible
end Effects
