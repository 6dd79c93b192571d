import ArchKit.Effects.Environment
import ArchKit.Effects.Interleaving
import ArchKit.Effects.Trace

/-! Disciplines that programs keep in their requests. A monitor watches the requests of a
program together with their replies, and what it allows next may depend on all it has
seen. A program keeps to a monitor when it does so for every reply, so the discipline
holds on every server and among any other clients. -/

namespace Effects
variable {I : Interface} {ι σ δ α β ε : Type}

structure Monitor (I : Interface) (σ : Type) where
  allows : σ → I.Request → Prop
  observe : σ → (operation : I.Request) → I.Reply operation → σ

namespace Monitor
variable (monitor : Monitor I σ)

/-- What the monitor has seen after some exchanges. -/
def after (seen : σ) : List (Exchange I) → σ
  | [] => seen
  | exchange :: trace => after (monitor.observe seen exchange.operation exchange.reply) trace

/-- Each request was allowed when it was made. -/
def Admits (seen : σ) : List (Exchange I) → Prop
  | [] => True
  | exchange :: trace =>
    monitor.allows seen exchange.operation ∧ Admits (monitor.observe seen exchange.operation exchange.reply) trace

/-- A monitor that remembers everything. -/
def history (allows : List (Exchange I) → I.Request → Prop) : Monitor I (List (Exchange I)) where
  allows := allows
  observe past operation reply := past ++ [⟨operation, reply⟩]

theorem after_history {allows : List (Exchange I) → I.Request → Prop} (past trace : List (Exchange I)) :
    (history allows).after past trace = past ++ trace := by
  induction trace generalizing past with
  | nil => exact (List.append_nil past).symm
  | cons exchange trace ih =>
    refine (ih _).trans ?_
    exact List.append_assoc past [exchange] trace

/-- Each request was allowed after those before it. -/
theorem admits_history {allows : List (Exchange I) → I.Request → Prop} {past trace : List (Exchange I)} :
    (history allows).Admits past trace ↔
      ∀ first exchange rest, trace = first ++ exchange :: rest → allows (past ++ first) exchange.operation := by
  induction trace generalizing past with
  | nil =>
    refine iff_of_true trivial ?_
    intro first exchange rest same
    exact absurd same.symm (by simp)
  | cons head trace ih =>
    have later : (history allows).Admits (past ++ [head]) trace ↔ _ := ih
    constructor
    · intro admits first exchange rest same
      cases first with
      | nil =>
        cases same
        rw [List.append_nil]
        exact admits.1
      | cons other first =>
        obtain ⟨own, split⟩ := List.cons.inj same
        subst own
        have allowed := later.mp admits.2 first exchange rest split
        rwa [List.append_assoc] at allowed
    · intro always
      refine ⟨?_, later.mpr ?_⟩
      · have allowed := always [] head trace rfl
        rwa [List.append_nil] at allowed
      · intro first exchange rest same
        have allowed := always (head :: first) exchange rest (by rw [same]; rfl)
        rw [List.append_assoc]
        exact allowed

end Monitor

namespace Program
variable {monitor : Monitor I σ} {post weaker : σ → α → Prop} {last : σ → β → Prop} {seen : σ}

/-- The program makes only allowed requests, whatever the replies are, and ends as required. -/
def Keeps (monitor : Monitor I σ) (post : σ → α → Prop) : Program I α → σ → Prop
  | .pure value, seen => post seen value
  | .request operation next, seen =>
    monitor.allows seen operation ∧ ∀ reply, Keeps monitor post (next reply) (monitor.observe seen operation reply)

theorem Keeps.mono {program : Program I α} (keeps : program.Keeps monitor post seen)
    (implies : ∀ seen value, post seen value → weaker seen value) : program.Keeps monitor weaker seen := by
  induction program generalizing seen with
  | pure value => exact implies seen value keeps
  | request operation next ih => exact ⟨keeps.1, fun reply => ih reply (keeps.2 reply)⟩

theorem keeps_bind {program : Program I α} {next : α → Program I β} :
    (program.bind next).Keeps monitor last seen ↔
      program.Keeps monitor (fun seen value => (next value).Keeps monitor last seen) seen := by
  induction program generalizing seen with
  | pure value => exact Iff.rfl
  | request operation rest ih => exact and_congr_right fun _ => forall_congr' fun reply => ih reply

/-- Requests that the monitor passes over. -/
theorem Offline.keeps {isLocal : I.Request → Bool} {program : Program I α} (offline : program.Offline isLocal)
    (allowed : ∀ operation, isLocal operation = true → monitor.allows seen operation)
    (ignored : ∀ operation reply, isLocal operation = true → monitor.observe seen operation reply = seen)
    (returns : ∀ value, post seen value) : program.Keeps monitor post seen := by
  induction program with
  | pure value => exact returns value
  | request operation next ih =>
    refine ⟨allowed operation offline.1, ?_⟩
    intro reply
    rw [ignored operation reply offline.1]
    exact ih reply (offline.2 reply)

theorem Offline.keeps_history {allows : List (Exchange I) → I.Request → Prop} {past : List (Exchange I)} {isLocal : I.Request → Bool}
    {program : Program I α} (offline : program.Offline isLocal)
    (allowed : ∀ past operation, isLocal operation = true → allows past operation) :
    program.Keeps (.history allows)
      (fun seen _ => ∃ more, seen = past ++ more ∧ ∀ exchange ∈ more, isLocal exchange.operation = true) past := by
  induction program generalizing past with
  | pure value => exact ⟨[], (List.append_nil past).symm, fun _ member => by cases member⟩
  | request operation next ih =>
    refine ⟨allowed past operation offline.1, ?_⟩
    intro reply
    apply (ih reply (offline.2 reply)).mono
    intro seen value holds
    obtain ⟨more, same, quiet⟩ := holds
    refine ⟨⟨operation, reply⟩ :: more, same.trans (List.append_assoc past [_] more), ?_⟩
    intro exchange member
    rcases List.mem_cons.mp member with own | inside
    · rw [own]
      exact offline.1
    · exact quiet exchange inside

/-- A program that keeps to what it remembers also remembers where it started. -/
theorem Keeps.since {allows : List (Exchange I) → I.Request → Prop} {post : List (Exchange I) → α → Prop} {start past : List (Exchange I)}
    {program : Program I α} (keeps : program.Keeps (.history allows) post past) (begun : start <+: past) :
    program.Keeps (.history fun seen operation => start <+: seen ∧ allows seen operation) (fun seen value => start <+: seen ∧ post seen value) past := by
  induction program generalizing past with
  | pure value => exact ⟨begun, keeps⟩
  | request operation next ih =>
    refine ⟨⟨begun, keeps.1⟩, ?_⟩
    intro reply
    exact ih reply (keeps.2 reply) (begun.trans (List.prefix_append past _))

theorem Keeps.allowing {allows permits : List (Exchange I) → I.Request → Prop} {post : List (Exchange I) → α → Prop}
    {past : List (Exchange I)} {program : Program I α} (keeps : program.Keeps (.history allows) post past)
    (implies : ∀ seen operation, allows seen operation → permits seen operation) : program.Keeps (.history permits) post past := by
  induction program generalizing past with
  | pure value => exact keeps
  | request operation next ih => exact ⟨implies past operation keeps.1, fun reply => ih reply (keeps.2 reply)⟩

theorem Keeps.traces {program : Program I α} {trace : List (Exchange I)} {value : α}
    (keeps : program.Keeps monitor post seen) (traced : Traces program trace value) :
    monitor.Admits seen trace ∧ post (monitor.after seen trace) value := by
  induction traced generalizing seen with
  | pure => exact ⟨trivial, keeps⟩
  | request rest ih =>
    obtain ⟨admits, returns⟩ := ih (keeps.2 _)
    exact ⟨⟨keeps.1, admits⟩, returns⟩

end Program

/-- Several clients, each watched by its own monitor, and a relation between the shared
state and what has been seen of them. -/
structure Watched (monitor : ι → Monitor I σ) (post : ι → σ → α → Prop) (invariant : δ → (ι → σ) → Prop)
    (system : System I ι δ α) (seen : ι → σ) : Prop where
  related : invariant system.state seen
  keeps : ∀ client, (system.clients client).Keeps (monitor client) (post client) (seen client)

namespace Watched
variable [DecidableEq ι] {monitor : ι → Monitor I σ} {post : ι → σ → α → Prop} {invariant : δ → (ι → σ) → Prop}
  {service : Service I ι δ} {before after : System I ι δ α} {seen : ι → σ}
  (preserves : ∀ client state seen operation reply later, invariant state seen →
    (monitor client).allows (seen client) operation → service client state operation reply later →
    invariant later (Function.update seen client ((monitor client).observe (seen client) operation reply)))
include preserves

theorem step (watched : Watched monitor post invariant before seen) (moved : System.Step service before after) :
    ∃ seen, Watched monitor post invariant after seen := by
  obtain ⟨client, issued, served⟩ := moved
  have own := watched.keeps client
  rw [issued] at own
  refine ⟨_, preserves client _ seen _ _ _ watched.related own.1 served, ?_⟩
  intro other
  by_cases same : other = client
  · subst other
    simpa only [Function.update_self] using own.2 _
  · simpa only [Function.update_of_ne same] using watched.keeps other

theorem reaches (watched : Watched monitor post invariant before seen) (moved : System.Reaches service before after) :
    ∃ seen, Watched monitor post invariant after seen := by
  induction moved with
  | refl => exact ⟨seen, watched⟩
  | tail _ last ih =>
    obtain ⟨_, reached⟩ := ih
    exact reached.step preserves last

omit [DecidableEq ι] preserves in
theorem returned {system : System I ι δ α} (watched : Watched monitor post invariant system seen) {client : ι} {value : α}
    (finished : system.clients client = .pure value) : post client (seen client) value := by
  have own := watched.keeps client
  rw [finished] at own
  exact own

end Watched

namespace Fallible
variable {monitor : Monitor I σ} {post weaker : σ → Except ε α → Prop} {last : σ → Except ε β → Prop} {seen : σ}

abbrev Keeps (monitor : Monitor I σ) (post : σ → Except ε α → Prop) (program : Fallible I ε α) (seen : σ) : Prop :=
  Program.Keeps monitor post (ExceptT.run program) seen

theorem keeps_bind {program : Fallible I ε α} {next : α → Fallible I ε β} :
    Keeps monitor last (program >>= next) seen ↔
      Keeps monitor (fun seen outcome => match outcome with
        | .ok value => Keeps monitor last (next value) seen
        | .error error => last seen (.error error)) program seen := by
  unfold Keeps
  rw [ExceptT.run_bind, Program.bind_eq, Program.keeps_bind]
  constructor
  all_goals
    intro keeps
    apply Program.Keeps.mono keeps
    intro seen outcome holds
    cases outcome <;> exact holds

theorem Keeps.bind {program : Fallible I ε α} {next : α → Fallible I ε β} (first : Keeps monitor post program seen)
    (rest : ∀ seen value, post seen (.ok value) → Keeps monitor last (next value) seen)
    (failed : ∀ seen error, post seen (.error error) → last seen (.error error)) :
    Keeps monitor last (program >>= next) seen := by
  rw [keeps_bind]
  apply Program.Keeps.mono first
  intro seen outcome holds
  cases outcome with
  | ok value => exact rest seen value holds
  | error error => exact failed seen error holds

/-- The rest of a program comes after all that the first part exchanged. -/
theorem Keeps.bind_since {allows : List (Exchange I) → I.Request → Prop} {post : List (Exchange I) → Except ε α → Prop}
    {last : List (Exchange I) → Except ε β → Prop} {past : List (Exchange I)} {program : Fallible I ε α} {next : α → Fallible I ε β}
    (first : Keeps (.history allows) post program past)
    (rest : ∀ seen value, past <+: seen → post seen (.ok value) → Keeps (.history allows) last (next value) seen)
    (failed : ∀ seen error, post seen (.error error) → last seen (.error error)) :
    Keeps (.history allows) last (program >>= next) past := by
  have remembered : Keeps (.history allows) (fun seen outcome => past <+: seen ∧ post seen outcome) program past :=
    Program.Keeps.allowing (Program.Keeps.since first List.prefix_rfl) fun _ _ allowed => allowed.2
  apply Keeps.bind remembered
  · intro seen value holds
    exact rest seen value holds.1 holds.2
  · intro seen error holds
    exact failed seen error holds.2

theorem Keeps.ofExcept {outcome : Except ε α} {next : α → Fallible I ε β}
    (rest : ∀ value, outcome = .ok value → Keeps monitor last (next value) seen)
    (failed : ∀ error, outcome = .error error → last seen (.error error)) :
    Keeps monitor last (Fallible.ofExcept outcome >>= next) seen := by
  cases outcome with
  | ok value => exact rest value rfl
  | error error => exact failed error rfl

/-- A first part that the monitor passes over. -/
theorem Keeps.offline {isLocal : I.Request → Bool} {program : Fallible I ε α} {next : α → Fallible I ε β}
    (offline : Offline isLocal program)
    (allowed : ∀ operation, isLocal operation = true → monitor.allows seen operation)
    (ignored : ∀ operation reply, isLocal operation = true → monitor.observe seen operation reply = seen)
    (rest : ∀ value, Keeps monitor last (next value) seen) (failed : ∀ error, last seen (.error error)) :
    Keeps monitor last (program >>= next) seen := by
  have silent : Program.Keeps monitor (fun other _ => other = seen) (ExceptT.run program) seen :=
    Program.Offline.keeps offline allowed ignored fun _ => rfl
  apply Keeps.bind silent
  · intro other value same
    exact same ▸ rest value
  · intro other error same
    exact same ▸ failed error

/-- A first part whose requests are always allowed; what it exchanged is remembered. -/
theorem Keeps.remembered {allows : List (Exchange I) → I.Request → Prop} {past : List (Exchange I)} {isLocal : I.Request → Bool}
    {last : List (Exchange I) → Except ε β → Prop} {program : Fallible I ε α} {next : α → Fallible I ε β}
    (offline : Offline isLocal program) (allowed : ∀ past operation, isLocal operation = true → allows past operation)
    (rest : ∀ value more, (∀ exchange ∈ more, isLocal exchange.operation = true) →
      Keeps (.history allows) last (next value) (past ++ more))
    (failed : ∀ error more, (∀ exchange ∈ more, isLocal exchange.operation = true) → last (past ++ more) (.error error)) :
    Keeps (.history allows) last (program >>= next) past := by
  have silent : Program.Keeps (.history allows)
      (fun seen _ => ∃ more, seen = past ++ more ∧ ∀ exchange ∈ more, isLocal exchange.operation = true) (ExceptT.run program) past :=
    Program.Offline.keeps_history offline allowed
  apply Keeps.bind silent
  · intro seen value longer
    obtain ⟨more, same, quiet⟩ := longer
    rw [same]
    exact rest value more quiet
  · intro seen error longer
    obtain ⟨more, same, quiet⟩ := longer
    rw [same]
    exact failed error more quiet

end Fallible
end Effects
