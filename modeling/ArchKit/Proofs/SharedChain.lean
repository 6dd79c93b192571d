import ArchKit.NativeReference
import ArchKit.Proofs.ExactTransfer

/-! Commands of any number of users on one chain, one request at a time in any order,
over a network that loses transactions and replies. Each command is recorded at most
once, and what it reports agrees with what was executed. -/

namespace ArchKit
open Effects Fallible

namespace Node
variable {ι : Type} {process : Processor} {reliable : Prop} {described : ι → RuntimeTransaction → Prop}
  {start world after : World ι} {recorded : List (Entry ι)} {entry : Entry ι} {client : ι} {phase : Phase}

/-- Nothing the client has sent since the start was executed, as far as replies can be trusted. -/
def Missed (reliable : Prop) (recorded : List (Entry ι)) (client : ι) : Prop :=
  reliable → ∀ entry ∈ recorded, entry.client = client → entry.status ≠ .processed

/-- What a client in a phase can rely on. -/
def Knows (reliable : Prop) (start : World ι) (recorded : List (Entry ι)) (client : ι) : Phase → Prop
  | .fresh => ∀ entry ∈ recorded, entry.client ≠ client
  | .unknown => Missed reliable recorded client
  | .sent id => ∃ entry ∈ recorded, (start.log ++ recorded)[id.number]? = some entry ∧ entry.client = client
  | .confirmed => ∃ entry ∈ recorded, entry.client = client ∧ entry.status = .processed
  | .refused => Missed reliable recorded client

theorem Missed.append (missed : Missed reliable recorded client) (other : entry.client ≠ client) :
    Missed reliable (recorded ++ [entry]) client := by
  intro trusted known member own
  rcases List.mem_append.mp member with earlier | last
  · exact missed trusted known earlier own
  · rw [List.mem_singleton.mp last] at own
    exact absurd own other

/-- An entry of another client changes nothing. -/
theorem Knows.append (knows : Knows reliable start recorded client phase) (other : entry.client ≠ client) :
    Knows reliable start (recorded ++ [entry]) client phase := by
  cases phase with
  | fresh =>
    intro known member
    rcases List.mem_append.mp member with earlier | last
    · exact knows known earlier
    · rw [List.mem_singleton.mp last]
      exact other
  | unknown => exact Missed.append knows other
  | sent id =>
    obtain ⟨known, member, found, own⟩ := knows
    refine ⟨known, List.mem_append_left _ member, ?_, own⟩
    rw [← List.append_assoc, List.getElem?_append_left (List.getElem?_eq_some_iff.mp found).1]
    exact found
  | confirmed =>
    obtain ⟨known, member, own, done⟩ := knows
    exact ⟨known, List.mem_append_left _ member, own, done⟩
  | refused => exact Missed.append knows other

theorem Knows.succeeded {α ε : Type} {value : α} (knows : Knows reliable start recorded client phase)
    (ended : phase.Ends (.ok value : Except ε α)) : ∃ entry ∈ recorded, entry.client = client ∧ entry.status = .processed := by
  have confirmed : phase = .confirmed := ended
  rw [confirmed] at knows
  exact knows

theorem Knows.failed {α ε : Type} {error : ε} (knows : Knows reliable start recorded client phase)
    (ended : phase.Ends (.error error : Except ε α)) : Missed reliable recorded client := by
  rcases ended with same | same | same
  · rw [same] at knows
    exact fun _ entry member own => absurd own (knows entry member)
  · rw [same] at knows
    exact knows
  · rw [same] at knows
    exact knows

/-- The transactions recorded since the start: what is in them, what they did to the
ledger and what their senders know. -/
structure Settles (process : Processor) (reliable : Prop) (described : ι → RuntimeTransaction → Prop) (start world : World ι)
    (seen : ι → Phase) (recorded : List (Entry ι)) : Prop where
  log : world.log = start.log ++ recorded
  replays : replay process start.ledger recorded = some world.ledger
  describes : ∀ entry ∈ recorded, described entry.client entry.transaction
  single : (recorded.map Entry.client).Nodup
  knows : ∀ client, Knows reliable start recorded client (seen client)

theorem Settles.refl {seen : ι → Phase} (fresh : ∀ client, seen client = .fresh) :
    Settles process reliable described start start seen [] where
  log := (List.append_nil start.log).symm
  replays := rfl
  describes := fun _ member => by cases member
  single := List.nodup_nil
  knows := fun client => by
    rw [fresh client]
    exact fun _ member => by cases member

namespace Settles
variable {seen : ι → Phase} (settles : Settles process reliable described start world seen recorded)
include settles

/-- The only entry of a client. -/
theorem only {first second : Entry ι} (one : first ∈ recorded) (other : second ∈ recorded) (same : first.client = second.client) :
    first = second :=
  List.inj_on_of_nodup_map settles.single one other same

variable [DecidableEq ι]

/-- A client that has sent nothing yet sends its transaction. -/
theorem append (entry : Entry ι) (idle : seen entry.client = .fresh) (fits : described entry.client entry.transaction)
    (logged : after.log = world.log ++ [entry])
    (effect : replay process world.ledger [entry] = some after.ledger)
    (learned : Knows reliable start (recorded ++ [entry]) entry.client phase) :
    Settles process reliable described start after (Function.update seen entry.client phase) (recorded ++ [entry]) where
  log := by rw [logged, settles.log, List.append_assoc]
  replays := by rw [replay_append, settles.replays, Option.bind_some, effect]
  describes := by
    intro known member
    rcases List.mem_append.mp member with earlier | last
    · exact settles.describes known earlier
    · rw [List.mem_singleton.mp last]
      exact fits
  single := by
    have absent := settles.knows entry.client
    rw [idle] at absent
    rw [List.map_append, List.map_singleton, List.nodup_append]
    refine ⟨settles.single, List.nodup_singleton _, ?_⟩
    intro known member other last
    obtain ⟨earlier, inside, same⟩ := List.mem_map.mp member
    rw [List.mem_singleton.mp last, ← same]
    exact absent earlier inside
  knows := by
    intro other
    by_cases same : other = entry.client
    · subst same
      rw [Function.update_self]
      exact learned
    · rw [Function.update_of_ne same]
      exact (settles.knows other).append (Ne.symm same)

/-- A client has learnt something and the chain is as it was. -/
theorem learn (learned : Knows reliable start recorded client phase) :
    Settles process reliable described start world (Function.update seen client phase) recorded where
  log := settles.log
  replays := settles.replays
  describes := settles.describes
  single := settles.single
  knows := by
    intro other
    by_cases same : other = client
    · subst same
      rw [Function.update_self]
      exact learned
    · rw [Function.update_of_ne same]
      exact settles.knows other

/-- A transaction is recorded, and its sender is told its id or an error. -/
theorem send (after : World ι) {transaction : RuntimeTransaction} {status : Status} {reply : Except ArchError Hash} (idle : seen client = .fresh)
    (fits : described client transaction) (logged : after.log = world.log ++ [⟨client, transaction, status⟩])
    (effect : replay process world.ledger [(⟨client, transaction, status⟩ : Entry ι)] = some after.ledger)
    (answered : reply = .ok world.nextId ∨ (reliable → status ≠ .processed) ∧ ∃ error, reply = .error error) :
    ∃ recorded, Settles process reliable described start after
      (Function.update seen client (Phase.observe .fresh (.sendTransaction transaction) reply)) recorded := by
  refine ⟨_, settles.append ⟨client, transaction, status⟩ idle fits logged effect ?_⟩
  rcases answered with known | ⟨unexecuted, error, failed⟩
  · subst known
    refine ⟨_, List.mem_append_right _ (List.mem_singleton_self _), ?_, rfl⟩
    rw [← List.append_assoc, ← settles.log]
    exact List.getElem?_concat_length
  · subst failed
    intro trusted known member own
    have absent := settles.knows client
    rw [idle] at absent
    rcases List.mem_append.mp member with earlier | last
    · exact absurd own (absent known earlier)
    · rw [List.mem_singleton.mp last]
      exact unexecuted trusted

omit [DecidableEq ι] in
/-- The sender of a transaction asks what has become of it. -/
theorem confirm {id : Hash} {reply : Except ArchError ProcessedTransaction} (waits : seen client = .sent id)
    (answered : (∃ entry, world.log[id.number]? = some entry ∧ reply = .ok ⟨entry.status⟩) ∨
      ((reliable → world.log[id.number]? = none) ∧ ∃ error, reply = .error error)) :
    Knows reliable start recorded client (Phase.observe (.sent id) (.waitForProcessedTransaction id) reply) := by
  have sent := settles.knows client
  rw [waits] at sent
  obtain ⟨entry, member, found, own⟩ := sent
  rw [← settles.log] at found
  simp only [Phase.observe, if_true]
  rcases answered with ⟨again, known, truth⟩ | ⟨missing, error, failed⟩
  · cases found.symm.trans known
    subst truth
    dsimp only
    split
    next done => exact ⟨entry, member, own, done⟩
    next other =>
      intro _ known inside same
      rw [settles.only inside member (same.trans own.symm)]
      exact other
  · subst failed
    intro trusted
    rw [missing trusted] at found
    cases found

/-- What serving one request of a client that keeps to the discipline comes to. -/
theorem step {operation : Request} {reply : operation.Reply}
    (allowed : (once (described client)).allows (seen client) operation)
    (served : Serves process reliable client world operation reply after) :
    ∃ recorded, Settles process reliable described start after
      (Function.update seen client ((once (described client)).observe (seen client) operation reply)) recorded := by
  have stays (still : after = world) (knows : Knows reliable start recorded client (Phase.observe (seen client) operation reply)) :
      ∃ recorded, Settles process reliable described start after
        (Function.update seen client (Phase.observe (seen client) operation reply)) recorded := by
    subst still
    exact ⟨recorded, settles.learn knows⟩
  have own := settles.knows client
  cases operation with
  | sendTransaction transaction =>
    obtain ⟨idle, fits⟩ := allowed
    change ∃ recorded, Settles process reliable described start after
      (Function.update seen client (Phase.observe (seen client) (.sendTransaction transaction) reply)) recorded
    rw [idle]
    rcases served with ⟨same, failed⟩ | ⟨answered, fate⟩
    · subst same
      exact settles.send (world.lose client transaction) idle fits rfl rfl (.inr ⟨fun _ => nofun, failed⟩)
    · have told (status : Status) : reply = .ok world.nextId ∨ (reliable → status ≠ .processed) ∧ ∃ error, reply = .error error := by
        rcases answered with known | ⟨unreliable, failed⟩
        · exact .inl known
        · exact .inr ⟨fun trusted => absurd trusted unreliable, failed⟩
      rcases fate with ⟨ledger, done, same⟩ | ⟨reason, same⟩
      · subst same
        refine settles.send (world.commit client transaction ledger) idle fits rfl ?_ (told _)
        simp only [replay, if_true, done, Option.bind_some]
        rfl
      · subst same
        exact settles.send (world.reject client transaction reason) idle fits rfl rfl (told _)
  | waitForProcessedTransaction id =>
    obtain ⟨same, answered⟩ := served
    apply stays same
    cases phase : seen client with
    | sent awaited =>
      by_cases equal : id = awaited
      · subst equal
        exact settles.confirm phase answered
      · simp only [Phase.observe, equal, if_false]
        rw [phase] at own
        exact own
    | _ =>
      rw [phase] at own
      exact own
  | readAccountInfo address => exact stays served.1 (by cases phase : seen client <;> exact phase ▸ own)
  | _ => exact stays served (by cases phase : seen client <;> exact phase ▸ own)

end Settles
section Replay
variable {ledger later : Ledger}

/-- The senders of the executed transactions. -/
def executed (recorded : List (Entry ι)) : List ι := (recorded.filter (·.status = .processed)).map Entry.client

theorem mem_executed {client : ι} : client ∈ executed recorded ↔ ∃ entry ∈ recorded, entry.client = client ∧ entry.status = .processed := by
  simp only [executed, List.mem_map, List.mem_filter, decide_eq_true_eq]
  constructor
  · intro found
    obtain ⟨entry, ⟨member, done⟩, own⟩ := found
    exact ⟨entry, member, own, done⟩
  · intro found
    obtain ⟨entry, member, own, done⟩ := found
    exact ⟨entry, ⟨member, done⟩, own⟩

/-- Each executed transaction contributes an item, and the items together tell what has
become of the ledger. -/
theorem replay_collects {κ : Type} (described : ι → RuntimeTransaction → Prop) (shows : ι → Ledger → κ → Prop)
    (related : Ledger → Ledger → List κ → Prop) (refl : ∀ ledger, related ledger ledger [])
    (step : ∀ client transaction before after final items, described client transaction →
      process before transaction = some after → related after final items →
      ∃ item, shows client final item ∧ related before final (item :: items))
    (describes : ∀ entry ∈ recorded, described entry.client entry.transaction)
    (replayed : replay process ledger recorded = some later) :
    ∃ collected : List (ι × κ), collected.map Prod.fst = executed recorded ∧
      (∀ item ∈ collected, shows item.1 later item.2) ∧ related ledger later (collected.map Prod.snd) := by
  induction recorded generalizing ledger with
  | nil =>
    cases replayed
    exact ⟨[], rfl, (fun _ member => by cases member), refl _⟩
  | cons entry entries ih =>
    have others : ∀ other ∈ entries, described other.client other.transaction :=
      fun other member => describes other (List.mem_cons_of_mem _ member)
    simp only [replay] at replayed
    split at replayed
    next done =>
      obtain ⟨middle, first, rest⟩ := Option.bind_eq_some_iff.mp replayed
      obtain ⟨collected, senders, shown, remaining⟩ := ih others rest
      obtain ⟨item, own, whole⟩ := step _ _ _ _ _ _ (describes entry List.mem_cons_self) first remaining
      refine ⟨(entry.client, item) :: collected, ?_, ?_, whole⟩
      · rw [List.map_cons, senders, executed, executed, List.filter_cons_of_pos (by simpa using done), List.map_cons]
      · intro other member
        rcases List.mem_cons.mp member with same | inside
        · rw [same]
          exact own
        · exact shown other inside
    next missed =>
      obtain ⟨collected, senders, shown, remaining⟩ := ih others replayed
      refine ⟨collected, ?_, shown, remaining⟩
      rw [senders, executed, executed, List.filter_cons_of_neg (by simpa using missed)]

end Replay

/-- Whose transactions were executed, as the outcomes of their senders tell. -/
theorem Settles.senders {α ε : Type} {seen : ι → Phase} {clients : ι → Program api (Except ε α)}
    (settles : Settles process reliable described start world seen recorded)
    (ends : ∀ client outcome, clients client = .pure outcome → (seen client).Ends outcome) :
    (executed recorded).Nodup ∧ (∀ client value, clients client = .pure (.ok value) → client ∈ executed recorded) ∧
      (reliable → ∀ client error, clients client = .pure (.error error) → client ∉ executed recorded) := by
  refine ⟨settles.single.sublist (List.filter_sublist.map _), ?_, ?_⟩
  · intro client value finished
    exact mem_executed.mpr ((settles.knows client).succeeded (ends client _ finished))
  · intro trusted client error finished found
    obtain ⟨entry, member, own, done⟩ := mem_executed.mp found
    exact (settles.knows client).failed (ends client _ finished) trusted entry member own done

end Node

section Commands
variable {ι : Type} [DecidableEq ι] {sdk : ToolSdk} {process : Processor} {reliable : Prop} {shell : ι → Shell} {submission : ι → Submission}
  {start : World ι} {system : System api ι (World ι) (Except CommandError Unit)}

/-- Any number of commands, from the start of all of them to any later moment. -/
theorem Submission.settles (reached : System.Reaches (Node.Serves process reliable)
      ⟨start, fun client => ExceptT.run ((submission client).run sdk (shell client))⟩ system) :
    ∃ seen recorded, Node.Settles process reliable (fun client => (submission client).Describes sdk) start system.state seen recorded ∧
      ∀ client outcome, system.clients client = .pure outcome → (seen client).Ends outcome := by
  let described client := (submission client).Describes sdk
  have begins : Watched (fun client => once (described client)) (fun _ => Phase.Ends)
      (fun world seen => ∃ recorded, Node.Settles process reliable described start world seen recorded)
      ⟨start, fun client => ExceptT.run ((submission client).run sdk (shell client))⟩ (fun _ => .fresh) :=
    ⟨⟨[], .refl fun _ => rfl⟩, fun client => (submission client).run_keeps (shell client)⟩
  obtain ⟨seen, watched⟩ := begins.reaches (fun client world seen operation reply after related allowed served => by
    obtain ⟨recorded, settles⟩ := related
    exact settles.step allowed served) reached
  obtain ⟨recorded, settles⟩ := watched.related
  exact ⟨seen, recorded, settles, fun client outcome finished => watched.returned finished⟩

end Commands

/-- Of all the transactions in the log each command has sent at most one, which is the one
it describes; those that were executed, one after the other, make up the ledger; and a
command reports success only if its own was executed. Where replies can be trusted, a
command that reports an error has had no effect. -/
theorem Submission.exactly_once {ι : Type} [DecidableEq ι] (sdk : ToolSdk) (process : Processor) (reliable : Prop) (shell : ι → Shell)
    (submission : ι → Submission) (start : World ι) (system : System api ι (World ι) (Except CommandError Unit))
    (reached : System.Reaches (Node.Serves process reliable)
      ⟨start, fun client => ExceptT.run ((submission client).run sdk (shell client))⟩ system) :
    ∃ recorded, system.state.log = start.log ++ recorded ∧
      Node.replay process start.ledger recorded = some system.state.ledger ∧
      (recorded.map Entry.client).Nodup ∧
      (∀ entry ∈ recorded, (submission entry.client).Describes sdk entry.transaction) ∧
      (∀ client, system.clients client = .pure (.ok ()) → ∃ entry ∈ recorded, entry.client = client ∧ entry.status = .processed) ∧
      (reliable → ∀ client error, system.clients client = .pure (.error error) →
        ∀ entry ∈ recorded, entry.client = client → entry.status ≠ .processed) := by
  obtain ⟨seen, recorded, settles, ends⟩ := Submission.settles reached
  refine ⟨recorded, settles.log, settles.replays, settles.single, settles.describes, ?_, ?_⟩
  · exact fun client finished => (settles.knows client).succeeded (ends client _ finished)
  · exact fun trusted client error finished => (settles.knows client).failed (ends client _ finished) trusted

namespace Submission.Example
open Reference

def programs : TokenPrograms := TokenTransfer.Example.tokens

def tools : ToolSdk := programs.tools rfl

def process : Processor := Node.tokens tools.toTokenSdk

/-- Two payments from one account, which covers either of them and not both. -/
def payments (client : Bool) : Submission :=
  .tokenTransfer ⟨toString TokenTransfer.Example.recipient, toString TokenTransfer.Example.mint, if client then "1.5" else "1",
    .file ⟨utf8 "transfer.key"⟩, none⟩

def start : World Bool := ⟨TokenTransfer.Example.start.ledger, [], []⟩

def desk : Node.Desk := ⟨fun _ => some (utf8 (Keys.encodedSecret authorityKeypair)), TokenTransfer.Example.signature⟩

def system : System api Bool (World Bool) (Except CommandError Unit) :=
  ⟨start, fun client => ExceptT.run ((payments client).run tools TokenTransfer.Example.shell)⟩

/-- Both check the balance before either of them sends. -/
def schedule : List (Bool × Unit) :=
  (List.replicate 6 (true, ())) ++ (List.replicate 6 (false, ())) ++ [(false, ()), (true, ()), (true, ()), (false, ())]

/-- The payment that arrives first is executed, and the other one is refused. -/
theorem played : ∃ (final : System api Bool (World Bool) (Except CommandError Unit)) (error : CommandError),
    System.Reaches (Node.Serves process True) system final ∧
      final.clients false = .pure (.ok ()) ∧ final.clients true = .pure (.error error) := by
  have observed : (System.play (fun client _ world operation => Node.respond process desk client world operation) schedule system).map
      (fun final => (success? (final.clients false), success? (final.clients true))) = some (some true, some false) := by
    decide +kernel
  obtain ⟨final, played, shown⟩ := Option.map_eq_some_iff.mp observed
  simp only [Prod.mk.injEq] at shown
  obtain ⟨paid, done, succeeded⟩ := success?_eq_some shown.1
  obtain ⟨refused, stopped, failed⟩ := success?_eq_some shown.2
  have reached : System.Reaches (Node.Serves process True) system final :=
    System.play_reaches (fun _ _ _ _ _ _ answered => Node.respond_serves answered) schedule system final played
  cases paid with
  | error error => cases succeeded
  | ok value =>
    cases refused with
    | ok value => cases failed
    | error error => exact ⟨final, error, reached, done, stopped⟩

end Submission.Example

open Submission.Example in
theorem Submission.exactly_once_played : ∃ (final : System api Bool (World Bool) (Except CommandError Unit)) (recorded : List (Entry Bool)),
    System.Reaches (Node.Serves process True) system final ∧ final.state.log = recorded ∧
      Node.replay process start.ledger recorded = some final.state.ledger ∧
      (∃ entry ∈ recorded, entry.client = false ∧ entry.status = .processed) ∧
      ∀ entry ∈ recorded, entry.client = true → entry.status ≠ .processed := by
  obtain ⟨final, error, reached, done, stopped⟩ := played
  obtain ⟨recorded, logged, replays, _, _, executed, unaffected⟩ :=
    exactly_once tools process True (fun _ => TokenTransfer.Example.shell) payments start final reached
  exact ⟨final, recorded, reached, logged, replays, executed false done, unaffected trivial true error stopped⟩

end ArchKit
