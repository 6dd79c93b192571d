import ArchKit.Proofs.VanityPrefix
import ArchKit.Reference
import Mathlib.Algebra.BigOperators.Fin

/-! The threads of a vanity search, in any order. One compare-exchange decides who sends,
and the attempts a worker has not reported yet are in its own counter. -/

namespace ArchKit.Vanity
open Radix

/-- The attempts a worker has counted but not reported. -/
def Phase.pending : Phase → UInt64
  | .testing pending | .generating pending | .claiming _ pending | .counting _ pending | .flushing pending
  | .draining pending => pending
  | .sending _ | .returned | .stopped | .panicked => 0

/-- The worker has won the compare-exchange. -/
def Phase.hasWon : Phase → Bool
  | .counting .. | .sending _ | .returned => true
  | _ => false

/-- The candidate that a key is sent as. -/
def candidateOf (sdk : Sdk) (secretKey : SecretKey) : Candidate :=
  ⟨⟨secretKey⟩, .fromSlice (sdk.xOnlyPublicKey ⟨secretKey⟩).bytes⟩

/-- The candidate that a worker is about to send. -/
def Phase.promised (sdk : Sdk) : Phase → Option Candidate
  | .claiming secretKey _ | .counting secretKey _ => some (candidateOf sdk secretKey)
  | .sending candidate => some candidate
  | _ => none

@[simp] theorem Phase.proceed_pending (pending : UInt64) : (proceed pending).pending = pending := by
  unfold proceed
  split <;> rfl

@[simp] theorem Phase.proceed_hasWon (pending : UInt64) : (proceed pending).hasWon = false := by
  unfold proceed
  split <;> rfl

@[simp] theorem Phase.proceed_promised (sdk : Sdk) (pending : UInt64) : (proceed pending).promised sdk = none := by
  unfold proceed
  split <;> rfl

@[simp] theorem Phase.proceed_alive (pending : UInt64) : proceed pending ≠ .panicked := by
  unfold proceed
  split <;> exact fun same => by cases same

/-- What the receiver of a candidate relies on. -/
structure Genuine (sdk : Sdk) (search : VanitySearch) (candidate : Candidate) : Prop where
  owned : candidate.pubkey = sdk.xOnlyPublicKey candidate.keypair
  begins : search.wanted.toList <+: (toString candidate.pubkey).toList

/-- A prefix of an ASCII text is a prefix letter by letter. -/
theorem begins_of_bytes {text whole : String} (ascii : ∀ letter ∈ whole.toList, letter.toNat < 128)
    (starts : utf8 text <+: utf8 whole) : text.toList <+: whole.toList := by
  have spelled : utf8 whole = whole.toList.map fun letter => UInt8.ofNat letter.toNat := by
    conv_lhs => rw [← String.ofList_toList (s := whole)]
    exact utf8_ascii ascii
  have small : ∀ byte ∈ utf8 text, byte.toNat < 128 := by
    intro byte member
    have inside := starts.subset member
    rw [spelled] at inside
    obtain ⟨letter, listed, same⟩ := List.mem_map.mp inside
    subst same
    rw [toNat_small (ascii letter listed)]
    exact ascii letter listed
  obtain ⟨plain, read⟩ := utf8_of_small small
  rw [read, spelled] at starts
  refine (map_begins_iff ?_).mp starts
  intro letter member other inside same
  exact ascii_injective (plain letter member) (ascii other inside) same

theorem matched_genuine {sdk : Sdk} {search : VanitySearch} {secretKey : SecretKey}
    (matched : base58StartsWith (sdk.xOnlyPublicKey ⟨secretKey⟩).bytes (utf8 search.wanted) = some true) :
    Genuine sdk search (candidateOf sdk secretKey) := by
  have same : (candidateOf sdk secretKey).pubkey = sdk.xOnlyPublicKey ⟨secretKey⟩ :=
    (Pubkey.fromSlice_eq_iff (Pubkey.size _) _).mpr rfl
  refine ⟨same, ?_⟩
  rw [base58StartsWith_eq (Pubkey.size _), Option.some.injEq, List.isPrefixOf_iff_prefix] at matched
  rw [same]
  apply begins_of_bytes _ matched
  intro letter member
  change letter ∈ (String.ofList (base58Encode _)).toList at member
  rw [String.toList_ofList] at member
  exact base58Encode_ascii _ letter member

/-- The candidate that `run` has received. -/
def Collector.received {n : Nat} : Collector n → Option Candidate
  | .storing candidate | .joining _ _ candidate => candidate
  | .loading candidate => some candidate
  | .finished (.ok outcome) => some ⟨outcome.keypair, outcome.pubkey⟩
  | _ => none

/-- The workers that `run` has not joined yet. -/
def Collector.awaited {n : Nat} : Collector n → List (Fin n)
  | .receiving _ | .reporting _ | .storing _ => List.finRange n
  | .joining workers _ _ => workers
  | .loading _ | .finished _ => []

/-- The keys that all workers have generated. -/
def State.generated {n : Nat} (state : State n) : Nat := ∑ worker, (state.workers worker).drawn

/-- The attempts that no worker has reported yet. -/
def State.unreported {n : Nat} (state : State n) : Nat := ∑ worker, (state.workers worker).phase.pending.toNat

/-- What holds after any turns. -/
structure Sound (sdk : Sdk) (search : VanitySearch) (state : State search.threadCount) : Prop where
  counts : (state.attempts.toNat + state.unreported) % 2 ^ 64 = state.generated % 2 ^ 64
  alive : ∀ worker, (state.workers worker).phase ≠ .panicked
  single : ∀ first second, (state.workers first).phase.hasWon = true → (state.workers second).phase.hasWon = true → first = second
  flagged : ∀ worker, (state.workers worker).phase.hasWon = true → state.found = true
  once : state.sent = [] ∨ (∃ candidate, state.sent = [candidate]) ∧ ∃ worker, (state.workers worker).phase = .returned
  promised : ∀ worker candidate, (state.workers worker).phase.promised sdk = some candidate → Genuine sdk search candidate
  genuine : ∀ candidate ∈ state.sent, Genuine sdk search candidate
  queued : ∀ candidate ∈ state.queue, candidate ∈ state.sent
  received : ∀ candidate, state.collector.received = some candidate → candidate ∈ state.sent
  joined : ∀ worker, worker ∉ state.collector.awaited → (state.workers worker).phase.isFinished = true
  concluded : ∀ outcome, state.collector = .finished (.ok outcome) → outcome.attempts = state.attempts

@[simp] theorem State.moveWorker_self {n : Nat} (state : State n) (worker : Fin n) (phase : Phase) :
    ((state.moveWorker worker phase).workers worker).phase = phase := by
  rw [moveWorker]
  dsimp only
  rw [Function.update_self]

theorem State.moveWorker_of_ne {n : Nat} (state : State n) {worker other : Fin n} {phase : Phase} (different : other ≠ worker) :
    (state.moveWorker worker phase).workers other = state.workers other :=
  Function.update_of_ne different ..

section Steps
variable {sdk : Sdk} {search : VanitySearch} {keys : Fin search.threadCount → Nat → SecretKey}
  {state after : State search.threadCount} {worker : Fin search.threadCount}

/-- A step of a worker by what it changes: only its own place, its generator, the flag,
the shared counter, or the channel. -/
inductive WorkerMoves (sdk : Sdk) (search : VanitySearch) (state : State search.threadCount)
    (worker : Fin search.threadCount) : State search.threadCount → Prop where
  | walk (phase : Phase) (owes : phase.pending = (state.workers worker).phase.pending)
      (lost : (state.workers worker).phase.hasWon = false) (loses : phase.hasWon = false)
      (promises : phase.promised sdk = none) (alive : phase ≠ .panicked) :
      WorkerMoves sdk search state worker (state.moveWorker worker phase)
  | draw (phase : Phase) (owes : phase.pending = (state.workers worker).phase.pending + 1)
      (lost : (state.workers worker).phase.hasWon = false) (loses : phase.hasWon = false)
      (promises : ∀ candidate, phase.promised sdk = some candidate → Genuine sdk search candidate) (alive : phase ≠ .panicked) :
      WorkerMoves sdk search state worker
        { state with workers := Function.update state.workers worker ⟨(state.workers worker).drawn + 1, phase⟩ }
  | claim (secretKey : SecretKey) (pending : UInt64) (place : (state.workers worker).phase = .claiming secretKey pending)
      (free : state.found = false) :
      WorkerMoves sdk search state worker ({ state with found := true }.moveWorker worker (.counting secretKey pending))
  | count (secretKey : SecretKey) (pending : UInt64) (place : (state.workers worker).phase = .counting secretKey pending) :
      WorkerMoves sdk search state worker
        ({ state with attempts := state.attempts + pending }.moveWorker worker (.sending (candidateOf sdk secretKey)))
  | send (candidate : Candidate) (place : (state.workers worker).phase = .sending candidate) (room : state.queue = []) :
      WorkerMoves sdk search state worker
        ({ state with queue := [candidate], sent := state.sent ++ [candidate] }.moveWorker worker .returned)
  | flush (phase : Phase) (paid : phase.pending = 0) (lost : (state.workers worker).phase.hasWon = false)
      (loses : phase.hasWon = false) (promises : phase.promised sdk = none) (alive : phase ≠ .panicked) :
      WorkerMoves sdk search state worker
        ({ state with attempts := state.attempts + (state.workers worker).phase.pending }.moveWorker worker phase)

theorem stepWorker_moves (moved : search.stepWorker sdk keys state worker = some after) :
    (state.workers worker).phase.isFinished = false ∧ WorkerMoves sdk search state worker after := by
  unfold VanitySearch.stepWorker at moved
  dsimp only at moved
  split at moved
  next pending place =>
    cases moved
    refine ⟨by rw [place]; rfl, ?_⟩
    cases state.found with
    | true => exact .walk _ (by rw [place]; rfl) (by rw [place]; rfl) rfl rfl (fun same => by cases same)
    | false => exact .walk _ (by rw [place]; rfl) (by rw [place]; rfl) rfl rfl (fun same => by cases same)
  next pending place =>
    cases moved
    refine ⟨by rw [place]; rfl, ?_⟩
    let key := sdk.xOnlyPublicKey ⟨keys worker (state.workers worker).drawn⟩
    have compared := base58StartsWith_eq key.size (utf8 search.wanted)
    rw [compared]
    cases matched : (utf8 search.wanted).isPrefixOf (utf8 (String.ofList (base58Encode key.bytes))) with
    | true =>
      refine .draw _ (by rw [place]; rfl) (by rw [place]; rfl) rfl ?_ (fun same => by cases same)
      intro candidate promised
      cases promised
      exact matched_genuine (compared.trans (congrArg some matched))
    | false =>
      refine .draw _ (by rw [place, Phase.proceed_pending]; rfl) (by rw [place]; rfl) (Phase.proceed_hasWon _) ?_
        (Phase.proceed_alive _)
      intro candidate promised
      rw [Phase.proceed_promised] at promised
      cases promised
  next secretKey pending place =>
    split at moved
    next =>
      cases moved
      exact ⟨by rw [place]; rfl, .walk _ (by rw [place, Phase.proceed_pending]; rfl) (by rw [place]; rfl)
        (Phase.proceed_hasWon _) (Phase.proceed_promised sdk _) (Phase.proceed_alive _)⟩
    next taken =>
      cases moved
      exact ⟨by rw [place]; rfl, .claim secretKey pending place (Bool.eq_false_iff.mpr taken)⟩
  next secretKey pending place =>
    cases moved
    exact ⟨by rw [place]; rfl, .count secretKey pending place⟩
  next candidate place =>
    split at moved
    next room =>
      cases moved
      have empty : state.queue = [] := List.length_eq_zero_iff.mp (Nat.lt_one_iff.mp room)
      rw [empty]
      exact ⟨by rw [place]; rfl, .send candidate place empty⟩
    next => cases moved
  next pending place =>
    cases moved
    have flushed : WorkerMoves sdk search state worker _ :=
      .flush (.testing 0) rfl (by rw [place]; rfl) rfl rfl (fun same => by cases same)
    rw [place] at flushed ⊢
    exact ⟨rfl, flushed⟩
  next pending place =>
    cases moved
    have drained : WorkerMoves sdk search state worker _ :=
      .flush .stopped rfl (by rw [place]; rfl) rfl rfl (fun same => by cases same)
    rw [place] at drained ⊢
    exact ⟨rfl, drained⟩
  next => cases moved
  next => cases moved
  next => cases moved

theorem sum_update {n : Nat} (measure : Worker → Nat) (workers : Fin n → Worker) (worker : Fin n) (changed : Worker) :
    ∑ other, measure (Function.update workers worker changed other) + measure (workers worker) =
      ∑ other, measure (workers other) + measure changed := by
  have before := Finset.add_sum_erase Finset.univ (fun other => measure (workers other)) (Finset.mem_univ worker)
  have after := Finset.add_sum_erase Finset.univ (fun other => measure (Function.update workers worker changed other))
    (Finset.mem_univ worker)
  have elsewhere : ∑ other ∈ Finset.univ.erase worker, measure (Function.update workers worker changed other) =
      ∑ other ∈ Finset.univ.erase worker, measure (workers other) := by
    apply Finset.sum_congr rfl
    intro other member
    rw [Function.update_of_ne (Finset.ne_of_mem_erase member)]
  simp only [Function.update_self] at before after
  omega

/-- The sender of a candidate is the only winner, so nothing was sent before. -/
theorem Sound.unsent (sound : Sound sdk search state) {candidate : Candidate}
    (place : (state.workers worker).phase = .sending candidate) : state.sent = [] := by
  rcases sound.once with empty | ⟨_, other, returned⟩
  · exact empty
  · have same := sound.single worker other (by rw [place]; rfl) (by rw [returned]; rfl)
    subst same
    cases place.symm.trans returned

theorem Sound.room (sound : Sound sdk search state) {candidate : Candidate}
    (place : (state.workers worker).phase = .sending candidate) : state.queue = [] := by
  apply List.eq_nil_iff_forall_not_mem.mpr
  intro other member
  have sent := sound.queued other member
  rw [sound.unsent place] at sent
  cases sent

/-- A worker may move attempts to the shared counter, and count what it draws. -/
theorem Sound.counts_update (sound : Sound sdk search state) (worker : Fin search.threadCount) {changed : Worker} {attempts : UInt64}
    (balance : (attempts.toNat + changed.phase.pending.toNat + (state.workers worker).drawn) % 2 ^ 64 =
      (state.attempts.toNat + (state.workers worker).phase.pending.toNat + changed.drawn) % 2 ^ 64) :
    (attempts.toNat + ∑ other, (Function.update state.workers worker changed other).phase.pending.toNat) % 2 ^ 64 =
      (∑ other, (Function.update state.workers worker changed other).drawn) % 2 ^ 64 := by
  have counts := sound.counts
  have debts := sum_update (fun other => other.phase.pending.toNat) state.workers worker changed
  have draws := sum_update Worker.drawn state.workers worker changed
  unfold State.unreported State.generated at counts
  omega

theorem Sound.sends (sound : Sound sdk search state) {candidate : Candidate}
    (place : (state.workers worker).phase = .sending candidate) : (search.step sdk keys state (.worker worker)).isSome := by
  simp only [VanitySearch.step, VanitySearch.stepWorker, place, sound.room place, List.length_nil, Nat.lt_one_iff, if_true,
    Option.isSome_some]

theorem Sound.counts_moves (sound : Sound sdk search state) (moves : WorkerMoves sdk search state worker after) :
    (after.attempts.toNat + after.unreported) % 2 ^ 64 = after.generated % 2 ^ 64 := by
  cases moves with
  | walk phase owes =>
    apply sound.counts_update worker
    dsimp only [State.moveWorker]
    rw [owes]
  | draw phase owes =>
    apply sound.counts_update worker
    rw [owes, UInt64.toNat_add]
    simp only [UInt64.toNat_one]
    omega
  | claim secretKey pending place => exact sound.counts_update worker (by rw [place]; rfl)
  | count secretKey pending place =>
    apply sound.counts_update worker
    dsimp only [State.moveWorker]
    rw [place, UInt64.toNat_add]
    simp only [Phase.pending, UInt64.toNat_zero]
    omega
  | send candidate place => exact sound.counts_update worker (by rw [place]; rfl)
  | flush phase paid =>
    apply sound.counts_update worker
    dsimp only [State.moveWorker]
    rw [paid, UInt64.toNat_add]
    simp only [UInt64.toNat_zero]
    omega

/-- Who has won after a step had won before, except for the worker that found the flag
clear, when nobody had won. -/
theorem Sound.single_moves (sound : Sound sdk search state) (moves : WorkerMoves sdk search state worker after) :
    (∀ first second, (after.workers first).phase.hasWon = true → (after.workers second).phase.hasWon = true → first = second) ∧
    ∀ other, (after.workers other).phase.hasWon = true → after.found = true := by
  have kept {changed : Worker} (won : changed.phase.hasWon = true → (state.workers worker).phase.hasWon = true)
      (other : Fin search.threadCount) (later : (Function.update state.workers worker changed other).phase.hasWon = true) :
      (state.workers other).phase.hasWon = true := by
    by_cases own : other = worker
    · subst own
      rw [Function.update_self] at later
      exact won later
    · rwa [Function.update_of_ne own] at later
  have keeps {changed : Worker} (won : changed.phase.hasWon = true → (state.workers worker).phase.hasWon = true) :
      (∀ first second, (Function.update state.workers worker changed first).phase.hasWon = true →
        (Function.update state.workers worker changed second).phase.hasWon = true → first = second) ∧
      ∀ other, (Function.update state.workers worker changed other).phase.hasWon = true → state.found = true :=
    ⟨fun first second one two => sound.single first second (kept won first one) (kept won second two),
      fun other later => sound.flagged other (kept won other later)⟩
  cases moves with
  | walk phase _ _ loses => exact keeps (fun won => by cases loses.symm.trans won)
  | draw phase _ _ loses => exact keeps (fun won => by cases loses.symm.trans won)
  | count secretKey pending place => exact keeps (fun _ => by rw [place]; rfl)
  | send candidate place => exact keeps (fun _ => by rw [place]; rfl)
  | flush phase _ _ loses => exact keeps (fun won => by cases loses.symm.trans won)
  | claim secretKey pending place free =>
    have alone (other : Fin search.threadCount)
        (won : ((state.moveWorker worker (.counting secretKey pending)).workers other).phase.hasWon = true) : other = worker := by
      by_contra different
      rw [State.moveWorker_of_ne _ different] at won
      cases free.symm.trans (sound.flagged other won)
    exact ⟨fun first second one two => (alone first one).trans (alone second two).symm, fun _ _ => rfl⟩

theorem WorkerMoves.elsewhere (moves : WorkerMoves sdk search state worker after) {other : Fin search.threadCount}
    (different : other ≠ worker) : after.workers other = state.workers other := by
  cases moves <;> exact Function.update_of_ne different ..

theorem WorkerMoves.collector (moves : WorkerMoves sdk search state worker after) : after.collector = state.collector := by
  cases moves <;> rfl

/-- The worker has not panicked, and what it promises is genuine. -/
theorem Sound.here (sound : Sound sdk search state) (moves : WorkerMoves sdk search state worker after) :
    (after.workers worker).phase ≠ .panicked ∧
      ∀ candidate, (after.workers worker).phase.promised sdk = some candidate → Genuine sdk search candidate := by
  have nothing {phase : Phase} (promises : phase.promised sdk = none) :
      ∀ candidate, phase.promised sdk = some candidate → Genuine sdk search candidate :=
    fun candidate promised => by cases promises.symm.trans promised
  cases moves with
  | walk phase _ _ _ promises alive =>
    rw [State.moveWorker_self]
    exact ⟨alive, nothing promises⟩
  | draw phase _ _ _ promises alive =>
    dsimp only
    rw [Function.update_self]
    exact ⟨alive, promises⟩
  | claim secretKey pending place =>
    rw [State.moveWorker_self]
    refine ⟨fun same => (by cases same), fun candidate promised => sound.promised worker candidate ?_⟩
    rw [place]
    exact promised
  | count secretKey pending place =>
    rw [State.moveWorker_self]
    refine ⟨fun same => (by cases same), fun candidate promised => sound.promised worker candidate ?_⟩
    rw [place]
    exact promised
  | send candidate place =>
    rw [State.moveWorker_self]
    exact ⟨fun same => (by cases same), nothing rfl⟩
  | flush phase _ _ _ promises alive =>
    rw [State.moveWorker_self]
    exact ⟨alive, nothing promises⟩

/-- What was sent is still there, and a worker that sends is the first to do so. -/
theorem Sound.sent_moves (sound : Sound sdk search state) (active : (state.workers worker).phase.isFinished = false)
    (moves : WorkerMoves sdk search state worker after) :
    (after.sent = [] ∨ (∃ candidate, after.sent = [candidate]) ∧ ∃ other, (after.workers other).phase = .returned) ∧
    (∀ candidate ∈ after.sent, Genuine sdk search candidate) ∧
    (∀ candidate ∈ after.queue, candidate ∈ after.sent) ∧ state.sent ⊆ after.sent := by
  by_cases sends : after.sent = state.sent ∧ after.queue = state.queue
  · rw [sends.1, sends.2]
    refine ⟨?_, sound.genuine, sound.queued, fun _ member => member⟩
    rcases sound.once with empty | ⟨single, other, returned⟩
    · exact .inl empty
    · have different : other ≠ worker := by
        intro same
        subst same
        rw [returned] at active
        cases active
      exact .inr ⟨single, other, by rw [moves.elsewhere different]; exact returned⟩
  · cases moves with
    | send candidate place room =>
      have first := sound.unsent place
      have genuine := sound.promised worker candidate (by rw [place]; rfl)
      dsimp only [State.moveWorker]
      rw [first, List.nil_append]
      refine ⟨.inr ⟨⟨candidate, rfl⟩, worker, by rw [Function.update_self]⟩, ?_, fun _ member => member, List.nil_subset _⟩
      intro other member
      rw [List.mem_singleton.mp member]
      exact genuine
    | walk | draw | claim | count | flush => exact absurd ⟨rfl, rfl⟩ sends

theorem Sound.stepWorker (sound : Sound sdk search state) (moved : search.stepWorker sdk keys state worker = some after) :
    Sound sdk search after := by
  obtain ⟨active, moves⟩ := stepWorker_moves moved
  obtain ⟨single, flagged⟩ := sound.single_moves moves
  obtain ⟨alive, promised⟩ := sound.here moves
  obtain ⟨once, genuine, queued, kept⟩ := sound.sent_moves active moves
  have awaited : worker ∈ state.collector.awaited := by
    by_contra free
    cases active.symm.trans (sound.joined worker free)
  refine ⟨sound.counts_moves moves, ?_, single, flagged, once, ?_, genuine, queued, ?_, ?_, ?_⟩
  · intro other
    by_cases own : other = worker
    · subst own
      exact alive
    · rw [moves.elsewhere own]
      exact sound.alive other
  · intro other
    by_cases own : other = worker
    · subst own
      exact promised
    · rw [moves.elsewhere own]
      exact sound.promised other
  · intro candidate got
    rw [moves.collector] at got
    exact kept (sound.received candidate got)
  · intro other free
    rw [moves.collector] at free
    have different : other ≠ worker := by
      intro same
      subst same
      exact free awaited
    rw [moves.elsewhere different]
    exact sound.joined other free
  · intro outcome ended
    rw [moves.collector] at ended
    rw [ended] at awaited
    cases awaited

/-- The collector touches the flag, the channel and its own place. -/
theorem Sound.collect (sound : Sound sdk search state) {found : Bool} {queue : List Candidate} {collector : Collector search.threadCount}
    (raised : state.found = true → found = true) (queued : ∀ candidate ∈ queue, candidate ∈ state.queue)
    (received : ∀ candidate, collector.received = some candidate → candidate ∈ state.sent)
    (joined : ∀ worker, worker ∉ collector.awaited → (state.workers worker).phase.isFinished = true)
    (concluded : ∀ outcome, collector = .finished (.ok outcome) → outcome.attempts = state.attempts) :
    Sound sdk search { state with found, queue, collector } where
  counts := sound.counts
  alive := sound.alive
  single := sound.single
  flagged worker won := raised (sound.flagged worker won)
  once := sound.once
  promised := sound.promised
  genuine := sound.genuine
  queued candidate member := sound.queued candidate (queued candidate member)
  received := received
  joined := joined
  concluded := concluded

theorem Sound.stepCollector (sound : Sound sdk search state) (moved : search.stepCollector state = some after) :
    Sound sdk search after := by
  have joined := sound.joined
  have received := sound.received
  unfold VanitySearch.stepCollector at moved
  split at moved
  next previous place =>
    rw [place] at joined
    split at moved
    next candidate queue waiting =>
      cases moved
      refine sound.collect id (fun other member => ?_) (fun other same => ?_) joined (fun _ same => by cases same)
      · rw [waiting]
        exact List.mem_cons_of_mem _ member
      · cases same
        exact sound.queued candidate (by rw [waiting]; exact List.mem_cons_self)
    next =>
      split at moved
      next =>
        cases moved
        exact sound.collect id (fun _ member => member) (fun _ same => by cases same) joined (fun _ same => by cases same)
      next => cases moved
  next previous place =>
    rw [place] at joined
    cases moved
    exact sound.collect id (fun _ member => member) (fun _ same => by cases same) joined (fun _ same => by cases same)
  next candidate place =>
    rw [place] at received
    cases moved
    exact sound.collect (fun _ => rfl) (fun _ member => member) received
      (fun worker absent => absurd (List.mem_finRange worker) absent) (fun _ same => by cases same)
  next worker workers panicked candidate place =>
    rw [place] at joined received
    split at moved
    next ended =>
      cases moved
      refine sound.collect id (fun _ member => member) received (fun other absent => ?_) (fun _ same => by cases same)
      by_cases own : other = worker
      · rw [own]
        exact ended
      · exact joined other (fun member => (List.mem_cons.mp member).elim own absent)
    next => cases moved
  next candidate place =>
    rw [place] at joined
    cases moved
    exact sound.collect id (fun _ member => member) (fun _ same => by cases same) joined (fun _ same => by cases same)
  next place =>
    rw [place] at joined
    cases moved
    exact sound.collect id (fun _ member => member) (fun _ same => by cases same) joined (fun _ same => by cases same)
  next candidate place =>
    rw [place] at joined received
    cases moved
    exact sound.collect id (fun _ member => member) received joined (fun _ same => by cases same)
  next candidate place =>
    rw [place] at joined received
    cases moved
    exact sound.collect id (fun _ member => member) received joined (fun _ same => by cases same; rfl)
  next => cases moved

theorem Sound.stepTimeout (sound : Sound sdk search state) (moved : search.stepTimeout state = some after) :
    Sound sdk search after := by
  have joined := sound.joined
  unfold VanitySearch.stepTimeout at moved
  split at moved
  next previous place _ =>
    rw [place] at joined
    cases moved
    exact sound.collect id (fun _ member => member) (fun _ same => by cases same) joined (fun _ same => by cases same)
  next => cases moved

theorem Sound.step (sound : Sound sdk search state) {turn : VanitySearch.Turn search.threadCount}
    (moved : search.step sdk keys state turn = some after) : Sound sdk search after := by
  cases turn with
  | worker number => exact sound.stepWorker moved
  | collector => exact sound.stepCollector moved
  | timeout => exact sound.stepTimeout moved

theorem Sound.start (sdk : Sdk) (search : VanitySearch) : Sound sdk search (.start search.threadCount) where
  counts := by simp [State.unreported, State.generated, State.start, Phase.pending]
  alive _ same := by cases same
  single _ _ won := by cases won
  flagged _ won := by cases won
  once := .inl rfl
  promised _ _ same := by cases same
  genuine _ member := by cases member
  queued _ member := by cases member
  received _ same := by cases same
  joined worker absent := absurd (List.mem_finRange worker) absent
  concluded _ same := by cases same

theorem Sound.foldlM {schedule : List (VanitySearch.Turn search.threadCount)} (sound : Sound sdk search state)
    (ran : schedule.foldlM (search.step sdk keys) state = some after) : Sound sdk search after := by
  induction schedule generalizing state with
  | nil =>
    cases ran
    exact sound
  | cons turn schedule ih =>
    obtain ⟨middle, moved, rest⟩ := Option.bind_eq_some_iff.mp ran
    exact ih (sound.step moved) rest

end Steps

/-- When everybody is joined, nothing is left to report. -/
theorem Sound.reported {sdk : Sdk} {search : VanitySearch} {state : State search.threadCount} (sound : Sound sdk search state)
    {outcome : VanityOutcome} (ended : state.collector = .finished (.ok outcome)) :
    outcome.attempts.toNat = state.generated % 2 ^ 64 := by
  have idle : state.unreported = 0 := by
    apply Finset.sum_eq_zero
    intro worker _
    have finished := sound.joined worker (by rw [ended]; exact List.not_mem_nil)
    cases place : (state.workers worker).phase with
    | returned | stopped | panicked => rfl
    | testing | generating | claiming | counting | sending | flushing | draining =>
      rw [place] at finished
      cases finished
  have counts := sound.counts
  rw [idle, Nat.add_zero, ← sound.concluded outcome ended] at counts
  rw [← counts]
  exact (Nat.mod_eq_of_lt outcome.attempts.toNat_lt).symm

/-- Whatever turns the threads take, at most one candidate is sent, its sender finds room
in the channel, the candidate is genuine, and the attempts that are reported are those of
all workers, as far as their counter can hold them. -/
theorem VanitySearch.run_sound (sdk : Sdk) (search : VanitySearch) (keys : Fin search.threadCount → Nat → SecretKey)
    (schedule : List (Turn search.threadCount)) (state : State search.threadCount)
    (ran : search.run sdk keys schedule = some state) :
    state.sent.length ≤ 1 ∧
    (∀ worker candidate, (state.workers worker).phase = .sending candidate →
      (search.step sdk keys state (.worker worker)).isSome) ∧
    (∀ candidate, state.collector.received = some candidate → Genuine sdk search candidate) ∧
    ∀ outcome, state.collector = .finished (.ok outcome) → outcome.attempts.toNat = state.generated % 2 ^ 64 := by
  have sound : Sound sdk search state := (Sound.start sdk search).foldlM ran
  refine ⟨?_, fun _ _ place => sound.sends place, fun candidate got => sound.genuine candidate (sound.received candidate got),
    fun outcome ended => sound.reported ended⟩
  rcases sound.once with empty | ⟨⟨candidate, single⟩, _⟩
  · rw [empty]
    exact Nat.zero_le 1
  · rw [single]
    exact Nat.le_refl 1

namespace Example
open Reference VanitySearch

/-- One worker that looks for the first key. -/
def search : VanitySearch := ⟨"5i", 1⟩

/-- The generator yields the wanted key after `misses` others. -/
def keys (misses : Nat) (_ : Fin search.threadCount) (number : Nat) : SecretKey :=
  if number = misses then firstBuffer.secretKey else secondBuffer.secretKey

/-- Nothing is found yet, and the only worker is in the given place. -/
def alone (attempts : UInt64) (worker : Worker) : State search.threadCount :=
  { State.start search.threadCount with attempts, workers := fun _ => worker }

instance : Subsingleton (Fin search.threadCount) := inferInstanceAs (Subsingleton (Fin 1))

theorem alone_update {attempts : UInt64} {worker changed : Worker} (number : Fin search.threadCount) :
    Function.update (alone attempts worker).workers number changed = fun _ => changed :=
  Function.update_eq_const_of_subsingleton ..

/-- The state after the given number of keys, none of which was wanted. -/
def searched (drawn : Nat) : State search.threadCount :=
  alone (.ofNat (drawn - drawn % 4096)) ⟨drawn, .testing (.ofNat (drawn % 4096))⟩

variable {drawn count : Nat}

theorem misses (worker : Fin search.threadCount) (early : drawn ≠ count) :
    base58StartsWith (tables.sdk.xOnlyPublicKey ⟨keys count worker drawn⟩).bytes (utf8 search.wanted) = some false := by
  rw [keys, if_neg early]
  decide +kernel

theorem step_testing (attempts pending : UInt64) (number : Fin search.threadCount) :
    search.step tables.sdk (keys count) (alone attempts ⟨drawn, .testing pending⟩) (.worker number) =
      some (alone attempts ⟨drawn, .generating pending⟩) := by
  simp only [step, stepWorker, State.moveWorker, alone_update]
  rfl

theorem step_generating (attempts pending : UInt64) (number : Fin search.threadCount) (early : drawn ≠ count) :
    search.step tables.sdk (keys count) (alone attempts ⟨drawn, .generating pending⟩) (.worker number) =
      some (alone attempts ⟨drawn + 1, .proceed (pending + 1)⟩) := by
  simp only [step, stepWorker, alone_update]
  dsimp only [alone]
  rw [misses number early]

theorem step_flushing (attempts pending : UInt64) (number : Fin search.threadCount) :
    search.step tables.sdk (keys count) (alone attempts ⟨drawn, .flushing pending⟩) (.worker number) =
      some (alone (attempts + pending) ⟨drawn, .testing 0⟩) := by
  simp only [step, stepWorker, State.moveWorker, alone_update]
  rfl

/-- A key that is not wanted is counted, and reported at the end of its batch. -/
theorem searched_next (early : drawn ≠ count) : ∃ schedule : List (Turn search.threadCount),
    schedule.foldlM (search.step tables.sdk (keys count)) (searched drawn) = some (searched (drawn + 1)) := by
  let number : Fin search.threadCount := ⟨0, Nat.one_pos⟩
  have pending : UInt64.ofNat (drawn % 4096) + 1 = .ofNat (drawn % 4096 + 1) := (UInt64.ofNat_add ..).symm
  have read : (UInt64.ofNat (drawn % 4096 + 1)).toNat = drawn % 4096 + 1 :=
    UInt64.toNat_ofNat_of_lt' (Nat.lt_trans (show drawn % 4096 + 1 < 5000 by omega) (by decide))
  by_cases full : drawn % 4096 + 1 = 4096
  · have flushes : Phase.proceed (.ofNat (drawn % 4096 + 1)) = .flushing (.ofNat (drawn % 4096 + 1)) := if_pos (read.trans full)
    have whole : drawn + 1 - (drawn + 1) % 4096 = drawn - drawn % 4096 + (drawn % 4096 + 1) := by omega
    have empty : (drawn + 1) % 4096 = 0 := by omega
    have later : searched (drawn + 1) =
        alone (.ofNat (drawn - drawn % 4096) + .ofNat (drawn % 4096 + 1)) ⟨drawn + 1, .testing 0⟩ := by
      rw [searched, whole, empty, ← UInt64.ofNat_add]
      rfl
    rw [later]
    refine ⟨[.worker number, .worker number, .worker number], ?_⟩
    simp only [List.foldlM_cons, List.foldlM_nil, searched, step_testing, step_generating _ _ _ early, step_flushing, pending,
      flushes, Option.bind_eq_bind, Option.bind_some]
    rfl
  · have continues : Phase.proceed (.ofNat (drawn % 4096 + 1)) = .testing (.ofNat (drawn % 4096 + 1)) :=
      if_neg (fun same => full (read.symm.trans same))
    have same : drawn + 1 - (drawn + 1) % 4096 = drawn - drawn % 4096 := by omega
    have counted : (drawn + 1) % 4096 = drawn % 4096 + 1 := by omega
    have later : searched (drawn + 1) =
        alone (.ofNat (drawn - drawn % 4096)) ⟨drawn + 1, .testing (.ofNat (drawn % 4096 + 1))⟩ := by
      rw [searched, same, counted]
    rw [later]
    refine ⟨[.worker number, .worker number], ?_⟩
    simp only [List.foldlM_cons, List.foldlM_nil, searched, step_testing, step_generating _ _ _ early, pending, continues,
      Option.bind_eq_bind, Option.bind_some]
    rfl

theorem run_append {first last : List (Turn search.threadCount)} {middle state : State search.threadCount}
    (ran : search.run tables.sdk (keys count) first = some middle)
    (rest : last.foldlM (search.step tables.sdk (keys count)) middle = some state) :
    search.run tables.sdk (keys count) (first ++ last) = some state := by
  rw [run, List.foldlM_append]
  exact Option.bind_eq_some_iff.mpr ⟨middle, ran, rest⟩

theorem searched_all (early : drawn ≤ count) : ∃ schedule : List (Turn search.threadCount),
    search.run tables.sdk (keys count) schedule = some (searched drawn) := by
  induction drawn with
  | zero => exact ⟨[], rfl⟩
  | succ drawn ih =>
    obtain ⟨first, ran⟩ := ih (Nat.le_of_succ_le early)
    obtain ⟨last, next⟩ := searched_next (Nat.ne_of_lt early)
    exact ⟨first ++ last, run_append ran next⟩

end Example

open Example Reference in
/-- The first key is the wanted one. -/
theorem VanitySearch.run_sound_first_key : ∃ schedule state outcome,
    Example.search.run tables.sdk (keys 0) schedule = some state ∧ state.collector = .finished (.ok outcome) ∧
    outcome.attempts.toNat = state.generated % 2 ^ 64 ∧ Genuine tables.sdk Example.search ⟨outcome.keypair, outcome.pubkey⟩ := by
  let schedule : List (Turn Example.search.threadCount) :=
    List.replicate 5 (.worker ⟨0, Nat.one_pos⟩) ++ List.replicate 5 .collector
  have observed : (Example.search.run tables.sdk (keys 0) schedule).map State.collector =
      some (.finished (.ok ⟨firstBuffer, publicKey firstBuffer, 1⟩)) := by
    decide +kernel
  obtain ⟨state, ran, ended⟩ := Option.map_eq_some_iff.mp observed
  obtain ⟨_, _, genuine, reported⟩ := run_sound tables.sdk Example.search (keys 0) schedule state ran
  exact ⟨schedule, state, _, ran, ended, reported _ ended, genuine _ (by rw [ended]; rfl)⟩

open Example Reference in
/-- A search of 2^64 keys reports none: the counter is as wide as the report. -/
theorem VanitySearch.attempts_wrap : ∃ schedule state outcome,
    Example.search.run tables.sdk (keys (2 ^ 64 - 1)) schedule = some state ∧
    state.collector = .finished (.ok outcome) ∧ outcome.attempts = 0 ∧ state.generated = 2 ^ 64 := by
  obtain ⟨first, ran⟩ := searched_all (Nat.le_refl (2 ^ 64 - 1))
  let number : Fin Example.search.threadCount := ⟨0, Nat.one_pos⟩
  let last : List (Turn Example.search.threadCount) := List.replicate 5 (.worker number) ++ List.replicate 5 .collector
  have observed : (last.foldlM (Example.search.step tables.sdk (keys (2 ^ 64 - 1))) (searched (2 ^ 64 - 1))).map
      (fun state => (state.collector, (state.workers number).drawn)) =
      some (.finished (.ok ⟨firstBuffer, publicKey firstBuffer, 0⟩), 2 ^ 64) := by
    decide +kernel
  obtain ⟨state, ended, shown⟩ := Option.map_eq_some_iff.mp observed
  refine ⟨first ++ last, state, ⟨firstBuffer, publicKey firstBuffer, 0⟩, ?_, congrArg Prod.fst shown, rfl, ?_⟩
  · exact run_append ran ended
  · have drawn : (state.workers number).drawn = 2 ^ 64 := congrArg Prod.snd shown
    have only : state.generated = (state.workers number).drawn := Fin.sum_univ_one _
    exact only.trans drawn

end ArchKit.Vanity
