import ArchKit.Keys

/-! Vanity keys: which prefixes are accepted, how a key is compared with one, and the
search by several threads. -/

namespace ArchKit.Vanity
open Radix

def alphabet : Bytes := utf8 "123456789ABCDEFGHJKLMNPQRSTUVWXYZabcdefghijkmnopqrstuvwxyz"
def maxXOnlyBase58Len : Nat := 44
def attemptBatchSize : Nat := 4096

/-- The `{:?}` rendering of `char::from(byte)`. -/
def charDebug (byte : UInt8) : String :=
  let shown :=
    if byte = 0 then "\\0"
    else if byte = 9 then "\\t"
    else if byte = 10 then "\\n"
    else if byte = 13 then "\\r"
    else if byte = 39 then "\\'"
    else if byte = 92 then "\\\\"
    else if byte < 32 ∨ 127 ≤ byte ∧ byte ≤ 160 ∨ byte = 173 then
      "\\u\x7b" ++ String.ofList (Nat.toDigits 16 byte.toNat) ++ "\x7d"
    else String.singleton (Char.ofNat byte.toNat)
  "'" ++ shown ++ "'"

def validatePrefix (text : String) : Except CliError Unit :=
  let bytes := utf8 text
  if bytes.isEmpty then .error (.invalidArgument "--prefix must not be empty")
  else if bytes.length > maxXOnlyBase58Len then
    .error (.invalidArgument s!"--prefix cannot exceed {maxXOnlyBase58Len} Base58 characters")
  else
    match bytes.find? (!alphabet.contains ·) with
    | some invalid => .error (.invalidArgument s!"--prefix contains non-Base58 character {charDebug invalid}")
    | none => .ok ()

/-- `None` is a panic: the encoding does not fit the buffer. -/
def base58StartsWith (bytes wanted : Bytes) : Option Bool :=
  let encoded := utf8 (String.ofList (base58Encode bytes))
  if encoded.length ≤ maxXOnlyBase58Len then some (wanted.isPrefixOf encoded) else none

/-- `VanitySearch`; `wanted` is its `prefix`. -/
structure VanitySearch where
  wanted : String
  threadCount : Nat
  deriving DecidableEq

/-- `VanitySearch::new` on a machine with the given parallelism. -/
def VanitySearch.new (availableThreads : Nat) (text : String) (requestedThreads : Option Nat) :
    Except CliError VanitySearch := do
  validatePrefix text
  if requestedThreads = some 0 then
    throw (.invalidArgument "--threads must be at least 1")
  return { wanted := text, threadCount := min (requestedThreads.getD availableThreads) availableThreads }

structure Candidate where
  keypair : Keypair
  pubkey : Pubkey
  deriving DecidableEq

/-- The outcome of a search, without the time it took. -/
structure VanityOutcome where
  keypair : Keypair
  pubkey : Pubkey
  attempts : UInt64
  deriving DecidableEq

/-- Where a worker is in `search_worker`, between two operations on what it shares with
the others. -/
inductive Phase where
  | testing (pendingAttempts : UInt64)
  | generating (pendingAttempts : UInt64)
  | claiming (secretKey : SecretKey) (pendingAttempts : UInt64)
  | counting (secretKey : SecretKey) (pendingAttempts : UInt64)
  | sending (candidate : Candidate)
  | flushing (pendingAttempts : UInt64)
  | draining (pendingAttempts : UInt64)
  | returned
  | stopped
  | panicked
  deriving DecidableEq

/-- The sender and the thread are gone. -/
def Phase.isFinished : Phase → Bool
  | .returned | .stopped | .panicked => true
  | _ => false

/-- A worker and how many keys it has drawn from its random generator. -/
structure Worker where
  drawn : Nat
  phase : Phase
  deriving DecidableEq

/-- Where `run` is after it has spawned the workers. -/
inductive Collector (n : Nat) where
  | receiving (previousAttempts : UInt64)
  | reporting (previousAttempts : UInt64)
  | storing (candidate : Option Candidate)
  | joining (workers : List (Fin n)) (workerPanicked : Bool) (candidate : Option Candidate)
  | loading (candidate : Candidate)
  | finished (outcome : Except CliError VanityOutcome)
  deriving DecidableEq

/-- The state of a search. Nothing in the program reads `sent`, which records every
candidate that was ever sent. -/
structure State (n : Nat) where
  found : Bool
  attempts : UInt64
  queue : List Candidate
  workers : Fin n → Worker
  collector : Collector n
  sent : List Candidate

namespace State
variable {n : Nat}

/-- A worker that is not spawned yet is one that does not get its turn. -/
def start (n : Nat) : State n where
  found := false
  attempts := 0
  queue := []
  workers _ := ⟨0, .testing 0⟩
  collector := .receiving 0
  sent := []

def moveWorker (state : State n) (worker : Fin n) (phase : Phase) : State n :=
  { state with workers := Function.update state.workers worker { state.workers worker with phase } }

def moveCollector (state : State n) (collector : Collector n) : State n := { state with collector }

end State

/-- The end of the loop body of `search_worker`. -/
def Phase.proceed (pendingAttempts : UInt64) : Phase :=
  if pendingAttempts.toNat = attemptBatchSize then .flushing pendingAttempts else .testing pendingAttempts

namespace VanitySearch
variable (sdk : Sdk) (search : VanitySearch) (keys : Fin search.threadCount → Nat → SecretKey)

/-- The next step of a worker of `search_worker`, whose generator yields the given keys. A
send waits while the channel is full. -/
def stepWorker (state : State search.threadCount) (worker : Fin search.threadCount) : Option (State search.threadCount) :=
  let drawn := (state.workers worker).drawn
  match (state.workers worker).phase with
  | .testing pending => some (state.moveWorker worker (if state.found then .draining pending else .generating pending))
  | .generating pending =>
    let secretKey := keys worker drawn
    let pending := pending + 1
    let phase :=
      match base58StartsWith (sdk.xOnlyPublicKey ⟨secretKey⟩).bytes (utf8 search.wanted) with
      | none => .panicked
      | some true => .claiming secretKey pending
      | some false => .proceed pending
    some { state with workers := Function.update state.workers worker ⟨drawn + 1, phase⟩ }
  | .claiming secretKey pending =>
    if state.found then some (state.moveWorker worker (.proceed pending))
    else some ({ state with found := true }.moveWorker worker (.counting secretKey pending))
  | .counting secretKey pending =>
    let xOnlyBytes := (sdk.xOnlyPublicKey ⟨secretKey⟩).bytes
    some ({ state with attempts := state.attempts + pending }.moveWorker worker
      (.sending ⟨⟨secretKey⟩, .fromSlice xOnlyBytes⟩))
  | .sending candidate =>
    if state.queue.length < 1 then
      some ({ state with queue := state.queue ++ [candidate], sent := state.sent ++ [candidate] }.moveWorker worker .returned)
    else none
  | .flushing pending => some ({ state with attempts := state.attempts + pending }.moveWorker worker (.testing 0))
  | .draining pending => some ({ state with attempts := state.attempts + pending }.moveWorker worker .stopped)
  | .returned | .stopped | .panicked => none

/-- The next step of `run`, which waits for a candidate and then for the workers. -/
def stepCollector (state : State search.threadCount) : Option (State search.threadCount) :=
  match state.collector with
  | .receiving _ =>
    match state.queue with
    | candidate :: queue => some ({ state with queue }.moveCollector (.storing (some candidate)))
    | [] =>
      if ∀ worker, (state.workers worker).phase.isFinished then some (state.moveCollector (.storing none)) else none
  | .reporting _ => some (state.moveCollector (.receiving state.attempts))
  | .storing candidate =>
    some ({ state with found := true }.moveCollector (.joining (List.finRange search.threadCount) false candidate))
  | .joining (worker :: workers) workerPanicked candidate =>
    if (state.workers worker).phase.isFinished then
      some (state.moveCollector (.joining workers (workerPanicked || (state.workers worker).phase = .panicked) candidate))
    else none
  | .joining [] true _ => some (state.moveCollector (.finished (.error (.vanitySearch "a search worker panicked"))))
  | .joining [] false none =>
    some (state.moveCollector (.finished (.error (.vanitySearch "all workers stopped without finding a key"))))
  | .joining [] false (some candidate) => some (state.moveCollector (.loading candidate))
  | .loading candidate =>
    some (state.moveCollector (.finished (.ok ⟨candidate.keypair, candidate.pubkey, state.attempts⟩)))
  | .finished _ => none

/-- Nothing was received for a second, and progress is about to be shown. -/
def stepTimeout (state : State search.threadCount) : Option (State search.threadCount) :=
  match state.collector, state.queue with
  | .receiving previous, [] => some (state.moveCollector (.reporting previous))
  | _, _ => none

/-- Whose turn it is. -/
inductive Turn (n : Nat) where
  | worker (number : Fin n)
  | collector
  | timeout
  deriving DecidableEq

def step (state : State search.threadCount) : Turn search.threadCount → Option (State search.threadCount)
  | .worker number => search.stepWorker sdk keys state number
  | .collector => search.stepCollector state
  | .timeout => search.stepTimeout state

/-- The state after some turns, from the moment the workers are spawned. It is undefined
where the turn is given to somebody who waits. -/
def run (schedule : List (Turn search.threadCount)) : Option (State search.threadCount) :=
  schedule.foldlM (search.step sdk keys) (.start search.threadCount)

end VanitySearch
end ArchKit.Vanity
