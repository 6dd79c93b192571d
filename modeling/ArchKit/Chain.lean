import ArchKit.Effects.Interleaving
import ArchKit.Error
import ArchKit.Satellite

/-! A chain shared by several commands. A transaction takes effect when it is served;
its sender may see an error all the same. Commands that stop waiting are simply not
scheduled any more. -/

namespace ArchKit
open Effects Idl

/-- A transaction that reached the chain, and what became of it. -/
structure Entry (ι : Type) where
  client : ι
  transaction : RuntimeTransaction
  status : Status

/-- The chain, together with the keys each command has generated. -/
structure World (ι : Type) where
  ledger : Ledger
  generated : List (ι × Pubkey)
  log : List (Entry ι)

namespace World
variable {ι : Type} (world : World ι) (client : ι)

def addresses : List Pubkey := world.generated.map Prod.snd

def nextId : Hash := ⟨world.log.length⟩

def commit (transaction : RuntimeTransaction) (ledger : Ledger) : World ι :=
  { world with ledger, log := world.log ++ [⟨client, transaction, .processed⟩] }

def reject (transaction : RuntimeTransaction) (reason : String) : World ι :=
  { world with log := world.log ++ [⟨client, transaction, .failed reason⟩] }

def generate (pubkey : Pubkey) : World ι := { world with generated := world.generated ++ [(client, pubkey)] }

end World

namespace Chain
variable {ι : Type} (sdk : Sdk) (program : Pubkey)

/-- What the chain and the network may do with a request. A read or a status is
truthful or an error; a transaction is lost, executed atomically or refused, and in
the last two cases the sender receives its id or an error. Generated keys are new. -/
def Serves (client : ι) (before : World ι) : (operation : Request) → operation.Reply → World ι → Prop
  | .readAccountInfo address, reply, after => after = before ∧
      match reply with
      | .ok account => before.ledger.accounts address = some account
      | .error (.notFound _) => before.ledger.accounts address = none
      | .error _ => True
  | .sendTransaction transaction, reply, after =>
      (after = before ∧ ∃ error, reply = .error error) ∨
      ((reply = .ok before.nextId ∨ ∃ error, reply = .error error) ∧
        ((∃ ledger, Satellite.processInstructions sdk program before.ledger transaction.message.instructions = some ledger ∧
            after = before.commit client transaction ledger) ∨
          ∃ reason, after = before.reject client transaction reason))
  | .waitForProcessedTransaction id, reply, after => after = before ∧
      ∀ processed, reply = .ok processed → ∃ entry, before.log[id.number]? = some entry ∧ processed.status = entry.status
  | .generateNewKeypair _, reply, after =>
      reply.2 = sdk.xOnlyPublicKey reply.1 ∧ reply.2 ∉ before.addresses ∧ before.ledger.accounts reply.2 = none ∧
        after = before.generate client reply.2
  | _, _, after => after = before

/-- The service of a network in which no call fails: a transaction is refused only when
its instructions cannot be executed. -/
def Faultless (client : ι) (before : World ι) : (operation : Request) → operation.Reply → World ι → Prop
  | .readAccountInfo address, reply, after => after = before ∧
      match before.ledger.accounts address with
      | some account => reply = .ok account
      | none => ∃ message, reply = .error (.notFound message)
  | .getBestFinalizedBlockHash, reply, after => after = before ∧ ∃ blockhash, reply = .ok blockhash
  | .sendTransaction transaction, reply, after => reply = .ok before.nextId ∧
      match Satellite.processInstructions sdk program before.ledger transaction.message.instructions with
      | some ledger => after = before.commit client transaction ledger
      | none => ∃ reason, after = before.reject client transaction reason
  | .waitForProcessedTransaction id, reply, after => after = before ∧
      match before.log[id.number]? with
      | some entry => reply = .ok ⟨entry.status⟩
      | none => ∃ error, reply = .error error
  | .generateNewKeypair _, reply, after =>
      reply.2 = sdk.xOnlyPublicKey reply.1 ∧ reply.2 ∉ before.addresses ∧ before.ledger.accounts reply.2 = none ∧
        after = before.generate client reply.2
  | _, _, after => after = before

/-- One way to serve a request: truthfully, with an error, or by drawing a given key. -/
inductive Choice where
  | honest | lose
  | draw (keypair : Keypair)

/-- The reply and the effect that a choice stands for, where it is possible. -/
def attempt (client : ι) (world : World ι) :
    Choice → (operation : Request) → Option (operation.Reply × World ι)
  | .honest, .readAccountInfo address =>
    match world.ledger.accounts address with
    | some account => some (.ok account, world)
    | none => some (.error (.notFound "account not found"), world)
  | .honest, .getBestFinalizedBlockHash => some (.ok ⟨world.log.length⟩, world)
  | .honest, .sendTransaction transaction =>
    match Satellite.processInstructions sdk program world.ledger transaction.message.instructions with
    | some ledger => some (.ok world.nextId, world.commit client transaction ledger)
    | none => some (.ok world.nextId, world.reject client transaction "instruction failed")
  | .honest, .waitForProcessedTransaction id =>
    match world.log[id.number]? with
    | some entry => some (.ok ⟨entry.status⟩, world)
    | none => none
  | .draw keypair, .generateNewKeypair _ =>
    let pubkey := sdk.xOnlyPublicKey keypair
    if pubkey ∉ world.addresses ∧ (world.ledger.accounts pubkey).isNone then
      some ((keypair, pubkey), world.generate client pubkey)
    else none
  | .lose, .readAccountInfo _ => some (.error (.other "connection lost"), world)
  | _, _ => none

variable {sdk program}

theorem Faultless.serves {client : ι} {before after : World ι} {operation : Request} {reply : operation.Reply}
    (served : Faultless sdk program client before operation reply after) :
    Serves sdk program client before operation reply after := by
  cases operation with
  | readAccountInfo address =>
    obtain ⟨same, truth⟩ := served
    refine ⟨same, ?_⟩
    split at truth
    next account found => subst truth; exact found
    next missing => obtain ⟨message, rfl⟩ := truth; exact missing
  | getBestFinalizedBlockHash => exact served.1
  | sendTransaction transaction =>
    obtain ⟨received, executed⟩ := served
    refine .inr ⟨.inl received, ?_⟩
    split at executed
    next ledger done => exact .inl ⟨ledger, done, executed⟩
    next => exact .inr executed
  | waitForProcessedTransaction id =>
    obtain ⟨same, truth⟩ := served
    refine ⟨same, ?_⟩
    intro processed received
    subst received
    split at truth
    next entry found => cases truth; exact ⟨entry, found, rfl⟩
    next => obtain ⟨error, failed⟩ := truth; cases failed
  | generateNewKeypair network => exact served
  | _ => exact served

theorem attempt_serves {client : ι} {world after : World ι} {choice : Choice} {operation : Request}
    {reply : operation.Reply} (attempted : attempt sdk program client world choice operation = some (reply, after)) :
    Serves sdk program client world operation reply after := by
  unfold attempt at attempted
  split at attempted
  next address =>
    split at attempted
    next account found => cases attempted; exact ⟨rfl, found⟩
    next missing => cases attempted; exact ⟨rfl, missing⟩
  next => cases attempted; rfl
  next transaction =>
    split at attempted
    next ledger executed => cases attempted; exact .inr ⟨.inl rfl, .inl ⟨ledger, executed, rfl⟩⟩
    next => cases attempted; exact .inr ⟨.inl rfl, .inr ⟨_, rfl⟩⟩
  next id =>
    split at attempted
    next entry found =>
      cases attempted
      refine ⟨rfl, ?_⟩
      intro processed same
      cases same
      exact ⟨entry, found, rfl⟩
    next => cases attempted
  next keypair network =>
    dsimp only at attempted
    split at attempted
    next fresh => cases attempted; exact ⟨rfl, fresh.1, Option.isNone_iff_eq_none.mp fresh.2, rfl⟩
    next => cases attempted
  next => cases attempted; exact ⟨rfl, trivial⟩
  next => cases attempted

end Chain
end ArchKit
