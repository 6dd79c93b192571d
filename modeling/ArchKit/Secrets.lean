import ArchKit.CommandLine
import ArchKit.Effects.Likeness
import ArchKit.Proofs.KeyFiles

/-! What shows of the secrets that commands handle. Two secret keys are twins where the
libraries return the same for both, as BIP-340 has it for a scalar and its negation. An
observer sees everything a command asks for but the keys inside of it: those that the
libraries are given and those in the files that are written. -/

namespace ArchKit
open Effects

/-- Keys that the results of the libraries do not tell apart. -/
structure Interchangeable (sdk : Sdk) (twins : Keypair → Keypair → Prop) : Prop where
  refl : ∀ keypair, twins keypair keypair
  pubkey : ∀ keypair twin, twins keypair twin → sdk.xOnlyPublicKey keypair = sdk.xOnlyPublicKey twin
  signed : ∀ message keypairs others network, List.Forall₂ twins keypairs others →
    sdk.buildAndSign message keypairs network = sdk.buildAndSign message others network

namespace Secrets
variable (sdk : Sdk) (twins : Keypair → Keypair → Prop) (secret : Path → Prop)

/-- The same bytes, or what is left of the secrets of twins. -/
def Spelled (buffer other : Bytes) : Prop :=
  buffer = other ∨ ∃ keypair twin count, twins keypair twin ∧
    buffer = (utf8 (Keys.encodedSecret keypair)).drop count ∧ other = (utf8 (Keys.encodedSecret twin)).drop count

/-- The contents of two key files that hold twins. -/
def Hold (contents other : Bytes) : Prop :=
  ∃ secretKey secretTwin, Keys.heldKey? sdk contents = some secretKey ∧ Keys.heldKey? sdk other = some secretTwin ∧
    twins ⟨secretKey⟩ ⟨secretTwin⟩

def Requests : Request → Request → Prop
  | .createAndFundAccountWithFaucet keypair, .createAndFundAccountWithFaucet twin => twins keypair twin
  | .tryDeployProgram name program authority elfPath, .tryDeployProgram otherName programTwin authorityTwin otherPath =>
    name = otherName ∧ twins program programTwin ∧ twins authority authorityTwin ∧ elfPath = otherPath
  | .signMessageBip322 keypair digest network, .signMessageBip322 twin otherDigest otherNetwork =>
    twins keypair twin ∧ digest = otherDigest ∧ network = otherNetwork
  | .write file buffer, .write otherFile otherBuffer => file = otherFile ∧ Spelled twins buffer otherBuffer
  | operation, other => operation = other

def Replies : (operation other : Request) → operation.Reply → other.Reply → Prop
  | .read path, .read _, reply, other =>
    reply = other ∨ (secret path ∧ ∃ contents others, reply = .ok contents ∧ other = .ok others ∧ Hold sdk twins contents others)
  | .generateNewKeypair _, .generateNewKeypair _, drawn, other => twins drawn.1 other.1 ∧ drawn.2 = other.2
  | _, _, reply, other => HEq reply other

/-- How commands look to the observer. -/
def likeness : Likeness api := ⟨Requests twins, Replies sdk twins secret⟩

/-- A request that neither draws nor reads a secret. -/
def Shown : Request → Prop
  | .read path => ¬secret path
  | .generateNewKeypair _ => False
  | _ => True

variable {sdk twins secret}

theorem Shown.open (interchangeable : Interchangeable sdk twins) {operation : Request} (shown : Shown secret operation) :
    (likeness sdk twins secret).Open operation := by
  cases operation with
  | createAndFundAccountWithFaucet keypair => exact ⟨interchangeable.refl keypair, fun _ _ same => eq_of_heq same⟩
  | tryDeployProgram name program authority elfPath =>
    exact ⟨⟨rfl, interchangeable.refl program, interchangeable.refl authority, rfl⟩, fun _ _ same => eq_of_heq same⟩
  | signMessageBip322 keypair digest network => exact ⟨⟨interchangeable.refl keypair, rfl, rfl⟩, fun _ _ same => eq_of_heq same⟩
  | write file buffer => exact ⟨⟨rfl, .inl rfl⟩, fun _ _ same => eq_of_heq same⟩
  | read path =>
    refine ⟨rfl, ?_⟩
    intro reply other alike
    rcases alike with same | hidden
    · exact same
    · exact absurd hidden.1 shown
  | generateNewKeypair network => exact shown.elim
  | _ => exact ⟨rfl, fun _ _ same => eq_of_heq same⟩

end Secrets

/-- A request of any command that neither draws nor reads a secret. -/
def Demand.Shown (secret : Path → Prop) : Demand → Prop
  | .inl operation => Secrets.Shown secret operation
  | .inr _ => True

/-- The files that a command line names for reading and that hold no keys. -/
def Subcommand.documents : Subcommand → List Path
  | .buildIdl args => [args.programPath.join BuildIdl.cargoToml]
  | .deploy args => args.elf :: args.idl.toList
  | _ => []

/-- The command computes with the key itself. -/
def Subcommand.derivesCipher : Subcommand → Bool
  | .encrypt _ | .decrypt _ => true
  | _ => false

/-- How all commands look to the observer, who also sees what they print. -/
def Libraries.likeness (libraries : Libraries) (twins : Keypair → Keypair → Prop) (secret : Path → Prop) : Likeness toolkit :=
  (Secrets.likeness libraries.toSdk twins secret).beside calls

theorem Demand.Shown.open {libraries : Libraries} {twins : Keypair → Keypair → Prop} {secret : Path → Prop}
    (interchangeable : Interchangeable libraries.toSdk twins) {operation : Demand} (shown : Demand.Shown secret operation) :
    (libraries.likeness twins secret).Open operation := by
  rcases operation with operation | operation
  · exact Secrets.Shown.open interchangeable shown
  · exact ⟨rfl, fun _ _ same => eq_of_heq same⟩

end ArchKit
