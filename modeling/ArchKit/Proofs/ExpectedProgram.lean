import ArchKit.Proofs.KeyFiles
import ArchKit.Proofs.LocalInputs

/-! What a deployment leaves on the disk when it refuses the program ID that was expected. -/

namespace ArchKit
open Effects

namespace Disk
variable {ι : Type} {sdk : Sdk} {client : ι} {disk : Disk ι}

end Disk

namespace Keys
variable {ι : Type} {sdk : Sdk} {client : ι} {disk : Disk ι}

section Generation
variable (sdk : Sdk) (client : ι) {path : Path}

end Generation

/-- Every failure to load or to generate a key names the key file. -/
inductive KeyFailure (label : String) (path : Path) : CliError → Prop where
  | missing : KeyFailure label path (.inputNotFile label path)
  | load (source : IoError) : KeyFailure label path (.loadKey label path source)
  | create (source : IoError) : KeyFailure label path (.createKey label path source)

theorem loadExistingKey_raises (path : Path) (label : String) :
    Fallible.Raises (KeyFailure label path) (loadExistingKey sdk path label) := by
  unfold loadExistingKey
  apply Fallible.Raises.perform (I := api)
  intro present
  cases present with
  | false => exact .throw .missing
  | true =>
    apply Fallible.Raises.perform (I := api)
    intro reply
    cases reply with
    | error source => exact .throw (.load _)
    | ok bytes =>
      dsimp only
      cases fromUtf8? bytes with
      | none => exact .throw (.load _)
      | some contents =>
        dsimp only
        cases parseSecretKey sdk contents with
        | error source => exact .throw (.load _)
        | ok secretKey => exact .pure _

theorem writeAll_raises {allowed : CliError → Prop} {fail : IoError → CliError} (listed : ∀ source, allowed (fail source))
    (file : File) (buffer : Bytes) : Fallible.Raises allowed (writeAll fail file buffer) := by
  induction size : buffer.length using Nat.strong_induction_on generalizing buffer with
  | _ size ih =>
    subst size
    cases buffer with
    | nil =>
      rw [writeAll]
      exact .pure ()
    | cons byte rest =>
      rw [writeAll]
      apply Fallible.Raises.perform (I := api)
      intro reply
      cases reply with
      | error source => exact .throw (listed _)
      | ok count =>
        cases count with
        | zero => exact .throw (listed _)
        | succ count => exact ih _ (by simp only [List.length_drop, List.length_cons]; omega) _ rfl

theorem persistKeyFile_raises (path : Path) (label : String) (keypair : Keypair) :
    Fallible.Raises (KeyFailure label path) (persistKeyFile path label keypair) := by
  unfold persistKeyFile
  apply Fallible.Raises.perform (I := api)
  intro reply
  cases reply with
  | error source => exact .throw (.create _)
  | ok file =>
    apply Fallible.Raises.bind (writeAll_raises .create file _)
    intro _
    apply Fallible.Raises.bind (writeAll_raises .create file _)
    intro _
    apply Fallible.Raises.perform (I := api)
    intro reply
    cases reply with
    | error source => exact .throw (.create _)
    | ok value => exact .pure ()

theorem loadOrGenerateKey_raises (path : Path) (label : String) (network : Network) (generateIfMissing : Bool) :
    Fallible.Raises (KeyFailure label path) (loadOrGenerateKey sdk path label network generateIfMissing) := by
  have loads : Fallible.Raises (KeyFailure label path)
      (loadExistingKey sdk path label >>= fun loaded => pure (loaded.1, loaded.2, false)) :=
    .bind (loadExistingKey_raises path label) (fun _ => .pure _)
  unfold loadOrGenerateKey
  cases generateIfMissing with
  | false => exact loads
  | true =>
    apply Fallible.Raises.perform (I := api)
    intro reply
    cases reply with
    | ok value => exact loads
    | error source =>
      dsimp only
      split
      next =>
        apply Fallible.Raises.bind
        · apply Fallible.Raises.perform (I := api)
          intro drawn
          exact .bind (persistKeyFile_raises path label drawn.1) (fun _ => .pure _)
        · exact fun _ => .pure _
      next => exact .throw (.load _)

end Keys

namespace Idl

theorem mapError_ne {ε κ α : Type} {outcome : Except ε α} {wrap : ε → κ} {error : κ} (other : ∀ source, wrap source ≠ error) :
    outcome.mapError wrap ≠ .error error := by
  cases outcome with
  | ok value => exact fun same => by cases same
  | error source => exact fun same => other source (Except.error.inj same)

end Idl

namespace Deploy

/-- The refusal of a program key. -/
def mismatch (expected actual : Pubkey) : CliError :=
  .invalidArgument
    s!"program ID mismatch: expected {expected} from --expect-program-id, but --program-key derives {actual}"

/-- Any other error. -/
def Other (error : CliError) : Prop := ∀ expected actual, error ≠ mismatch expected actual

variable (context : Context)

section Rule
variable {ι : Type} {sdk : Sdk} (client : ι) (args : Args) (disk : Disk ι)

/-- The error is about the expected program: its text is no key, or another key was found. -/
def Rejects (error : CliError) : Prop :=
  ∃ text, args.expectProgramId = some text ∧
    (Token.parsePubkey text "--expect-program-id" = .error error ∨
      ∃ expected actual, Token.parsePubkey text "--expect-program-id" = .ok expected ∧ error = mismatch expected actual)

variable {context client args disk}

theorem Other.accepted {error : CliError} {text : String} {expected : Pubkey} (other : Other error)
    (given : args.expectProgramId = some text) (parsed : Token.parsePubkey text "--expect-program-id" = .ok expected) :
    ¬Rejects args error := by
  intro rejected
  obtain ⟨again, same, malformed | ⟨first, second, _, failed⟩⟩ := rejected
  · cases given.symm.trans same
    cases parsed.symm.trans malformed
  · exact other first second failed

end Rule

namespace Example
open Reference

/-- A directory with nothing but the program. -/
def directory (path : Path) : Option (Node Unit) := if path = elf then some (.file (utf8 "ELF") none) else none

theorem several (key : Pubkey) : ∃ keypair, localnet.sdk.xOnlyPublicKey keypair ≠ key := by
  by_cases same : publicKey firstBuffer = key
  · refine ⟨secondBuffer, fun also => ?_⟩
    have different : publicKey firstBuffer ≠ publicKey secondBuffer := by decide +kernel
    exact different (same.trans also.symm)
  · exact ⟨firstBuffer, same⟩

end Example

end Deploy
end ArchKit
