import ArchKit.Deploy
import ArchKit.Effects.Environment
import ArchKit.Reference

/-! What a deployment does about bad local inputs. Everything up to the funding of the
authority stays on the machine. The path of the ELF and the difference of the two keys are
only looked at after it. -/

namespace ArchKit
open Effects

/-- A computer answers every request that does not leave it. -/
abbrev Host (σ : Type) := σ → (operation : Request) → (!operation.isRpc) = true → operation.Reply × σ

namespace Host
variable {σ : Type}

def machine (host : Host σ) : Machine api σ := ⟨fun operation => !operation.isRpc, host⟩

end Host

/-- No request of the program leaves the computer. -/
abbrev Cli.Offline {α : Type} (program : Cli α) : Prop := Fallible.Offline (I := api) (fun operation => !operation.isRpc) program

namespace Keys
variable (sdk : Sdk)

theorem writeAll_offline (fail : IoError → CliError) (file : File) (buffer : Bytes) :
    Cli.Offline (writeAll fail file buffer) := by
  induction size : buffer.length using Nat.strong_induction_on generalizing buffer with
  | _ size ih =>
    subst size
    cases buffer with
    | nil =>
      rw [writeAll]
      exact .pure ()
    | cons byte rest =>
      rw [writeAll]
      apply Fallible.Offline.perform (I := api) rfl
      intro reply
      cases reply with
      | error source => exact .throw _
      | ok count =>
        cases count with
        | zero => exact .throw _
        | succ count => exact ih _ (by simp only [List.length_drop, List.length_cons]; omega) _ rfl

theorem loadExistingKey_offline (path : Path) (label : String) : Cli.Offline (loadExistingKey sdk path label) := by
  unfold loadExistingKey
  apply Fallible.Offline.perform (I := api) rfl
  intro present
  cases present with
  | false => exact .throw _
  | true =>
    apply Fallible.Offline.perform (I := api) rfl
    intro reply
    cases reply with
    | error source => exact .throw _
    | ok bytes =>
      dsimp only
      cases fromUtf8? bytes with
      | none => exact .throw _
      | some contents =>
        dsimp only
        cases parseSecretKey sdk contents with
        | error source => exact .throw _
        | ok secretKey => exact .pure _

theorem persistKeyFile_offline (path : Path) (label : String) (keypair : Keypair) :
    Cli.Offline (persistKeyFile path label keypair) := by
  unfold persistKeyFile
  apply Fallible.Offline.perform (I := api) rfl
  intro reply
  cases reply with
  | error source => exact .throw _
  | ok file =>
    apply Fallible.Offline.bind (writeAll_offline _ file _)
    intro _
    apply Fallible.Offline.bind (writeAll_offline _ file _)
    intro _
    apply Fallible.Offline.perform (I := api) rfl
    intro reply
    cases reply with
    | error source => exact .throw _
    | ok value => exact .pure ()

theorem loadOrGenerateKey_offline (path : Path) (label : String) (network : Network) (generateIfMissing : Bool) :
    Cli.Offline (loadOrGenerateKey sdk path label network generateIfMissing) := by
  have loads := Fallible.Offline.bind (loadExistingKey_offline sdk path label)
    (fun loaded => .pure (loaded.1, loaded.2, false))
  unfold loadOrGenerateKey
  cases generateIfMissing with
  | false => exact loads
  | true =>
    apply Fallible.Offline.perform (I := api) rfl
    intro reply
    cases reply with
    | ok value => exact loads
    | error source =>
      dsimp only
      split
      next =>
        apply Fallible.Offline.bind
        · unfold generateKeyFile
          apply Fallible.Offline.perform (I := api) rfl
          intro drawn
          exact .bind (persistKeyFile_offline path label drawn.1) (fun _ => .pure drawn)
        · exact fun made => .pure (made.1, made.2, true)
      next => exact .throw _

end Keys

theorem Idl.prepare_offline (codec : Codec) (path : Path) (program : Pubkey) (requested : Option Nat) :
    Cli.Offline (prepare codec path program requested) := by
  unfold prepare
  apply Fallible.Offline.perform (I := api) rfl
  intro present
  cases present with
  | false => exact .throw _
  | true =>
    apply Fallible.Offline.perform (I := api) rfl
    intro reply
    cases reply with
    | error source => exact .throw _
    | ok raw => exact .ofExcept _

namespace Deploy
section Rule
variable (context : Context)

theorem ensureFile_offline (path : Path) (label : String) : Cli.Offline (ensureFile path label) := by
  unfold ensureFile
  apply Fallible.Offline.perform (I := api) rfl
  intro present
  cases present with
  | false => exact .throw _
  | true => exact .pure ()

theorem readElf_offline (path : Path) : Cli.Offline (readElf path) := by
  unfold readElf
  apply Fallible.Offline.perform (I := api) rfl
  intro reply
  cases reply with
  | error source => exact .throw _
  | ok contents => exact .pure contents

theorem localInputs_offline (args : Args) : Cli.Offline (localInputs context args) := by
  unfold localInputs
  apply Fallible.Offline.bind (.ofExcept _)
  intro expectedProgram
  apply Fallible.Offline.bind (ensureFile_offline args.elf _)
  intro _
  apply Fallible.Offline.bind (readElf_offline args.elf)
  intro elf
  apply Fallible.Offline.bind (Keys.loadOrGenerateKey_offline ..)
  intro program
  dsimp only
  split
  next => exact .throw _
  next =>
    apply Fallible.Offline.bind (Keys.loadOrGenerateKey_offline ..)
    intro authority
    apply Fallible.Offline.bind
    · cases args.idl with
      | none => exact .pure none
      | some path => exact .bind (Idl.prepare_offline ..) (fun prepared => .pure (some prepared))
    · exact fun prepared => .pure _

variable {context}

variable {σ : Type} {host : Host σ} {args : Args} {state : σ}

section Run
variable {δ : Type} {server : Server api δ} {before after : Situation api σ δ} {outcome : Except CliError Unit}
  {inputs : Inputs} {later : σ}

/-- A remote server that knows every account to have the same balance. -/
def Balanced (balance : Nat) : Server api Unit := fun _ operation reply _ =>
  match operation, reply with
  | .readAccountInfo _, .ok account => account.lamports = balance
  | _, _ => False

end Run

end Rule

namespace Example
open Reference

def elf : Path := ⟨utf8 "program.so"⟩
def key : Path := ⟨utf8 "authority.key"⟩

/-- A computer with an ELF and one key file, both write-protected. -/
def files (path : Path) : Option Bytes :=
  if path = elf then some (utf8 "ELF") else if path = key then some (utf8 (Keys.encodedSecret authorityKeypair)) else none

def denied : IoError := ⟨.permissionDenied, "Permission denied (os error 13)"⟩

/-- A faucet that grants a fixed amount to the only account there is. -/
def respond (_ : Unit) (balance : Nat) (operation : Request) : Option (operation.Reply × Nat) :=
  match operation with
  | .readAccountInfo _ =>
    some (if balance = 0 then .error (.notFound "account is not in database")
      else .ok ⟨balance, tables.systemProgram, [], false⟩, balance)
  | .createAndFundAccountWithFaucet _ => some (.ok (), balance + 1000000000)
  | _ => none

def localnet : Context where
  sdk := { tables.sdk with
    bpfLoader := .fromSlice [1], programDataOffset := 40, extendBytesMaxLen := 1000, accountFundingAmount := 1000000 }
  codec := codec []
  network := .bitcoin

def server : Server api Nat := fun before operation reply after => respond () before operation = some (reply, after)

end Example

end Deploy
end ArchKit
