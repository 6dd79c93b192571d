import ArchKit.CommandError
import ArchKit.Effects.Sum
import ArchKit.Encryption

/-! What the other commands ask of the outside world: a few calls of their own beside the
requests that all commands share. -/

namespace ArchKit
open Effects Encryption Fallible

inductive Call where
  | isNodeReady (rpcUrl : String)
  | getBlockCount (rpcUrl : String)
  | sleep (seconds : UInt64)
  | buildIdl (programPath : Path)
  | createDirAll (path : Path)
  | writeFile (path : Path) (contents : Bytes)
  | readStdin
  | drawNonce
  | writeStdout (bytes : Bytes)
  | println (line : String)
  deriving DecidableEq

abbrev Call.Reply : Call → Type
  | .isNodeReady _ => Except ArchError (Option Bool)
  | .getBlockCount _ => Except ArchError UInt64
  | .buildIdl _ => Except String Json
  | .createDirAll _ | .writeFile .. => Except IoError Unit
  | .readStdin => Except String Bytes
  | .drawNonce => Except String Nonce
  | .writeStdout _ => Except String Unit
  | .sleep _ | .println _ => Unit

def calls : Interface := ⟨Call, Call.Reply⟩

def toolkit : Interface := api.sum calls

/-- A request of any command. -/
abbrev Demand := Request ⊕ Call

instance : DecidableEq toolkit.Request := inferInstanceAs (DecidableEq Demand)

abbrev Tool (α : Type) := Fallible toolkit CommandError α

namespace Tool
variable {α : Type}

/-- A command that makes none of the other calls. -/
abbrev ofCommand (command : Command α) : Tool α := command.left calls

abbrev ofCli (program : Cli α) : Tool α := ofCommand (program.wrap CommandError.cli)

abbrev ofExcept (outcome : Except CliError α) : Tool α := Fallible.ofExcept (wrapError CommandError.cli outcome)

abbrev call (operation : Call) : Tool operation.Reply := Fallible.perform (I := toolkit) (.inr operation)

abbrev request (operation : Request) : Tool operation.Reply := Fallible.perform (I := toolkit) (.inl operation)

/-- `?` on an RPC result. -/
abbrev rpc (outcome : Except ArchError α) : Tool α := ofExcept (outcome.mapError CliError.archRpc)

def println (line : String) : Tool Unit := call (.println line)

def printLines : List String → Tool Unit
  | [] => pure ()
  | line :: lines => do
    println line
    printLines lines

theorem ofCli_bind {β : Type} {program : Cli α} {next : α → Cli β} :
    ofCli (program >>= next) = ofCli program >>= fun value => ofCli (next value) := by
  unfold ofCli ofCommand
  rw [wrap_bind, left_bind]
  rfl

theorem ofCli_perform {β : Type} {operation : Request} {next : operation.Reply → Cli β} :
    ofCli (Fallible.perform (I := api) operation >>= next) = request operation >>= fun reply => ofCli (next reply) := ofCli_bind

end Tool
end ArchKit
