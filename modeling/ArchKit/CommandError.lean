import ArchKit.Effects.Lift
import ArchKit.Error

/-! The errors of the commands that have errors of their own. -/

namespace ArchKit
open Effects

/-- The errors of the reusable client. -/
inductive ArchKitError where
  | invalidRpcUrl
  | nodeNotReady (rpcUrl : String)
  | nodeHealthUnavailable (rpcUrl : String)
  | nodeHealthRpc (rpcUrl : String) (source : ArchError)
  | blocksNotProgressing (rpcUrl : String) (initialHeight finalHeight observationSeconds : UInt64)
  deriving DecidableEq

/-- `CliError` with the variants that only the commands raise. -/
inductive CommandError where
  | cli (error : CliError)
  | initializeProgram (path : Path) (source : IoError)
  | invalidProgramTemplate (path : Path)
  | renderProgramTemplate (path : Path) (source : String)
  | nativeTransfer (message : String)
  | tokenAccountIdentityMismatch (address expectedMint actualMint expectedOwner actualOwner : String)
  | archKit (error : ArchKitError)
  /-- `Idl` with a message that contains the `display` of a path. -/
  | idlPath (message : String) (path : Path) (detail : String)
  deriving DecidableEq

/-- A command that talks to the outside world as the others do. -/
abbrev Command (α : Type) := Fallible api CommandError α

end ArchKit
