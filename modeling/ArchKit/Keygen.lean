import ArchKit.Keys
import ArchKit.Vanity

/-! The `keygen` command. -/

namespace ArchKit
open Effects Vanity

inductive Component where
  | rootDir
  | curDir
  | parentDir
  | normal (name : Bytes)
  deriving DecidableEq

/-- `Path::components`: repeated slashes, and `.` anywhere but at the start, do not count. -/
def Path.components (path : Path) : List Component :=
  let pieces := path.bytes.splitOn 47
  (if path.bytes.head? = some 47 then [.rootDir] else if pieces.head? = some [46] then [.curDir] else []) ++
    (pieces.filter (fun piece => piece ≠ [] ∧ piece ≠ [46])).map fun piece =>
      if piece = [46, 46] then .parentDir else .normal piece

namespace Keygen

/-- The command line; `keyPrefix` is its `prefix`. -/
structure Args where
  keyPrefix : Option String
  threads : Option Nat
  outputs : List Path

/-- The loop of `preflight_paths` after it has requested some paths. -/
def preflightPaths (requested : List Path) : List Path → Cli Unit
  | [] => pure ()
  | path :: paths => do
    if requested.any (fun other => other.components = path.components) then
      throw (.invalidPath "duplicate key destination: " path)
    match ← Cli.symlinkMetadata path with
    | .ok () => throw (.createKey "secret key" path ⟨.alreadyExists, "entity already exists"⟩)
    | .error source =>
      if source.kind = .notFound then preflightPaths (path :: requested) paths
      else throw (.createKey "secret key" path source)

/-- How the threads of a search end is a parameter. -/
def generateAll (runSearch : VanitySearch → Cli VanityOutcome) (vanitySearch : Option VanitySearch) : List Path → Cli Unit
  | [] => pure ()
  | output :: outputs => do
    match vanitySearch with
    | some search =>
      let outcome ← runSearch search
      Keys.persistKeyFile output "secret key" outcome.keypair
    | none =>
      let _ ← Keys.generateKeyFile output "secret key" .bitcoin
    generateAll runSearch vanitySearch outputs

def run (availableThreads : Nat) (runSearch : VanitySearch → Cli VanityOutcome) (args : Args) : Cli Unit := do
  preflightPaths [] args.outputs
  let vanitySearch ← Fallible.ofExcept (args.keyPrefix.mapM fun text => VanitySearch.new availableThreads text args.threads)
  generateAll runSearch vanitySearch args.outputs

end Keygen
end ArchKit
