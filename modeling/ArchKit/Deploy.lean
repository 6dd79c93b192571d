import ArchKit.Idl
import ArchKit.Keys
import ArchKit.Token

/-! The `deploy` command. What the loader and the faucet of the SDK require is not part of
the toolkit and comes as fields of `DeploySdk`. -/

namespace ArchKit
open Effects

structure DeploySdk extends Sdk where
  bpfLoader : Pubkey
  programDataOffset : Nat
  extendBytesMaxLen : Nat
  accountFundingAmount : Nat

/-- `Path::file_name`: the last component, where empty and `.` components do not count. -/
def Path.fileName? (path : Path) : Option Bytes :=
  match ((path.bytes.splitOn 47).filter (fun component => component ≠ [] ∧ component ≠ [46])).getLast? with
  | some [46, 46] => none
  | last => last

/-- `Path::file_stem`: the name up to its last dot, unless that is its first character. -/
def Path.fileStem? (path : Path) : Option Bytes :=
  path.fileName?.map fun name =>
    match name.reverse.dropWhile (· ≠ 46) with
    | [] | [_] => name
    | _ :: before => before.reverse

namespace Deploy

structure Args where
  elf : Path
  programKey : Path
  expectProgramId : Option String
  authority : Path
  generateIfMissing : Bool
  fundAuthority : Bool
  idl : Option Path
  idlSize : Option Nat
  allowIdlResize : Bool

/-- The libraries and the configured network. -/
structure Context where
  sdk : DeploySdk
  codec : Codec
  network : Network

/-- What the command reads before it talks to anybody. -/
structure Inputs where
  elfSize : Nat
  programKeypair : Keypair
  programPubkey : Pubkey
  authorityKeypair : Keypair
  authorityPubkey : Pubkey
  preparedIdl : Option Idl.PreparedIdl

def ensureFile (path : Path) (label : String) : Cli Unit := do
  if ← Cli.isFile path then return () else throw (.inputNotFile label path)

def pathString (path : Path) (label : String) : Except CliError String :=
  match path.toStr with
  | some text => .ok text
  | none => .error (.nonUtf8Path label path)

def readElf (path : Path) : Cli Bytes := do
  match ← Cli.read path with
  | .ok contents => return contents
  | .error source => throw (.readInput "program ELF" path source)

def programName (elf : Path) : String :=
  ((elf.fileStem?.bind fromUtf8?).filter (· ≠ "")).getD "Arch Program"

variable (context : Context)

/-- The first half of `run`, up to the funding of the authority. -/
def localInputs (args : Args) : Cli Inputs := do
  let expectedProgram ← Fallible.ofExcept (args.expectProgramId.mapM (Token.parsePubkey · "--expect-program-id"))
  ensureFile args.elf "program ELF"
  let elf ← readElf args.elf
  let (programKeypair, programPubkey, _) ←
    Keys.loadOrGenerateKey context.sdk.toSdk args.programKey "program key" context.network args.generateIfMissing
  match expectedProgram.filter (· ≠ programPubkey) with
  | some expected =>
    throw (.invalidArgument
      s!"program ID mismatch: expected {expected} from --expect-program-id, but --program-key derives {programPubkey}")
  | none =>
    let (authorityKeypair, authorityPubkey, _) ←
      Keys.loadOrGenerateKey context.sdk.toSdk args.authority "authority key" context.network args.generateIfMissing
    let preparedIdl ← args.idl.mapM fun path => Idl.prepare context.codec path programPubkey args.idlSize
    return { elfSize := elf.length, programKeypair, programPubkey, authorityKeypair, authorityPubkey, preparedIdl }

/-- The balance that pays for the rent and the fees of a deployment. -/
def fundingTarget (elfSize : Nat) (publishes : Bool) : Nat :=
  context.sdk.minimumRent (context.sdk.programDataOffset + elfSize) +
    ((elfSize + context.sdk.extendBytesMaxLen - 1) / context.sdk.extendBytesMaxLen + 6) * 5000 +
    context.sdk.minimumRent 0 + context.sdk.accountFundingAmount +
    if publishes then context.sdk.accountFundingAmount else 0

/-- Ask the faucet until the balance suffices. Every grant must raise it. -/
def topUp (keypair : Keypair) (authority : Pubkey) (target balance : Nat) : Cli Unit :=
  if _short : balance < target then do
    Cli.rpc (← Cli.createAndFundAccountWithFaucet keypair)
    let funded ← Cli.rpc (← Cli.readAccountInfo authority)
    if _raised : balance < funded.lamports then topUp keypair authority target funded.lamports
    else throw (.archRpc (.transactionError "faucet did not increase the authority balance"))
  else return ()
termination_by target - balance
decreasing_by omega

def balanceOf (authority : Pubkey) : Cli Nat := do
  match ← Cli.readAccountInfo authority with
  | .ok account => return account.lamports
  | .error (.notFound _) => return 0
  | .error error => throw (.archRpc error)

def fundAuthority (args : Args) (inputs : Inputs) : Cli Unit := do
  let balance ← balanceOf inputs.authorityPubkey
  topUp inputs.authorityKeypair inputs.authorityPubkey (fundingTarget context inputs.elfSize args.idl.isSome) balance

/-- Hand a System account over to the loader. -/
def assignProgramAccount (program authority : Pubkey) (programKeypair authorityKeypair : Keypair) : Cli Unit := do
  let blockhash ← Cli.rpc (← Cli.getBestFinalizedBlockHash)
  let message := ArchMessage.new context.sdk.toSdk [.assign program context.sdk.bpfLoader] (some authority) blockhash
  let transaction ← Cli.rpc (context.sdk.buildAndSign message [authorityKeypair, programKeypair] context.network)
  let id ← Cli.rpc (← Cli.sendTransaction transaction)
  let processed ← Cli.rpc (← Cli.waitForProcessedTransaction id)
  if processed.status ≠ .processed then
    throw (.transactionFailed s!"program account assignment ({id})" processed.status.debug)
  let assigned ← Cli.rpc (← Cli.readAccountInfo program)
  if assigned.owner ≠ context.sdk.bpfLoader then
    throw (.invalidArgument
      s!"program account {program} still has owner {assigned.owner} after assignment {id}; expected {context.sdk.bpfLoader}")

def prepareProgramAccount (programKeypair authorityKeypair : Keypair) : Cli Unit := do
  let program := context.sdk.xOnlyPublicKey programKeypair
  let authority := context.sdk.xOnlyPublicKey authorityKeypair
  if program = authority then
    throw (.invalidArgument "program and deployment authority must use different keys")
  match ← Cli.readAccountInfo program with
  | .error (.notFound _) => return ()
  | .error error => throw (.archRpc error)
  | .ok account =>
    if account.owner = context.sdk.bpfLoader then return ()
    if account.owner ≠ context.sdk.systemProgram ∨ account.data ≠ [] ∨ account.isExecutable then
      throw (.invalidArgument
        s!"program account {program} must be loader-owned or an empty, non-executable System account; owner={account.owner}, data_len={account.data.length}, executable={account.isExecutable}")
    assignProgramAccount context program authority programKeypair authorityKeypair

def deployProgram (args : Args) (inputs : Inputs) (elfPath : String) : Cli Pubkey := do
  match ← Cli.tryDeployProgram (programName args.elf) inputs.programKeypair inputs.authorityKeypair elfPath with
  | .error error => throw (.programDeploy error)
  | .ok deployed =>
    if deployed ≠ inputs.programPubkey then
      throw (.invalidArgument
        s!"SDK returned program {deployed}, expected {inputs.programPubkey} from --program-key")
    return deployed

/-- The publication of the IDL, whose errors tell that the program is deployed. -/
def publishIdl (inputs : Inputs) (deployed : Pubkey) (prepared : Idl.PreparedIdl) (allowResize : Bool) : Cli Unit :=
  let publisher : Publisher :=
    { sdk := context.sdk.toSdk, codec := context.codec, program := deployed, authority := inputs.authorityPubkey
      network := context.network, authorityKeypair := inputs.authorityKeypair }
  tryCatch (publisher.publish prepared allowResize) fun source =>
    throw (.idlAfterDeployment (toString deployed) (pubkeyHex deployed) source)

/-- The second half of `run`. -/
def deploy (args : Args) (inputs : Inputs) : Cli Unit := do
  let elfPath ← Fallible.ofExcept (pathString args.elf "program ELF")
  prepareProgramAccount context inputs.programKeypair inputs.authorityKeypair
  let deployed ← deployProgram args inputs elfPath
  match inputs.preparedIdl with
  | some prepared => publishIdl context inputs deployed prepared args.allowIdlResize
  | none => return ()

def run (args : Args) : Cli Unit := do
  let inputs ← localInputs context args
  if args.fundAuthority then fundAuthority context args inputs
  deploy context args inputs

end Deploy
end ArchKit
