import ArchKit.Inspection
import ArchKit.Keygen
import ArchKit.Project
import ArchKit.Proofs.OneTransaction

/-! The whole command line: the remaining commands, the shared configuration and the
choice of a command. -/

namespace ArchKit
open Effects Encryption Text

/-- The selectable networks. -/
inductive BitcoinNetwork where
  | mainnet | testnet | testnet4 | signet | regtest
  deriving DecidableEq

def BitcoinNetwork.toNetwork : BitcoinNetwork → Network
  | .mainnet => .bitcoin
  | .testnet => .testnet
  | .testnet4 => .testnet4
  | .signet => .signet
  | .regtest => .regtest

structure Config where
  archNodeUrl : String
  network : Network

/-- `network::config`. -/
def config (rpcUrl : String) (bitcoinNetwork : BitcoinNetwork) : Except CliError Config :=
  if (trim rpcUrl.toList).isEmpty then .error (.invalidArgument "--rpc-url/ARCH_RPC_URL must not be empty")
  else .ok ⟨rpcUrl, bitcoinNetwork.toNetwork⟩

/-- The reusable client. -/
structure ArchKitClient where
  rpcUrl : String

/-- The measurements of the health check, without the times. -/
structure HealthStatus where
  rpcUrl : String
  initialBlockHeight : UInt64
  finalBlockHeight : UInt64

namespace ArchKitClient

def blockProgressWindow : UInt64 := 2

def new (rpcUrl : String) : Except ArchKitError ArchKitClient :=
  if (trim rpcUrl.toList).isEmpty then .error .invalidRpcUrl else .ok ⟨rpcUrl⟩

def requireReady (readiness : Option Bool) (rpcUrl : String) : Except ArchKitError Unit :=
  match readiness with
  | some true => .ok ()
  | some false => .error (.nodeNotReady rpcUrl)
  | none => .error (.nodeHealthUnavailable rpcUrl)

def requireProgress (initialHeight finalHeight observationSeconds : UInt64) (rpcUrl : String) : Except ArchKitError Unit :=
  if initialHeight < finalHeight then .ok ()
  else .error (.blocksNotProgressing rpcUrl initialHeight finalHeight observationSeconds)

variable (client : ArchKitClient)

/-- `?` on an answer to the health check. -/
def check {α : Type} (outcome : Except ArchError α) : Tool α :=
  Fallible.ofExcept (outcome.mapError fun source => .archKit (.nodeHealthRpc client.rpcUrl source))

def health : Tool HealthStatus := do
  let readiness ← client.check (← Tool.call (.isNodeReady client.rpcUrl))
  Fallible.ofExcept (wrapError CommandError.archKit (requireReady readiness client.rpcUrl))
  let initialBlockHeight ← client.check (← Tool.call (.getBlockCount client.rpcUrl))
  Tool.call (.sleep blockProgressWindow)
  let finalBlockHeight ← client.check (← Tool.call (.getBlockCount client.rpcUrl))
  Fallible.ofExcept (wrapError CommandError.archKit
    (requireProgress initialBlockHeight finalBlockHeight blockProgressWindow client.rpcUrl))
  return ⟨client.rpcUrl, initialBlockHeight, finalBlockHeight⟩

end ArchKitClient

namespace Health

def run (config : Config) : Tool Unit := do
  let client ← Fallible.ofExcept (wrapError CommandError.archKit (ArchKitClient.new config.archNodeUrl))
  let _ ← client.health

end Health

namespace Faucet

structure Args where
  key : Path

def run (sdk : Sdk) (args : Args) : Cli Unit := do
  let (keypair, pubkey) ← Keys.loadExistingKey sdk args.key "faucet account key"
  Cli.rpc (← Cli.createAndFundAccountWithFaucet keypair)
  let _ ← Cli.rpc (← Cli.readAccountInfo pubkey)

end Faucet

/-- `Path::parent`, unless that is empty. -/
def Path.directory? (path : Path) : Option Path :=
  let redundant (piece : Bytes) : Bool := piece = [] ∨ piece = [46]
  match path.bytes.splitOn 47 with
  | [] => none
  | first :: others =>
    match others.rdropWhile redundant with
    | [] => none
    | named =>
      let rest := named.dropLast.rdropWhile redundant
      some ⟨if first = [] ∧ rest = [] then [47] else List.intercalate [47] (first :: rest)⟩

namespace BuildIdl

structure Args where
  programPath : Path
  output : Path

def cargoToml : Path := ⟨utf8 "Cargo.toml"⟩

def createParent (output : Path) : Tool Unit := do
  match output.directory? with
  | none => return ()
  | some parent =>
    match ← Tool.call (.createDirAll parent) with
    | .ok () => return ()
    | .error error => throw (.idlPath "cannot create IDL output directory " parent error.message)

def run (pretty : Pretty) (args : Args) : Tool Unit := do
  if ← Tool.request (.isFile (args.programPath.join cargoToml)) then
    match ← Tool.call (.buildIdl args.programPath) with
    | .error error => throw (.cli (.idl ("IDL build failed: " ++ error)))
    | .ok idl =>
      let json ← Tool.ofExcept ((pretty idl).mapError CliError.json)
      createParent args.output
      match ← Tool.call (.writeFile args.output (utf8 json)) with
      | .ok () => return ()
      | .error error => throw (.idlPath "cannot write IDL output " args.output error.message)
  else throw (.idlPath "program directory does not contain Cargo.toml: " args.programPath "")

end BuildIdl

/-- HKDF-SHA256 and AES-256-GCM, as far as the key file determines the cipher. -/
structure MessageSuite where
  expand : (secret context : Bytes) → Option Bytes
  newFromSlice : Bytes → Option Cipher

namespace MessageCommand

structure Args where
  key : Path
  input : Option String

def keyContext : Bytes := utf8 "arch-kit/message-encryption/v1"

variable (sdk : Sdk) (suite : MessageSuite) (display : Json → String)

def loadCipher (path : Path) : Cli Cipher := do
  let (keypair, _) ← Keys.loadExistingKey sdk path "secret key"
  match suite.expand keypair.secretKey.bytes keyContext with
  | none => throw (.messageCrypto "key derivation failed")
  | some key =>
    match suite.newFromSlice key with
    | none => throw (.messageCrypto "invalid AES key length")
    | some cipher => return cipher

/-- Standard input is read only where no text is given. -/
def readInput : Option String → Tool String
  | some input => return input
  | none => do
    let reader ← Tool.call .readStdin
    Tool.ofExcept (Encryption.readInput none reader)

def writeOutput (field value : String) (json : Bool) : Tool Unit := do
  let output ← Tool.ofExcept (Encryption.writeOutput display .ok field value json)
  match ← Tool.call (.writeStdout output) with
  | .ok () => return ()
  | .error error => throw (.cli (.messageCrypto ("cannot write stdout: " ++ error)))

def runEncrypt (args : Args) (json : Bool) : Tool Unit := do
  let cipher ← Tool.ofCli (loadCipher sdk suite args.key)
  let message ← readInput args.input
  let drawn ← Tool.call .drawNonce
  let ciphertext ← Tool.ofExcept (encrypt cipher message drawn)
  writeOutput display "ciphertext" ciphertext json

def runDecrypt (args : Args) (json : Bool) : Tool Unit := do
  let cipher ← Tool.ofCli (loadCipher sdk suite args.key)
  let payload ← readInput args.input
  let message ← Tool.ofExcept (decrypt cipher payload)
  writeOutput display "message" message json

end MessageCommand

inductive Subcommand where
  | init (args : Init.Args)
  | buildIdl (args : BuildIdl.Args)
  | deploy (args : Deploy.Args)
  | keygen (args : Keygen.Args)
  | pubkey (args : PubkeyCommand.Args)
  | encrypt (args : MessageCommand.Args)
  | decrypt (args : MessageCommand.Args)
  | ata (args : Ata.Args)
  | tokenBalance (args : TokenBalance.Args)
  | tokenAccount (args : TokenAccountCommand.Args)
  | tokenAccounts (args : TokenAccounts.Args)
  | mintInfo (args : MintInfo.Args)
  | createMint (args : CreateMint.Args)
  | mintTokens (args : MintTokens.Args)
  | tokenTransfer (args : TokenTransfer.UserArgs)
  | tokenTransferToAccount (args : TokenTransfer.AccountArgs)
  | transferArch (args : TransferArch.Args)
  | archBalance (args : ArchBalance.Args)
  | faucet (args : Faucet.Args)
  | health

/-- The struct `Cli`, and the environment variables that cosigners are configured by. -/
structure CommandLine where
  rpcUrl : String
  bitcoinNetwork : BitcoinNetwork
  json : Bool
  command : Subcommand
  environment : String → Option String

/-- The libraries of all commands. How the threads of a vanity search end is a parameter. -/
structure Libraries extends ToolSdk, DeploySdk where
  codec : Codec
  templates : Init.Environment
  simpleProgramTemplate : Init.Dir
  pretty : Pretty
  messages : MessageSuite
  availableThreads : Nat
  runSearch : Vanity.VanitySearch → Cli Vanity.VanityOutcome

namespace CommandLine
variable (libraries : Libraries) (line : CommandLine)

/-- A command on the configured network. -/
def configured (next : Config → Tool Unit) : Tool Unit := do
  let config ← Tool.ofExcept (config line.rpcUrl line.bitcoinNetwork)
  next config

/-- A command that submits one transaction. -/
def submit (submission : Submission) : Tool Unit :=
  line.configured fun config => Tool.ofCommand (submission.run libraries.toToolSdk ⟨config.network, line.environment⟩)

def run : Tool Unit :=
  match line.command with
  | .init args => Init.run libraries.templates libraries.toSdk libraries.simpleProgramTemplate args
  | .buildIdl args => BuildIdl.run libraries.pretty args
  | .keygen args => Tool.ofCli (Keygen.run libraries.availableThreads libraries.runSearch args)
  | .pubkey args => PubkeyCommand.run libraries.toSdk args
  | .encrypt args => MessageCommand.runEncrypt libraries.toSdk libraries.messages libraries.display args line.json
  | .decrypt args => MessageCommand.runDecrypt libraries.toSdk libraries.messages libraries.display args line.json
  | .ata args => Ata.run libraries.toTokenSdk args
  | .tokenBalance args => line.configured fun _ => TokenBalance.run libraries.toTokenSdk libraries.pretty args line.json
  | .tokenAccount args => line.configured fun _ => TokenAccountCommand.run libraries.toTokenSdk libraries.pretty args line.json
  | .tokenAccounts args => line.configured fun _ => TokenAccounts.run libraries.toTokenSdk libraries.pretty args line.json
  | .mintInfo args => line.configured fun _ => MintInfo.run libraries.toTokenSdk libraries.pretty args line.json
  | .createMint args => line.submit libraries (.createMint args)
  | .mintTokens args => line.submit libraries (.mintTokens args)
  | .tokenTransfer args => line.submit libraries (.tokenTransfer args)
  | .tokenTransferToAccount args => line.submit libraries (.tokenTransferToAccount args)
  | .transferArch args => line.submit libraries (.transferArch args)
  | .archBalance args => line.configured fun _ => ArchBalance.run libraries.pretty args line.json
  | .faucet args => line.configured fun _ => Tool.ofCli (Faucet.run libraries.toSdk args)
  | .health => line.configured Health.run
  | .deploy args => line.configured fun config =>
    Tool.ofCli (Deploy.run ⟨libraries.toDeploySdk, libraries.codec, config.network⟩ args)

end CommandLine
end ArchKit
