import ArchKit.Sdk

namespace ArchKit
open Effects

inductive CliError where
  | invalidArgument (message : String)
  /-- `InvalidArgument` with a message that ends in the `display` of a path. -/
  | invalidPath (message : String) (path : Path)
  | inputNotFile (label : String) (path : Path)
  | nonUtf8Path (label : String) (path : Path)
  | readInput (label : String) (path : Path) (source : IoError)
  | loadKey (label : String) (path : Path) (source : IoError)
  | createKey (label : String) (path : Path) (source : IoError)
  | messageCrypto (message : String)
  | signer (message : String)
  | invalidIdl (message : String)
  | idlSizeTooSmall (requested required : Nat)
  | idlPayloadTooLarge (bytes : Nat)
  | programDeploy (message : String)
  | vanitySearch (message : String)
  | tokenProgramOwnerMismatch (address expected actual : String)
  | invalidTokenAccount (address detail : String)
  | invalidTokenMint (address detail : String)
  | tokenTransfer (message : String)
  | mintCreation (message : String)
  | mintTokens (message : String)
  | archRpc (error : ArchError)
  | json (message : String)
  | idl (message : String)
  | transactionFailed (action status : String)
  | idlAfterDeployment (programBase58 programHex : String) (source : CliError)
  deriving DecidableEq

/-- A command of the toolkit: requests to the outside world, stopped by `?`. -/
abbrev Cli (α : Type) := Fallible api CliError α

namespace Cli

def readAccountInfo (address : Pubkey) : Cli (Except ArchError AccountInfo) :=
  Fallible.perform (I := api) (.readAccountInfo address)

def getProgramAccounts (program : Pubkey) (filters : Option (List AccountFilter)) : Cli (Except ArchError (List ProgramAccount)) :=
  Fallible.perform (I := api) (.getProgramAccounts program filters)

def getMultipleAccounts (addresses : List Pubkey) : Cli (Except ArchError (List (Option AccountInfoWithPubkey))) :=
  Fallible.perform (I := api) (.getMultipleAccounts addresses)

def getBestFinalizedBlockHash : Cli (Except ArchError Hash) :=
  Fallible.perform (I := api) .getBestFinalizedBlockHash

def sendTransaction (transaction : RuntimeTransaction) : Cli (Except ArchError Hash) :=
  Fallible.perform (I := api) (.sendTransaction transaction)

def waitForProcessedTransaction (id : Hash) : Cli (Except ArchError ProcessedTransaction) :=
  Fallible.perform (I := api) (.waitForProcessedTransaction id)

def createAndFundAccountWithFaucet (keypair : Keypair) : Cli (Except ArchError Unit) :=
  Fallible.perform (I := api) (.createAndFundAccountWithFaucet keypair)

def tryDeployProgram (name : String) (program authority : Keypair) (elfPath : String) : Cli (Except String Pubkey) :=
  Fallible.perform (I := api) (.tryDeployProgram name program authority elfPath)

def generateNewKeypair (network : Network) : Cli (Keypair × Pubkey) :=
  Fallible.perform (I := api) (.generateNewKeypair network)

def signMessageBip322 (keypair : Keypair) (digest : Bytes) (network : Network) : Cli (Except ArchError Signature) :=
  Fallible.perform (I := api) (.signMessageBip322 keypair digest network)

def post (url token : String) (body : Json) : Cli (Except String HttpResponse) :=
  Fallible.perform (I := api) (.post url token body)

def isFile (path : Path) : Cli Bool := Fallible.perform (I := api) (.isFile path)

def read (path : Path) : Cli (Except IoError Bytes) := Fallible.perform (I := api) (.read path)

def symlinkMetadata (path : Path) : Cli (Except IoError Unit) := Fallible.perform (I := api) (.symlinkMetadata path)

def createNew (path : Path) : Cli (Except IoError File) := Fallible.perform (I := api) (.createNew path)

def write (file : File) (buffer : Bytes) : Cli (Except IoError Nat) := Fallible.perform (I := api) (.write file buffer)

def syncAll (file : File) : Cli (Except IoError Unit) := Fallible.perform (I := api) (.syncAll file)

/-- `?` on an RPC result. -/
def rpc {α : Type} : Except ArchError α → Cli α
  | .ok value => pure value
  | .error error => throw (.archRpc error)

end Cli
end ArchKit
