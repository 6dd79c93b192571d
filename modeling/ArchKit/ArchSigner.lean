import ArchKit.Keys
import ArchKit.Radix.Base64
import ArchKit.Token

/-! Signers of a message: key files and remote cosigners. -/

namespace ArchKit
open Effects Radix

/-- What signing uses of the SDK, and the rendering of a JSON value in a text. -/
structure SigningSdk extends Sdk where
  hash : ArchMessage → Bytes
  serialize : ArchMessage → Bytes
  verifyMessageBip322 : Bytes → Pubkey → Signature → Bool → Network → Except String Unit
  display : Json → String

/-- A signature of the digest under the key, in one of the two modes. -/
def SigningSdk.Verifies (sdk : SigningSdk) (digest : Bytes) (key : Pubkey) (signature : Signature) (network : Network) :
    Prop :=
  ∃ usesSighashAll, sdk.verifyMessageBip322 digest key signature usesSighashAll network = .ok ()

/-- A signer loaded from a key file has the public key of its keypair. -/
structure LocalFileSigner (sdk : SigningSdk) where
  keypair : Keypair
  pubkey : Pubkey
  network : Network
  derived : sdk.xOnlyPublicKey keypair = pubkey

structure CosignerSigner where
  url : String
  token : String
  role : String
  intent : String
  pubkey : Pubkey
  network : Network

namespace LocalFileSigner
variable {sdk : SigningSdk} (signer : LocalFileSigner sdk)

def signMessage (message : ArchMessage) : Cli Signature := do
  Cli.rpc (← Cli.signMessageBip322 signer.keypair (sdk.hash message) signer.network)

end LocalFileSigner

namespace CosignerSigner
variable (sdk : SigningSdk) (signer : CosignerSigner)

def verifyResponse (body : Json) (message : ArchMessage) : Except CliError Signature :=
  match ((body.get "signature_hex").asStr.bind (fun value => hexDecode value.toList)).bind Signature.ofBytes? with
  | none => .error (.signer "cosigner signature_hex is missing or not 64 bytes")
  | some signature =>
    let expectedPubkey := String.ofList (hexEncode signer.pubkey.bytes)
    if (body.get "arch_account_pubkey").asStr ≠ some expectedPubkey then
      .error (.signer ("cosigner returned public key " ++ sdk.display (body.get "arch_account_pubkey") ++
        ", expected " ++ expectedPubkey))
    else
      let digest := sdk.hash message
      if (body.get "digest_hex").asStr.any (· ≠ String.ofList (hexEncode digest)) then
        .error (.signer "cosigner returned a digest for a different message")
      else
        match sdk.verifyMessageBip322 digest signer.pubkey signature false signer.network with
        | .ok () => .ok signature
        | .error _ =>
          match sdk.verifyMessageBip322 digest signer.pubkey signature true signer.network with
          | .ok () => .ok signature
          | .error error => .error (.signer ("cosigner response verification failed: " ++ error))

def signMessage (message : ArchMessage) : Cli Signature := do
  let reply ← Cli.post (signer.url ++ "/v1/sign") signer.token (.object
    [("intent_type", .string signer.intent), ("role", .string signer.role),
      ("unsigned_message_b64", .string (String.ofList (base64Encode (sdk.serialize message))))])
  match reply with
  | .error error => throw (.signer ("cosigner request failed: " ++ error))
  | .ok response =>
    match response.json with
    | .error error => throw (.signer ("invalid cosigner response: " ++ error))
    | .ok body =>
      if 200 ≤ response.status ∧ response.status < 300 then Fallible.ofExcept (signer.verifyResponse sdk body message)
      else
        let detail := ((body.get "error").asStr.or (body.get "halted").asStr).getD "no detail"
        throw (.signer s!"cosigner returned HTTP {response.status}: {detail}")

end CosignerSigner

/-- The implementations of the signer trait. -/
inductive ArchSigner (sdk : SigningSdk) where
  | localFile (signer : LocalFileSigner sdk)
  | cosigner (signer : CosignerSigner)

namespace ArchSigner
variable {sdk : SigningSdk}

def pubkey : ArchSigner sdk → Pubkey
  | .localFile signer => signer.pubkey
  | .cosigner signer => signer.pubkey

def network : ArchSigner sdk → Network
  | .localFile signer => signer.network
  | .cosigner signer => signer.network

def signMessage (message : ArchMessage) : ArchSigner sdk → Cli Signature
  | .localFile signer => signer.signMessage message
  | .cosigner signer => signer.signMessage sdk message

end ArchSigner

/-- Where a command is started: the configured network and the environment variables. -/
structure Shell where
  network : Network
  environment : String → Option String

/-- A signer selected from a local key file or the environment of a cosigner. -/
inductive SignerSource where
  | file (path : Path)
  | cosigner (envPrefix : String)
  deriving DecidableEq

variable (sdk : SigningSdk)

def LocalFileSigner.fromFile (path : Path) (network : Network) (label : String) : Cli (LocalFileSigner sdk) := do
  -- the second component is the public key of the first
  let (keypair, _) ← Keys.loadExistingKey sdk.toSdk path label
  return ⟨keypair, sdk.xOnlyPublicKey keypair, network, rfl⟩

/-- The closure `read` of `from_env`. -/
def CosignerSigner.readVariable (environment : String → Option String) (name : String) : Except CliError String :=
  match (environment name).filter (· ≠ "") with
  | some value => .ok value
  | none => .error (.signer ("missing " ++ name))

def CosignerSigner.fromEnv (environment : String → Option String) (envPrefix : String) (network : Network)
    (intent : String) : Except CliError CosignerSigner := do
  let url ← readVariable environment (envPrefix ++ "_COSIGNER_URL")
  let token ← readVariable environment (envPrefix ++ "_COSIGNER_TOKEN")
  let role ← readVariable environment (envPrefix ++ "_COSIGNER_ROLE")
  let pubkeyHex ← readVariable environment (envPrefix ++ "_COSIGNER_PUBKEY")
  match (hexDecode pubkeyHex.toList).bind Pubkey.ofBytes? with
  | some pubkey => return ⟨String.ofList (url.toList.rdropWhile (· = '/')), token, role, intent, pubkey, network⟩
  | none => .error (.signer (envPrefix ++ "_COSIGNER_PUBKEY must contain exactly 64 hexadecimal characters"))

def SignerSource.resolve (shell : Shell) (intent label : String) : SignerSource → Cli (ArchSigner sdk)
  | .file path => do
    let signer ← LocalFileSigner.fromFile sdk path shell.network label
    return .localFile signer
  | .cosigner envPrefix => do
    let signer ← Fallible.ofExcept (CosignerSigner.fromEnv shell.environment envPrefix shell.network intent)
    return .cosigner signer

end ArchKit
