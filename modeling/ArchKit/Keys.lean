import ArchKit.Error
import ArchKit.Text

/-! Key files: one line with the secret in hexadecimal, or a JSON array of bytes. -/

namespace ArchKit
open Effects Radix Text

/-- The bytes of a string. -/
def utf8 (text : String) : Bytes := text.toByteArray.data.toList

/-- `String::from_utf8`. -/
def fromUtf8? (bytes : Bytes) : Option String := String.fromUTF8? ⟨bytes.toArray⟩

theorem fromUtf8?_eq_some {bytes : Bytes} {text : String} : fromUtf8? bytes = some text ↔ bytes = utf8 text := by
  unfold fromUtf8? String.fromUTF8? utf8
  constructor
  · intro decoded
    split at decoded
    next valid => cases decoded; rfl
    next => cases decoded
  · intro same
    subst same
    exact dif_pos text.isValidUTF8

/-- `SecretKey::from_slice`. -/
def SecretKey.fromSlice? (bytes : Bytes) : Option SecretKey :=
  if valid : ValidScalar bytes then some ⟨bytes, valid⟩ else none

namespace Keys
variable (sdk : Sdk)

def secretKeySize : Nat := 32

def parseSecretKey (contents : String) : Except IoError SecretKey :=
  match (hexDecode (trim contents.toList)).bind SecretKey.fromSlice? with
  | some secretKey => .ok secretKey
  | none =>
    match sdk.bytesFromJson contents with
    | .error _ => .error ⟨.invalidData, "file content is neither a valid secret key string nor a JSON byte array"⟩
    | .ok secretBytes =>
      if secretBytes.length < secretKeySize then
        .error ⟨.invalidData, s!"secret key byte array is too short: expected at least {secretKeySize}, got {secretBytes.length}"⟩
      else
        match SecretKey.fromSlice? (secretBytes.take secretKeySize) with
        | some secretKey => .ok secretKey
        | none => .error ⟨.invalidData, "the first 32 bytes are not a valid secp256k1 secret key"⟩

def loadExistingKey (path : Path) (label : String) : Cli (Keypair × Pubkey) := do
  if ← Cli.isFile path then
    match ← Cli.read path with
    | .error source => throw (.loadKey label path source)
    | .ok bytes =>
      match fromUtf8? bytes with
      | none => throw (.loadKey label path ⟨.invalidData, "stream did not contain valid UTF-8"⟩)
      | some contents =>
        match parseSecretKey sdk contents with
        | .error source => throw (.loadKey label path source)
        | .ok secretKey =>
          let keypair : Keypair := ⟨secretKey⟩
          return (keypair, sdk.xOnlyPublicKey keypair)
  else throw (.inputNotFile label path)

/-- `Write::write_all`: a write may take a part of the buffer, and an interrupted one is
repeated by the operating system. -/
def writeAll (fail : IoError → CliError) (file : File) : Bytes → Cli Unit
  | [] => pure ()
  | byte :: rest => do
    match ← Cli.write file (byte :: rest) with
    | .error source => throw (fail source)
    | .ok 0 => throw (fail ⟨.writeZero, "failed to write whole buffer"⟩)
    | .ok (count + 1) => writeAll fail file (rest.drop count)
termination_by buffer => buffer.length
decreasing_by
  simp only [List.length_drop, List.length_cons]
  omega

def encodedSecret (keypair : Keypair) : String := String.ofList (hexEncode keypair.secretKey.bytes)

def persistKeyFile (path : Path) (label : String) (keypair : Keypair) : Cli Unit := do
  match ← Cli.createNew path with
  | .error source => throw (.createKey label path source)
  | .ok file =>
    writeAll (.createKey label path) file (utf8 (encodedSecret keypair))
    writeAll (.createKey label path) file (utf8 "\n")
    match ← Cli.syncAll file with
    | .error source => throw (.createKey label path source)
    | .ok () => pure ()

def generateKeyFile (path : Path) (label : String) (network : Network) : Cli (Keypair × Pubkey) := do
  let (keypair, pubkey) ← Cli.generateNewKeypair network
  persistKeyFile path label keypair
  return (keypair, pubkey)

def loadOrGenerateKey (path : Path) (label : String) (network : Network) (generateIfMissing : Bool) :
    Cli (Keypair × Pubkey × Bool) := do
  if generateIfMissing then
    match ← Cli.symlinkMetadata path with
    | .ok () =>
      let (keypair, pubkey) ← loadExistingKey sdk path label
      return (keypair, pubkey, false)
    | .error source =>
      if source.kind = .notFound then
        let (keypair, pubkey) ← generateKeyFile path label network
        return (keypair, pubkey, true)
      else throw (.loadKey label path source)
  else
    let (keypair, pubkey) ← loadExistingKey sdk path label
    return (keypair, pubkey, false)

end Keys
end ArchKit
