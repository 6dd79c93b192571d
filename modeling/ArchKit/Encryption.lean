import ArchKit.Keys
import ArchKit.Radix.Base64

/-! The message envelope: Base64 of a version byte, a nonce and the encrypted message.
The version byte is authenticated together with the message. -/

namespace ArchKit
open Radix Text

namespace Encryption

def version : UInt8 := 1
def nonceSize : Nat := 12
def tagSize : Nat := 16

structure Nonce where
  bytes : Bytes
  size : bytes.length = nonceSize

/-- AES-256-GCM under one key: nonce, message or ciphertext, associated data. -/
structure Cipher where
  encrypt : Nonce → Bytes → Bytes → Option Bytes
  decrypt : Nonce → Bytes → Bytes → Option Bytes

/-- Exactly the encryptions decrypt, and an encryption is longer by its tag. -/
structure Cipher.Lawful (cipher : Cipher) : Prop where
  decrypt_iff : ∀ nonce ciphertext message aad,
    cipher.decrypt nonce ciphertext aad = some message ↔ cipher.encrypt nonce message aad = some ciphertext
  tagged : ∀ nonce message aad ciphertext,
    cipher.encrypt nonce message aad = some ciphertext → ciphertext.length = message.length + tagSize

def encryptWithNonce (cipher : Cipher) (message : String) (nonce : Nonce) : Except CliError String :=
  match cipher.encrypt nonce (utf8 message) [version] with
  | none => .error (.messageCrypto "encryption failed")
  | some ciphertext => .ok (String.ofList (base64Encode (version :: (nonce.bytes ++ ciphertext))))

/-- The draw of a nonce fails where the operating system has no randomness. -/
def encrypt (cipher : Cipher) (message : String) (drawn : Except String Nonce) : Except CliError String :=
  match drawn with
  | .error error => .error (.messageCrypto ("OS randomness unavailable: " ++ error))
  | .ok nonce => encryptWithNonce cipher message nonce

def decrypt (cipher : Cipher) (encoded : String) : Except CliError String :=
  match base64Decode (trim encoded.toList) with
  | none => .error (.messageCrypto "invalid Base64 payload")
  | some payload =>
    if long : 1 + nonceSize + tagSize ≤ payload.length then
      if payload.head? ≠ some version then .error (.messageCrypto "unsupported payload version")
      else
        let nonce : Nonce := ⟨(payload.drop 1).take nonceSize, by simp [nonceSize, tagSize] at long ⊢; omega⟩
        match cipher.decrypt nonce (payload.drop (1 + nonceSize)) (payload.take 1) with
        | none => .error (.messageCrypto "authentication failed: wrong key or modified payload")
        | some plaintext =>
          match fromUtf8? plaintext with
          | none => .error (.messageCrypto "decrypted message is not valid UTF-8")
          | some message => .ok message
    else .error (.messageCrypto "truncated payload")

/-- The reader stands for everything that is read from it before its end or an error. -/
def readInput (input : Option String) (reader : Except String Bytes) : Except CliError String :=
  match input with
  | some input => .ok input
  | none =>
    match reader with
    | .error error => .error (.messageCrypto ("cannot read UTF-8 from stdin: " ++ error))
    | .ok bytes =>
      match fromUtf8? bytes with
      | none => .error (.messageCrypto "cannot read UTF-8 from stdin: stream did not contain valid UTF-8")
      | some input => .ok input

section Output
variable {σ : Type} (display : Json → String) (writer : Bytes → Except String σ)

def writeOutput (field value : String) (json : Bool) : Except CliError σ :=
  let output :=
    if json then display (.object [(field, .string value)]) ++ "\n"
    else if field = "ciphertext" then value ++ "\n"
    else value
  (writer (utf8 output)).mapError fun error => .messageCrypto ("cannot write stdout: " ++ error)

def runEncrypt (cipher : Cipher) (input : Option String) (stdin : Except String Bytes) (drawn : Except String Nonce)
    (json : Bool) : Except CliError σ := do
  let message ← readInput input stdin
  let ciphertext ← encrypt cipher message drawn
  writeOutput display writer "ciphertext" ciphertext json

def runDecrypt (cipher : Cipher) (input : Option String) (stdin : Except String Bytes) (json : Bool) : Except CliError σ := do
  let payload ← readInput input stdin
  let message ← decrypt cipher payload
  writeOutput display writer "message" message json

end Output
end Encryption
end ArchKit
