import ArchKit.Encryption

/-! Encryption and decryption are inverse, down to the spelling of the payload. -/

namespace ArchKit
open Effects Radix Text

namespace Encryption

theorem base64_solid (bytes : Bytes) : ∀ letter ∈ base64Encode bytes, isWhitespace letter = false := by
  have digits : ∀ digit < 64, isWhitespace (base64Letter digit) = false := by decide +kernel
  intro letter member
  rcases base64Encode_letters bytes letter member with ⟨digit, small, rfl⟩ | padding
  · exact digits digit small
  · rw [padding]; rfl

variable {cipher : Cipher}

/-- Decryption accepts a text exactly when it is an encryption of the message, for the
nonce the text carries. -/
theorem decrypt_eq_ok (lawful : cipher.Lawful) {text message : String} : decrypt cipher text = .ok message ↔
    ∃ nonce ciphertext, cipher.encrypt nonce (utf8 message) [version] = some ciphertext ∧
      base64Decode (trim text.toList) = some (version :: (nonce.bytes ++ ciphertext)) := by
  unfold decrypt
  constructor
  · intro decrypted
    split at decrypted
    next => cases decrypted
    next payload decoded =>
    split at decrypted
    next long =>
      split at decrypted
      next => cases decrypted
      next current =>
      obtain ⟨rest, shape⟩ := List.head?_eq_some_iff.mp (not_not.mp current)
      subst shape
      dsimp only at decrypted
      split at decrypted
      next => cases decrypted
      next plaintext opened =>
      split at decrypted
      next => cases decrypted
      next read =>
        cases decrypted
        rw [fromUtf8?_eq_some.mp read] at opened
        refine ⟨_, _, (lawful.decrypt_iff _ _ _ _).mp opened, ?_⟩
        rw [decoded]
        exact congrArg (fun bytes => some (version :: bytes)) (List.take_append_drop nonceSize rest).symm
    next => cases decrypted
  · intro encrypted
    obtain ⟨nonce, ciphertext, sealed, decoded⟩ := encrypted
    have size := lawful.tagged _ _ _ _ sealed
    have opened := (lawful.decrypt_iff _ _ _ _).mpr sealed
    have first : (nonce.bytes ++ ciphertext).take nonceSize = nonce.bytes := by rw [← nonce.size, List.take_left]
    have last : (nonce.bytes ++ ciphertext).drop nonceSize = ciphertext := by rw [← nonce.size, List.drop_left]
    have long : 1 + nonceSize + tagSize ≤ (version :: (nonce.bytes ++ ciphertext)).length := by
      simp only [List.length_cons, List.length_append, nonce.size, size]
      omega
    rw [decoded]
    simp only [dif_pos long]
    rw [if_neg (by simp)]
    simp only [Nat.add_comm 1, List.drop_succ_cons, List.drop_zero, List.take_succ_cons, List.take_zero, first, last]
    rw [opened]
    simp only [fromUtf8?_eq_some.mpr rfl]

theorem encryptWithNonce_eq_ok {message encoded : String} {nonce : Nonce} :
    encryptWithNonce cipher message nonce = .ok encoded ↔ ∃ ciphertext,
      cipher.encrypt nonce (utf8 message) [version] = some ciphertext ∧
      encoded.toList = base64Encode (version :: (nonce.bytes ++ ciphertext)) := by
  unfold encryptWithNonce
  cases cipher.encrypt nonce (utf8 message) [version] with
  | none => simp
  | some ciphertext =>
    simp only [Except.ok.injEq, Option.some.injEq, exists_eq_left']
    rw [← String.toList_inj, String.toList_ofList, eq_comm]

theorem decrypt_surrounded (lawful : cipher.Lawful) {message encoded before after : String} {nonce : Nonce}
    (sealed : encryptWithNonce cipher message nonce = .ok encoded) (leading : ∀ letter ∈ before.toList, isWhitespace letter)
    (trailing : ∀ letter ∈ after.toList, isWhitespace letter) :
    decrypt cipher (before ++ encoded ++ after) = .ok message := by
  obtain ⟨ciphertext, encrypted, spelled⟩ := encryptWithNonce_eq_ok.mp sealed
  refine (decrypt_eq_ok lawful).mpr ⟨nonce, ciphertext, encrypted, ?_⟩
  rw [String.toList_append, String.toList_append, trim_surround _ leading trailing, spelled, trim_eq_self (base64_solid _),
    base64Decode_encode]

/-- Plain output of the ciphertext, and decryption of what was written. -/
theorem runDecrypt_runEncrypt (display : Json → String) (lawful : cipher.Lawful) {message encoded : String} {nonce : Nonce}
    (sealed : encryptWithNonce cipher message nonce = .ok encoded) {input : Option String} {stdin : Except String Bytes}
    (given : readInput input stdin = .ok message) :
    (runEncrypt display Except.ok cipher input stdin (.ok nonce) false >>= fun output =>
      runDecrypt display Except.ok cipher none (.ok output) false) = .ok (utf8 message) := by
  have written : runEncrypt display Except.ok cipher input stdin (.ok nonce) false = .ok (utf8 (encoded ++ "\n")) :=
    bind_eq_ok.mpr ⟨message, given, bind_eq_ok.mpr ⟨encoded, sealed, rfl⟩⟩
  have read : readInput none (.ok (utf8 (encoded ++ "\n"))) = .ok (encoded ++ "\n") := by
    simp only [readInput, fromUtf8?_eq_some.mpr rfl]
  have opened : decrypt cipher (encoded ++ "\n") = .ok message := by
    have surrounded := decrypt_surrounded lawful sealed (List.all_eq_true.mp (show "".toList.all isWhitespace by decide))
      (List.all_eq_true.mp (show "\n".toList.all isWhitespace by decide))
    rwa [String.empty_append] at surrounded
  exact bind_eq_ok.mpr ⟨_, written, bind_eq_ok.mpr ⟨_, read, bind_eq_ok.mpr ⟨message, opened, rfl⟩⟩⟩

/-- Every message comes back from its encryption, and every text that decrypts is the
encryption of the message. -/
theorem envelope_bijective (display : Json → String) (cipher : Cipher) (lawful : cipher.Lawful) :
    (∀ message nonce encoded, encryptWithNonce cipher message nonce = .ok encoded →
      (∀ before after : String, (∀ letter ∈ before.toList, isWhitespace letter) →
        (∀ letter ∈ after.toList, isWhitespace letter) → decrypt cipher (before ++ encoded ++ after) = .ok message) ∧
      ∀ input stdin, readInput input stdin = .ok message →
        (runEncrypt display Except.ok cipher input stdin (.ok nonce) false >>= fun output =>
          runDecrypt display Except.ok cipher none (.ok output) false) = .ok (utf8 message)) ∧
    ∀ text message, decrypt cipher text = .ok message → ∃ nonce payload,
      base64Decode (trim text.toList) = some payload ∧ nonce.bytes = (payload.drop 1).take nonceSize ∧
      encryptWithNonce cipher message nonce = .ok (String.ofList (trim text.toList)) := by
  refine ⟨?_, ?_⟩
  · intro message nonce encoded sealed
    constructor
    · exact fun before after leading trailing => decrypt_surrounded lawful sealed leading trailing
    · exact fun input stdin given => runDecrypt_runEncrypt display lawful sealed given
  · intro text message decrypted
    obtain ⟨nonce, ciphertext, sealed, decoded⟩ := (decrypt_eq_ok lawful).mp decrypted
    refine ⟨nonce, _, decoded, ?_, ?_⟩
    · rw [List.drop_succ_cons, List.drop_zero, ← nonce.size, List.take_left]
    · refine encryptWithNonce_eq_ok.mpr ⟨ciphertext, sealed, ?_⟩
      rw [String.toList_ofList, base64Encode_of_decode decoded]

namespace Example

/-- The nonce, the message and the ciphertext of an independent implementation. -/
def nonce : Nonce := ⟨[0, 1, 2, 3, 4, 5, 6, 7, 8, 9, 10, 11], rfl⟩

def message : String := "Hello, Arch!\n"

def ciphertext : Bytes :=
  [0xc6, 0x6c, 0xd7, 0x12, 0x27, 0xc2, 0x83, 0xad, 0xb7, 0x3c, 0xba, 0x9f, 0x0a, 0x64, 0x44,
   0x17, 0x67, 0xc6, 0xd8, 0x3d, 0x0a, 0x8c, 0x25, 0xea, 0x48, 0xef, 0x6c, 0xae, 0x67]

/-- The cipher at these values. -/
def aes : Cipher where
  encrypt drawn plaintext aad :=
    if drawn.bytes = nonce.bytes ∧ plaintext = utf8 message ∧ aad = [version] then some ciphertext else none
  decrypt drawn sealed aad :=
    if drawn.bytes = nonce.bytes ∧ sealed = ciphertext ∧ aad = [version] then some (utf8 message) else none

theorem lawful : aes.Lawful where
  decrypt_iff drawn sealed plaintext aad := by
    simp only [aes]
    rw [Option.ite_none_right_eq_some, Option.ite_none_right_eq_some]
    constructor
    · intro opened
      obtain ⟨⟨own, whole, context⟩, text⟩ := opened
      exact ⟨⟨own, (Option.some.inj text).symm, context⟩, congrArg some whole.symm⟩
    · intro encrypted
      obtain ⟨⟨own, text, context⟩, whole⟩ := encrypted
      exact ⟨⟨own, (Option.some.inj whole).symm, context⟩, congrArg some text.symm⟩
  tagged drawn plaintext aad sealed encrypted := by
    simp only [aes] at encrypted
    split at encrypted
    next same =>
      cases encrypted
      rw [same.2.1]
      decide +kernel
    next => cases encrypted

end Example

open Example in
theorem envelope_bijective_fixture :
    decrypt aes " \nAQABAgMEBQYHCAkKC8Zs1xInwoOttzy6nwpkRBdnxtg9Cowl6kjvbK5n\r\n" = .ok message := by
  have sealed : encryptWithNonce aes message nonce = .ok "AQABAgMEBQYHCAkKC8Zs1xInwoOttzy6nwpkRBdnxtg9Cowl6kjvbK5n" := by
    decide +kernel
  exact ((envelope_bijective (fun _ => "null") aes Example.lawful).1 message nonce _ sealed).1 " \n" "\r\n"
    (List.all_eq_true.mp (by decide)) (List.all_eq_true.mp (by decide))

end Encryption
end ArchKit
