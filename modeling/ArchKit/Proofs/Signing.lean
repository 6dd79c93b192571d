import ArchKit.Reference
import ArchKit.Transaction
import Mathlib.Data.List.Forall2

/-! Signatures stand in the order of the required keys, and each was checked for its
key or made with it. -/

namespace ArchKit
open Effects Radix

section Laws
variable {sdk : SigningSdk} {δ : Type} {server : Server api δ} {message : ArchMessage}

theorem Signature.ofBytes?_eq_some {bytes : Bytes} {signature : Signature} (read : ofBytes? bytes = some signature) :
    bytes = signature.bytes := by
  unfold ofBytes? at read
  split at read
  next => cases read; rfl
  next => cases read

/-- Signatures made on this machine verify for the key they were made with. -/
def SigningSdk.Genuine (sdk : SigningSdk) (server : Server api δ) : Prop :=
  ∀ before after keypair digest network signature,
    server before (.signMessageBip322 keypair digest network) (.ok signature) after →
    sdk.Verifies digest (sdk.xOnlyPublicKey keypair) signature network

/-- An answer that is accepted was spelled in the response, for the right key and the
right message, and verifies. -/
theorem CosignerSigner.verifyResponse_ok {signer : CosignerSigner} {body : Json} {signature : Signature}
    (accepted : signer.verifyResponse sdk body message = .ok signature) :
    ((body.get "signature_hex").asStr.bind (fun value => hexDecode value.toList)) = some signature.bytes ∧
    (body.get "arch_account_pubkey").asStr = some (String.ofList (hexEncode signer.pubkey.bytes)) ∧
    (∀ reported, (body.get "digest_hex").asStr = some reported → reported = String.ofList (hexEncode (sdk.hash message))) ∧
    sdk.Verifies (sdk.hash message) signer.pubkey signature signer.network := by
  unfold verifyResponse at accepted
  split at accepted
  next => cases accepted
  next spelled decoded =>
  obtain ⟨bytes, read, size⟩ := Option.bind_eq_some_iff.mp decoded
  dsimp only at accepted
  split at accepted
  next => cases accepted
  next ownKey =>
  split at accepted
  next => cases accepted
  next ownDigest =>
  have reported : ∀ reported, (body.get "digest_hex").asStr = some reported →
      reported = String.ofList (hexEncode (sdk.hash message)) := by
    intro reported found
    simpa [found] using ownDigest
  split at accepted
  next verified =>
    cases accepted
    exact ⟨Signature.ofBytes?_eq_some size ▸ read, not_not.mp ownKey, reported, false, verified⟩
  next =>
    split at accepted
    next verified =>
      cases accepted
      exact ⟨Signature.ofBytes?_eq_some size ▸ read, not_not.mp ownKey, reported, true, verified⟩
    next => cases accepted

namespace ArchSigner

/-- Whatever a signer returns verifies for its key. -/
theorem signMessage_ensures (genuine : sdk.Genuine server) (signer : ArchSigner sdk) (state : δ) :
    Fallible.Ensures server (signer.signMessage message)
      (fun outcome _ => ∀ signature, outcome = .ok signature →
        sdk.Verifies (sdk.hash message) signer.pubkey signature signer.network) state := by
  cases signer with
  | localFile signer =>
    apply (Fallible.ensures_perform_bind (I := api) (.signMessageBip322 signer.keypair (sdk.hash message) signer.network)).mpr
    intro reply after served
    cases reply with
    | error error => intro signature returned; cases returned
    | ok made =>
      intro signature returned
      cases returned
      have verified := genuine _ _ _ _ _ _ served
      rw [signer.derived] at verified
      exact verified
  | cosigner signer =>
    apply (Fallible.ensures_perform_bind (I := api) (.post (signer.url ++ "/v1/sign") signer.token _)).mpr
    intro reply after _
    cases reply with
    | error error => intro signature returned; cases returned
    | ok response =>
      dsimp only
      cases response.json with
      | error error => intro signature returned; cases returned
      | ok body =>
        dsimp only
        split
        next =>
          intro signature returned
          exact (CosignerSigner.verifyResponse_ok returned).2.2.2
        next => intro signature returned; cases returned

end ArchSigner

namespace Transaction

/-- The signature verifies for the key, over the message, as one of the signers. -/
def Signs (sdk : SigningSdk) (message : ArchMessage) (signers : List (ArchSigner sdk)) (key : Pubkey)
    (signature : Signature) : Prop :=
  ∃ signer ∈ signers, signer.pubkey = key ∧ sdk.Verifies (sdk.hash message) key signature signer.network

theorem signAll_ensures (genuine : sdk.Genuine server) (signers : List (ArchSigner sdk)) (keys : List Pubkey) (state : δ) :
    Fallible.Ensures server (signAll message signers keys)
      (fun outcome _ => ∀ signatures, outcome = .ok signatures →
        List.Forall₂ (Signs sdk message signers) keys signatures) state := by
  induction keys generalizing state with
  | nil =>
    intro signatures returned
    cases returned
    exact .nil
  | cons key keys ih =>
    unfold signAll
    split
    next => intro signatures returned; cases returned
    next signer found =>
      rw [Fallible.ensures_bind]
      apply (signer.signMessage_ensures genuine state).mono
      intro outcome after verified
      cases outcome with
      | error error => intro signatures returned; cases returned
      | ok signature =>
        dsimp only
        rw [Fallible.ensures_bind]
        apply (ih after).mono
        intro outcome last rest
        cases outcome with
        | error error => intro signatures returned; cases returned
        | ok signatures =>
          intro all returned
          cases returned
          have own : signer.pubkey = key := by simpa using List.find?_some found
          refine .cons ⟨signer, List.mem_of_find?_eq_some found, own, ?_⟩ (rest signatures rfl)
          rw [← own]
          exact verified signature rfl

/-- What the loop returns when every signer always gives the same answer. -/
def collect (signers : List (ArchSigner sdk)) (answer : ArchSigner sdk → Except CliError Signature) :
    List Pubkey → Except CliError (List Signature)
  | [] => .ok []
  | key :: keys =>
    match signers.find? (fun signer => signer.pubkey = key) with
    | none => .error (.signer s!"no signer configured for {key}")
    | some signer =>
      match answer signer with
      | .error error => .error error
      | .ok signature => (collect signers answer keys).map (signature :: ·)

variable {signers others : List (ArchSigner sdk)} {answer : ArchSigner sdk → Except CliError Signature}

/-- Every signer of a list has one answer to the message. -/
def Fixed (server : Server api δ) (message : ArchMessage) (signers : List (ArchSigner sdk))
    (answer : ArchSigner sdk → Except CliError Signature) : Prop :=
  ∀ signer ∈ signers, ∀ before outcome after,
    Fallible.Executes server (signer.signMessage message) before outcome after → outcome = answer signer

theorem signAll_collect (fixed : Fixed server message signers answer) (keys : List Pubkey) (state : δ) :
    Fallible.Ensures server (signAll message signers keys) (fun outcome _ => outcome = collect signers answer keys) state := by
  induction keys generalizing state with
  | nil => exact Eq.refl (Except.ok [])
  | cons key keys ih =>
    unfold signAll collect
    cases found : signers.find? (fun signer => signer.pubkey = key) with
    | none => exact Eq.refl (Except.error _)
    | some signer =>
      dsimp only
      rw [Fallible.ensures_bind]
      apply (Fallible.ensures_iff.mpr (fixed signer (List.mem_of_find?_eq_some found) state)).mono
      intro outcome after same
      rw [← same]
      cases outcome with
      | error error => exact Eq.refl (Except.error _)
      | ok signature =>
        dsimp only
        rw [Fallible.ensures_bind]
        apply (ih after).mono
        intro outcome last rest
        rw [← rest]
        cases outcome <;> rfl

/-- With distinct keys the signer found for a key is the only one with it. -/
theorem find?_eq_some_iff (distinct : (signers.map ArchSigner.pubkey).Nodup) {key : Pubkey} {signer : ArchSigner sdk} :
    signers.find? (fun signer => signer.pubkey = key) = some signer ↔ signer ∈ signers ∧ signer.pubkey = key := by
  constructor
  · intro found
    exact ⟨List.mem_of_find?_eq_some found, by simpa using List.find?_some found⟩
  · intro present
    obtain ⟨member, own⟩ := present
    cases found : signers.find? (fun signer => signer.pubkey = key) with
    | none => exact absurd own (by simpa using List.find?_eq_none.mp found signer member)
    | some other =>
      have same : other.pubkey = key := by simpa using List.find?_some found
      rw [List.inj_on_of_nodup_map distinct (List.mem_of_find?_eq_some found) member (same.trans own.symm)]

/-- Only the signers of the required keys matter, in any order. -/
theorem collect_congr (distinct : (signers.map ArchSigner.pubkey).Nodup) (alsoDistinct : (others.map ArchSigner.pubkey).Nodup)
    {keys : List Pubkey} (agree : ∀ signer, signer.pubkey ∈ keys → (signer ∈ signers ↔ signer ∈ others)) :
    collect signers answer keys = collect others answer keys := by
  induction keys with
  | nil => rfl
  | cons key keys ih =>
    have found : signers.find? (fun signer => signer.pubkey = key) = others.find? (fun signer => signer.pubkey = key) := by
      ext signer
      rw [find?_eq_some_iff distinct, find?_eq_some_iff alsoDistinct]
      refine and_congr_left fun own => agree signer ?_
      rw [own]
      exact List.mem_cons_self
    have rest := ih (fun signer member => agree signer (List.mem_cons_of_mem _ member))
    rw [collect, collect, found, rest]

theorem signTransaction_ensures (genuine : sdk.Genuine server) (signers : List (ArchSigner sdk)) (before : δ) :
    Fallible.Ensures server (signTransaction message signers) (fun outcome _ =>
      ∀ transaction, outcome = .ok transaction → transaction.message = message ∧
        List.Forall₂ (Signs sdk message signers) (message.accountKeys.take message.numRequiredSignatures)
          transaction.signatures) before := by
  unfold signTransaction
  rw [Fallible.ensures_bind]
  apply (signAll_ensures genuine signers _ before).mono
  intro outcome after matched
  cases outcome with
  | error error => intro transaction returned; cases returned
  | ok signatures =>
    intro transaction returned
    cases returned
    exact ⟨rfl, matched signatures rfl⟩

theorem signTransaction_collect (fixed : Fixed server message signers answer) (before : δ) :
    Fallible.Ensures server (signTransaction message signers) (fun outcome _ =>
      outcome = (collect signers answer (message.accountKeys.take message.numRequiredSignatures)).map
        (fun signatures => ⟨0, signatures, message⟩)) before := by
  unfold signTransaction
  rw [Fallible.ensures_bind]
  apply (signAll_collect fixed _ before).mono
  intro outcome after same
  rw [← same]
  cases outcome <;> rfl

/-- A transaction carries one verified signature for each required key, in the order of
the keys, whatever the cosigners answered, and does not depend on how the signers are listed. -/
theorem signTransaction_positional (message : ArchMessage) (signers : List (ArchSigner sdk))
    (enough : message.numRequiredSignatures ≤ message.accountKeys.length) (genuine : sdk.Genuine server) :
    (∀ before transaction after, Fallible.Executes server (signTransaction message signers) before (.ok transaction) after →
      transaction.message = message ∧ transaction.signatures.length = message.numRequiredSignatures ∧
      List.Forall₂ (Signs sdk message signers) (message.accountKeys.take message.numRequiredSignatures)
        transaction.signatures) ∧
    ((∃ key ∈ message.accountKeys.take message.numRequiredSignatures, ∀ signer ∈ signers, signer.pubkey ≠ key) →
      ∀ before outcome after, Fallible.Executes server (signTransaction message signers) before outcome after →
        ∃ error, outcome = .error error) ∧
    ∀ (others : List (ArchSigner sdk)) (answer : ArchSigner sdk → Except CliError Signature),
      (signers.map ArchSigner.pubkey).Nodup → (others.map ArchSigner.pubkey).Nodup →
      (∀ signer, signer.pubkey ∈ message.accountKeys.take message.numRequiredSignatures →
        (signer ∈ signers ↔ signer ∈ others)) →
      Fixed server message signers answer → Fixed server message others answer →
      ∀ before outcome after otherBefore otherOutcome otherAfter,
        Fallible.Executes server (signTransaction message signers) before outcome after →
        Fallible.Executes server (signTransaction message others) otherBefore otherOutcome otherAfter →
        outcome = otherOutcome := by
  refine ⟨?_, ?_, ?_⟩
  · intro before transaction after executed
    obtain ⟨same, matched⟩ := Fallible.ensures_iff.mp (signTransaction_ensures genuine signers before) _ _ executed transaction rfl
    refine ⟨same, ?_, matched⟩
    rw [← matched.length_eq, List.length_take]
    omega
  · intro unsigned before outcome after executed
    obtain ⟨key, required, missing⟩ := unsigned
    cases outcome with
    | error error => exact ⟨error, rfl⟩
    | ok transaction =>
      obtain ⟨_, matched⟩ := Fallible.ensures_iff.mp (signTransaction_ensures genuine signers before) _ _ executed transaction rfl
      obtain ⟨same, pointwise⟩ := List.forall₂_iff_get.mp matched
      obtain ⟨index, inside, found⟩ := List.getElem_of_mem required
      obtain ⟨signer, member, own, _⟩ := pointwise index inside (same ▸ inside)
      exact absurd (own.trans found) (missing signer member)
  · intro others answer distinct alsoDistinct agree fixed alsoFixed before outcome after otherBefore otherOutcome otherAfter
      first second
    rw [Fallible.ensures_iff.mp (signTransaction_collect fixed before) _ _ first,
      Fallible.ensures_iff.mp (signTransaction_collect alsoFixed otherBefore) _ _ second,
      collect_congr distinct alsoDistinct agree]

end Transaction
end Laws

namespace Transaction
namespace Example
open Reference

def authority : Pubkey := publicKey authorityKeypair

/-- A message that only the authority signs. -/
def message : ArchMessage := ⟨1, [authority], ⟨0⟩, []⟩

def digest : Bytes :=
  [0xb5, 0x32, 0x8b, 0xbe, 0xc8, 0x19, 0xcc, 0xc1, 0x9c, 0xd8, 0x40, 0x80, 0x4a, 0xde, 0x85, 0xbc,
   0x09, 0x29, 0x00, 0xe8, 0x3d, 0x1a, 0xfe, 0x16, 0x21, 0xb2, 0x7f, 0xa9, 0x3f, 0xb4, 0x87, 0xe0]

def signature : Signature :=
  ⟨[0xd1, 0x0b, 0xd2, 0x71, 0x10, 0xa8, 0xaa, 0xd8, 0x29, 0xf0, 0xfd, 0xe2, 0x38, 0xac, 0xc8, 0x59,
    0x08, 0xcd, 0x93, 0x3e, 0xff, 0xb0, 0x25, 0x8a, 0x6b, 0xa6, 0x0d, 0xf2, 0xb1, 0x3c, 0x11, 0x6a,
    0xa7, 0x89, 0x00, 0x83, 0xbc, 0x92, 0x37, 0x07, 0x04, 0x7d, 0x54, 0xde, 0x6b, 0xf6, 0x51, 0xc5,
    0x8c, 0x59, 0xfc, 0xa7, 0x9a, 0x90, 0xef, 0xf2, 0x09, 0x8b, 0xc6, 0x0f, 0xc6, 0xce, 0xf4, 0xe6], rfl⟩

/-- The SDK at the message: its digest and the signature of the authority. -/
def signing : SigningSdk where
  toSdk := tables.sdk
  hash _ := digest
  serialize _ := []
  verifyMessageBip322 signed key made usesSighashAll _ :=
    if signed = digest ∧ key = authority ∧ made = signature ∧ usesSighashAll = false then .ok ()
    else .error "invalid signature"
  display _ := "null"

def keyFile : ArchSigner signing := .localFile ⟨authorityKeypair, authority, .bitcoin, rfl⟩

def unreachable : ArchSigner signing := .cosigner ⟨"https://localhost", "token", "payer", "deploy", publicKey firstBuffer, .bitcoin⟩

/-- The key file signs and the cosigner cannot be reached. -/
def answer : (operation : Request) → operation.Reply → Prop
  | .signMessageBip322 keypair signed _, reply =>
    reply = if keypair = authorityKeypair ∧ signed = digest then .ok signature else .error (.other "unknown key")
  | .post .., reply => reply = .error "connection refused"
  | _, _ => False

def server : Server api Unit := fun _ operation reply _ => answer operation reply

theorem accepted (network : Network) : signing.verifyMessageBip322 digest authority signature false network = .ok () := by
  simp [signing]

theorem genuine : signing.Genuine server := by
  intro before after keypair signed network made served
  change Except.ok made = if keypair = authorityKeypair ∧ signed = digest then .ok signature
    else .error (ArchError.other "unknown key") at served
  split at served
  next known =>
    cases served
    rw [known.1, known.2]
    exact ⟨false, accepted network⟩
  next => cases served

def answers : ArchSigner signing → Except CliError Signature
  | .localFile _ => .ok signature
  | .cosigner _ => .error (.signer "cosigner request failed: connection refused")

theorem fixed : Fixed server message [unreachable, keyFile] answers := by
  intro signer member
  simp only [List.mem_cons, List.not_mem_nil, or_false] at member
  rcases member with remote | loaded
  · subst remote
    intro before outcome after executed
    cases executed with
    | request served rest =>
      cases served
      cases rest
      rfl
  · subst loaded
    intro before outcome after executed
    cases executed with
    | request served rest =>
      cases served.trans (if_pos ⟨rfl, rfl⟩)
      cases rest
      rfl

end Example

open Example Reference in
theorem signTransaction_positional_file :
    List.Forall₂ (Signs signing message [keyFile]) [authority] [signature] ∧
    ∀ outcome after, Fallible.Executes server (signTransaction message [unreachable, keyFile]) () outcome after →
      outcome = .ok ⟨0, [signature], message⟩ := by
  have laws := signTransaction_positional message [keyFile] (Nat.le_refl 1) genuine
  have executed : Fallible.Executes server (signTransaction message [keyFile]) () (.ok ⟨0, [signature], message⟩) () := by
    have found : [keyFile].find? (fun signer => signer.pubkey = authority) = some keyFile :=
      List.find?_cons_of_pos (decide_eq_true rfl)
    have served : server () (.signMessageBip322 authorityKeypair digest .bitcoin) (.ok signature) () :=
      (if_pos ⟨rfl, rfl⟩).symm
    have listed : message.accountKeys.take message.numRequiredSignatures = [authority] := rfl
    rw [signTransaction, listed, signAll, found]
    exact .request served .pure
  refine ⟨(laws.1 () _ () executed).2.2, ?_⟩
  intro outcome after other
  symm
  refine laws.2.2 [unreachable, keyFile] answers (List.nodup_singleton _) ?_ ?_ ?_ fixed () _ () () _ after executed other
  · decide +kernel
  · intro signer required
    have own : signer.pubkey = authority := List.mem_singleton.mp required
    have foreign : signer ≠ unreachable := by
      intro same
      rw [same] at own
      exact absurd own (by decide +kernel)
    simp [foreign]
  · exact fun signer member => fixed signer (List.mem_cons_of_mem _ member)

end Transaction
end ArchKit
