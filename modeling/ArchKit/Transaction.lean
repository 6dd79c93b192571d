import ArchKit.ArchSigner

namespace ArchKit.Transaction
variable {sdk : SigningSdk}

/-- The loop of `sign_transaction`: one signature for each key, in the order of the keys. -/
def signAll (message : ArchMessage) (signers : List (ArchSigner sdk)) : List Pubkey → Cli (List Signature)
  | [] => pure []
  | pubkey :: pubkeys =>
    match signers.find? (fun signer => signer.pubkey = pubkey) with
    | none => throw (.signer s!"no signer configured for {pubkey}")
    | some signer => do
      let signature ← signer.signMessage message
      let signatures ← signAll message signers pubkeys
      return signature :: signatures

def signTransaction (message : ArchMessage) (signers : List (ArchSigner sdk)) : Cli RuntimeTransaction := do
  let required := message.numRequiredSignatures
  let signatures ← signAll message signers (message.accountKeys.take required)
  return ⟨0, signatures, message⟩

def sendAndConfirm (action : String) (instructions : List Instruction) (payer : Pubkey) (signers : List (ArchSigner sdk)) :
    Cli Hash := do
  let blockhash ← Cli.rpc (← Cli.getBestFinalizedBlockHash)
  let message := ArchMessage.new sdk.toSdk instructions (some payer) blockhash
  let transaction ← signTransaction message signers
  let transactionId ← Cli.rpc (← Cli.sendTransaction transaction)
  let processed ← Cli.rpc (← Cli.waitForProcessedTransaction transactionId)
  if processed.status ≠ .processed then
    throw (.transactionFailed action processed.status.debug)
  return transactionId

end ArchKit.Transaction
