import ArchKit.Idl
import Mathlib.Logic.Function.Basic

/-! The on-chain side of IDL publication, as the toolkit's tests replay it: the
layout of an IDL account, the handlers of the Satellite program and the atomic
execution of a transaction. None of this is code of the toolkit. -/

namespace ArchKit
open Radix Idl

/-- Accounts, and the lamports of wallets. Wallets are assumed to be funded, so a
balance is an integer and no transfer is refused for lack of funds. -/
structure Ledger where
  accounts : Pubkey → Option AccountInfo
  balances : Pubkey → Int

namespace Ledger

def store (ledger : Ledger) (address : Pubkey) (account : AccountInfo) : Ledger :=
  { ledger with accounts := Function.update ledger.accounts address (some account) }

/-- Create an account and move its rent out of the payer's wallet. -/
def create (ledger : Ledger) (payer address : Pubkey) (account : AccountInfo) : Ledger :=
  { accounts := Function.update ledger.accounts address (some account)
    balances := Function.update ledger.balances payer (ledger.balances payer - account.lamports) }

def remove (ledger : Ledger) (address receiver : Pubkey) (lamports : Nat) : Ledger :=
  { accounts := Function.update ledger.accounts address none
    balances := Function.update ledger.balances receiver (ledger.balances receiver + lamports) }

variable (ledger : Ledger) (payer receiver address : Pubkey) (account : AccountInfo) (lamports : Nat)

@[simp] theorem store_self : (ledger.store address account).accounts address = some account :=
  Function.update_self ..

@[simp] theorem create_self : (ledger.create payer address account).accounts address = some account :=
  Function.update_self ..

@[simp] theorem remove_self : (ledger.remove address receiver lamports).accounts address = none :=
  Function.update_self ..

variable {address} {other : Pubkey} (different : other ≠ address)
include different

theorem store_ne : (ledger.store address account).accounts other = ledger.accounts other :=
  Function.update_of_ne different ..

theorem create_ne : (ledger.create payer address account).accounts other = ledger.accounts other :=
  Function.update_of_ne different ..

theorem remove_ne : (ledger.remove address receiver lamports).accounts other = ledger.accounts other :=
  Function.update_of_ne different ..

omit different in
theorem store_store (first second : AccountInfo) :
    (ledger.store address first).store address second = ledger.store address second := by
  simp [store]

end Ledger

namespace Satellite

def header (authority : Pubkey) (payloadLen : Nat) : Bytes :=
  idlAccountDiscriminator ++ authority.bytes ++ toLittleEndian 4 payloadLen

/-- The payload of an account that an IDL handler accepts. -/
def payload? (program authority : Pubkey) (account : AccountInfo) : Option Bytes :=
  let stop := idlHeaderLen + ofLittleEndian (slice account.data 40 44)
  if account.owner = program ∧ slice account.data 0 8 = idlAccountDiscriminator ∧
      slice account.data 8 40 = authority.bytes ∧ stop ≤ account.data.length then
    some (slice account.data idlHeaderLen stop)
  else none

/-- Replace the payload, keeping the length of the account. -/
def withPayload (data payload : Bytes) : Bytes :=
  data.take 40 ++ toLittleEndian 4 payload.length ++ payload ++ data.drop (idlHeaderLen + payload.length)

inductive Command where
  | create (dataLen : Nat)
  | createBuffer
  | write (chunk : Bytes)
  | setBuffer
  | close
  | resize (space : Nat)
  deriving DecidableEq

def decode (data : Bytes) : Option Command :=
  if data.take 8 = idlIxTagLe then
    match data.drop 8 with
    | [] => none
    | tag :: arguments =>
      if tag = tagCreate then
        if arguments.length = 8 then some (.create (ofLittleEndian arguments)) else none
      else if tag = tagCreateBuffer then
        if arguments = [] then some .createBuffer else none
      else if tag = tagWrite then
        if arguments.length = 4 + ofLittleEndian (arguments.take 4) then some (.write (arguments.drop 4)) else none
      else if tag = tagSetBuffer then
        if arguments = [] then some .setBuffer else none
      else if tag = tagClose then
        if arguments = [] then some .close else none
      else if tag = tagResize then
        if arguments.length = 8 then some (.resize (ofLittleEndian arguments)) else none
      else none
  else none

/-- An account made by `Create` holds at most this many bytes. -/
def createCap : Nat := 10000

variable (sdk : Sdk) (program : Pubkey)

def execute (ledger : Ledger) : Command → List Pubkey → Option Ledger
  | .create dataLen, authority :: idl :: _ =>
    let space := min (idlHeaderLen + dataLen) createCap
    match ledger.accounts idl with
    | some _ => none
    | none => some (ledger.create authority idl
        ⟨sdk.minimumRent space, program, header authority 0 ++ List.replicate (space - idlHeaderLen) 0, false⟩)
  | .createBuffer, buffer :: authority :: _ =>
    match ledger.accounts buffer with
    | some account =>
      if account.owner = program ∧ idlHeaderLen ≤ account.data.length ∧ account.data.take 8 = List.replicate 8 0 then
        some (ledger.store buffer { account with data := header authority 0 ++ account.data.drop idlHeaderLen })
      else none
    | none => none
  | .write chunk, target :: authority :: _ =>
    match ledger.accounts target with
    | some account =>
      match payload? program authority account with
      | some payload =>
        if idlHeaderLen + (payload ++ chunk).length ≤ account.data.length then
          some (ledger.store target { account with data := withPayload account.data (payload ++ chunk) })
        else none
      | none => none
    | none => none
  | .setBuffer, buffer :: target :: authority :: _ =>
    match ledger.accounts buffer, ledger.accounts target with
    | some source, some destination =>
      match payload? program authority source, payload? program authority destination with
      | some payload, some _ =>
        if idlHeaderLen + payload.length ≤ destination.data.length then
          some (ledger.store target { destination with data := withPayload destination.data payload })
        else none
      | _, _ => none
    | _, _ => none
  | .close, buffer :: authority :: receiver :: _ =>
    match ledger.accounts buffer with
    | some account =>
      match payload? program authority account with
      | some _ => some (ledger.remove buffer receiver account.lamports)
      | none => none
    | none => none
  | .resize space, idl :: authority :: _ =>
    match ledger.accounts idl with
    | some account =>
      match payload? program authority account with
      | some payload =>
        if payload = [] ∧ account.data.length ≤ space then
          let growth := min (space - account.data.length) idlResizeIncrement
          some (ledger.store idl { account with data := account.data ++ List.replicate growth 0 })
        else none
      | none => none
    | none => none
  | _, _ => none

def processInstruction (ledger : Ledger) : Instruction → Option Ledger
  | .createAccount payer address lamports space owner =>
    match ledger.accounts address with
    | some _ => none
    | none => some (ledger.create payer address ⟨lamports, owner, List.replicate space 0, false⟩)
  | .assign address owner =>
    match ledger.accounts address with
    | some account => if account.owner = sdk.systemProgram then some (ledger.store address { account with owner }) else none
    | none => none
  | .invoke programId accounts data =>
    if programId = program then
      match decode data with
      | some command => execute sdk program ledger command (accounts.map AccountMeta.pubkey)
      | none => none
    else none

/-- All instructions or none. -/
def processInstructions (ledger : Ledger) : List Instruction → Option Ledger
  | [] => some ledger
  | instruction :: instructions =>
    match processInstruction sdk program ledger instruction with
    | some after => processInstructions after instructions
    | none => none

end Satellite
end ArchKit
