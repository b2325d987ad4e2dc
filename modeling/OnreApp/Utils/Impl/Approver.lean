import OnreApp.Basic
import OnreApp.Lib.LittleEndian

/-!
The verification of a signed approval. The signature itself is checked by the native Ed25519 program
in the instruction before. The program reads from that instruction's data which key signed which
message. An address is its 32 bytes here.
-/

namespace OnreApp

open Checked

abbrev Bytes := List UInt8

abbrev PubkeyBytes := Vector UInt8 32

def PubkeyBytes.default : PubkeyBytes := Vector.replicate 32 0

section Ed25519Parser

structure ParsedEd25519 where
  sigCount : UInt8
  pubkey : PubkeyBytes
  message : Bytes
  deriving DecidableEq

namespace parseEd25519Ix

def byteAt (data : Bytes) (i : Nat) : Result UInt8 := orPanic data[i]?

def u16At (data : Bytes) (i : Nat) : Result Nat := do
  let low ← byteAt data i
  let high ← byteAt data (i + 1)
  return LittleEndian.decode [low, high]

def slice (data : Bytes) (start stop : Nat) : Result Bytes :=
  if start ≤ stop ∧ stop ≤ data.length then
    return (data.drop start).take (stop - start)
  else
    throw .panic

def copyFromSlice (n : Nat) (bytes : Bytes) : Result (Vector UInt8 n) :=
  if h : bytes.length = n then
    return ⟨bytes.toArray, h⟩
  else
    throw .panic

def u16Max : Nat := 65535

def parts (data : Bytes) (sigCount : UInt8) : Result (Option ParsedEd25519) := do
  let sigOffset ← u16At data 2
  let pubkeyOffset ← u16At data 6
  let msgOffset ← u16At data 10
  let msgSize ← u16At data 12
  if data.length < sigOffset + 64 then
    return none
  else
    let signature ← slice data sigOffset (sigOffset + 64)
    let _ ← copyFromSlice 64 signature
    if data.length < pubkeyOffset + 32 then
      return none
    else
      let pubkey ← slice data pubkeyOffset (pubkeyOffset + 32)
      let pubkey ← copyFromSlice 32 pubkey
      if data.length < msgOffset + msgSize then
        return none
      else
        let message ← slice data msgOffset (msgOffset + msgSize)
        return some { sigCount, pubkey, message }

end parseEd25519Ix

/--
Reading outside the data is a panic, so a run that returns `none` has looked at the bytes it needed
and refused them.
-/
def parseEd25519Ix (data : Bytes) : Result (Option ParsedEd25519) :=
  if data.length < 16 then
    return none
  else do
    let sigCount ← parseEd25519Ix.byteAt data 0
    if sigCount ≠ 1 then
      return none
    else
      let sigIxIndex ← parseEd25519Ix.u16At data 4
      let pubkeyIxIndex ← parseEd25519Ix.u16At data 8
      let msgIxIndex ← parseEd25519Ix.u16At data 14
      if sigIxIndex ≠ parseEd25519Ix.u16Max ∨ pubkeyIxIndex ≠ parseEd25519Ix.u16Max ∨
          msgIxIndex ≠ parseEd25519Ix.u16Max then
        return none
      else
        parseEd25519Ix.parts data sigCount

end Ed25519Parser

section ApprovalMessage

structure ApprovalMessage where
  programId : PubkeyBytes
  userPubkey : PubkeyBytes
  expiryUnix : UInt64
  deriving DecidableEq

namespace ApprovalMessage

def serialize (msg : ApprovalMessage) : Bytes :=
  msg.programId.toList ++ (msg.userPubkey.toList ++ LittleEndian.encode 8 msg.expiryUnix.toNat)

def readPubkey (bytes : Bytes) : Option (PubkeyBytes × Bytes) :=
  if h : 32 ≤ bytes.length then
    some (⟨(bytes.take 32).toArray, by simp [h]⟩, bytes.drop 32)
  else
    none

def readU64 (bytes : Bytes) : Option (UInt64 × Bytes) :=
  if 8 ≤ bytes.length then
    some (UInt64.ofNat (LittleEndian.decode (bytes.take 8)), bytes.drop 8)
  else
    none

-- the whole slice has to be used up
def tryFromSlice (bytes : Bytes) : Option ApprovalMessage := do
  let (programId, bytes) ← readPubkey bytes
  let (userPubkey, bytes) ← readPubkey bytes
  let (expiryUnix, bytes) ← readU64 bytes
  if bytes = [] then
    some { programId, userPubkey, expiryUnix }
  else
    none

end ApprovalMessage

end ApprovalMessage

section Verify

structure TransactionInstruction where
  programId : PubkeyBytes
  accounts : List PubkeyBytes
  data : Bytes
  deriving DecidableEq

structure Transaction where
  instructions : List TransactionInstruction
  currentIndex : Nat
  deriving DecidableEq

-- the instructions sysvar shows the transaction; `none` is any other account in its place
def loadCurrentIndexChecked (sysvar : Option Transaction) : Option Nat :=
  sysvar.map Transaction.currentIndex

def loadInstructionAtChecked (index : Nat) (sysvar : Option Transaction)
    : Option TransactionInstruction := do
  let transaction ← sysvar
  transaction.instructions[index]?

def ed25519ProgramId : PubkeyBytes := #v[
  3, 125, 70, 214, 124, 147, 251, 190, 18, 249, 66, 143, 131, 141, 64, 255,
  5, 112, 116, 73, 39, 244, 138, 100, 252, 202, 112, 68, 128, 0, 0, 0]

def verifyApprovalMessageGeneric (clock : Clock) (programId userPubkey approver1 approver2
    : PubkeyBytes) (instructionsSysvar : Option Transaction) (msg : ApprovalMessage)
    : Result Unit := do
  let now := clock.time
  require (now ≤ msg.expiryUnix.toNat) .expired
  require (msg.programId = programId) .wrongProgram
  require (msg.userPubkey = userPubkey) .wrongUser
  let curIdx ← okOr (loadCurrentIndexChecked instructionsSysvar) .missingEd25519Ix
  require (0 < curIdx) .missingEd25519Ix
  let ix ← okOr (loadInstructionAtChecked (curIdx - 1) instructionsSysvar) .missingEd25519Ix
  require (ix.programId = ed25519ProgramId) .wrongIxProgram
  require (ix.accounts = []) .badEd25519Accounts
  let parsed ← parseEd25519Ix ix.data
  let parsed ← okOr parsed .malformedEd25519Ix
  require (parsed.sigCount = 1) .multipleSigs
  let isApprover1 := approver1 ≠ PubkeyBytes.default ∧ parsed.pubkey = approver1
  let isApprover2 := approver2 ≠ PubkeyBytes.default ∧ parsed.pubkey = approver2
  require (isApprover1 ∨ isApprover2) .wrongAuthority
  let signedMsg ← okOr (ApprovalMessage.tryFromSlice parsed.message) .msgDeserialize
  require (signedMsg.programId = programId) .wrongProgram
  require (signedMsg.userPubkey = userPubkey) .wrongUser
  require (now ≤ signedMsg.expiryUnix.toNat) .expired
  require (signedMsg = msg) .msgMismatch

end Verify

end OnreApp
