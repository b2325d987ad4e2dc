import OnreApp.Ui.Impl.IdlCodec
import OnreApp.Utils.Impl.Approver

namespace OnreApp.Ui

abbrev PublicKey := PubkeyBytes

def newPublicKey (bytes : Buffer) : PublicKey :=
  ⟨((bytes.leftpad 32 0).take 32).toArray, by simp; omega⟩

def publicKeyAt (bytes : Buffer) (offset : Nat) : PublicKey :=
  newPublicKey (subarray bytes offset (offset + 32))

def readU64 (bytes : Buffer) (offset : Nat) : Nat :=
  LittleEndian.decode (subarray bytes offset (offset + 8))

def u64Seed (value : Int) : Js Buffer :=
  if 0 ≤ value ∧ value < 2 ^ 64 then
    return LittleEndian.encode 8 value.toNat
  else
    throw .rangeError

section State

structure StateAccountInfo where
  boss : PublicKey
  proposedBoss : PublicKey
  onycMint : PublicKey
  worker : PublicKey
  mainOffer : PublicKey
  deriving DecidableEq

def stateAccountMinLength : Nat := 890

def decodeStateAccount (bytes : Buffer) : Option StateAccountInfo :=
  if bytes.length < stateAccountMinLength then
    none
  else
    some {
      boss := publicKeyAt bytes 8
      proposedBoss := publicKeyAt bytes 40
      onycMint := publicKeyAt bytes 73
      worker := publicKeyAt bytes 818
      mainOffer := publicKeyAt bytes 858
    }

end State

section Known

inductive AccountKind where
  | offer
  | redemptionOffer
  | redemptionRequest
  | configurableVault
  deriving DecidableEq, Repr

inductive DecodedAccount where
  | offer (tokenInMint tokenOutMint : PublicKey)
  | redemptionOffer (offer tokenInMint tokenOutMint : PublicKey) (requestCounter : Nat)
  | redemptionRequest (offer : PublicKey) (requestId : Nat) (redeemer : PublicKey)
  | configurableVault (kind : UInt8) (withdrawalDestination : PublicKey)
  deriving DecidableEq

def decodeOfferAccount (bytes : Buffer) : Option DecodedAccount :=
  if bytes.length < 72 then none else some (.offer (publicKeyAt bytes 8) (publicKeyAt bytes 40))

def decodeRedemptionOfferAccount (bytes : Buffer) : Option DecodedAccount :=
  if bytes.length < 146 then
    none
  else
    some (.redemptionOffer (publicKeyAt bytes 8) (publicKeyAt bytes 40) (publicKeyAt bytes 72)
      (readU64 bytes 138))

def decodeRedemptionRequestAccount (bytes : Buffer) : Option DecodedAccount :=
  if bytes.length < 80 then
    none
  else
    some (.redemptionRequest (publicKeyAt bytes 8) (readU64 bytes 40) (publicKeyAt bytes 48))

def decodeConfigurableVaultAccount (bytes : Buffer) : Option DecodedAccount :=
  if bytes.length < 41 then
    none
  else
    some (.configurableVault (bytes.getD 8 0) (publicKeyAt bytes 9))

def decodeKnownAccount (kind : AccountKind) (bytes : Buffer) : Option DecodedAccount :=
  match kind with
  | .offer => decodeOfferAccount bytes
  | .redemptionOffer => decodeRedemptionOfferAccount bytes
  | .redemptionRequest => decodeRedemptionRequestAccount bytes
  | .configurableVault => decodeConfigurableVaultAccount bytes

end Known

section Derivation

structure DerivationInput where
  redemptionRequest : Option DecodedAccount
  redemptionOfferAddress : Option PublicKey
  -- the counter somebody has typed in
  requestCounterText : Option JsString
  createsRequest : Bool
  redemptionOffer : Option DecodedAccount

def redemptionRequestCounter (input : DerivationInput) : Js (Option Int) :=
  match input.requestCounterText.map trim with
  | none | some [] => return none
  | some value =>
    match bigInt value with
    | some counter => return some counter
    | none => throw .syntaxError

variable (findProgramAddressSync : List Buffer → PublicKey)

def findRequestPda (redemptionOffer : PublicKey) (id : Int) : Js PublicKey := do
  let seed ← u64Seed id
  return findProgramAddressSync
    ["redemption_request".toUTF8.toList, redemptionOffer.toList, seed]

def deriveNextRequestPda (input : DerivationInput) : Js (Option PublicKey) :=
  if input.createsRequest then
    match input.redemptionOfferAddress, input.redemptionOffer with
    | some address, some (.redemptionOffer _ _ _ requestCounter) => do
      let pda ← findRequestPda findProgramAddressSync address requestCounter
      return some pda
    | _, _ => return none
  else
    return none

def deriveRedemptionRequestPda (input : DerivationInput) : Js (Option PublicKey) :=
  match input.redemptionRequest with
  | some (.redemptionRequest offer requestId _) => do
    let pda ← findRequestPda findProgramAddressSync offer requestId
    return some pda
  | _ => do
    let counter ← redemptionRequestCounter input
    match input.redemptionOfferAddress, counter with
    | some address, some requestCounter =>
      let pda ← findRequestPda findProgramAddressSync address requestCounter
      return some pda
    | _, _ => deriveNextRequestPda findProgramAddressSync input

end Derivation

section SwapQuote

structure SwapQuoteResult where
  offer : PublicKey
  tokenInMint : PublicKey
  tokenOutMint : PublicKey
  tokenInAmount : Nat
  tokenInNetAmount : Nat
  tokenInFeeAmount : Nat
  tokenOutAmount : Nat
  minimumOut : Nat
  currentPrice : Nat
  quotedAt : Nat
  deriving DecidableEq

def swapQuoteResultSize : Nat := 152

def readPubkey (data : Buffer) (offset : Nat) : PublicKey × Nat :=
  (publicKeyAt data offset, offset + 32)

def readBn (data : Buffer) (offset : Nat) : Nat × Nat := (readU64 data offset, offset + 8)

def decodeSwapQuote (data : Buffer) : Js SwapQuoteResult :=
  if data.length < swapQuoteResultSize then
    throw (.error (text ("Invalid swap quote data length: expected at least " ++
      toString swapQuoteResultSize ++ " bytes, got " ++ toString data.length)))
  else
    let (offer, offset) := readPubkey data 0
    let (tokenInMint, offset) := readPubkey data offset
    let (tokenOutMint, offset) := readPubkey data offset
    let (tokenInAmount, offset) := readBn data offset
    let (tokenInNetAmount, offset) := readBn data offset
    let (tokenInFeeAmount, offset) := readBn data offset
    let (tokenOutAmount, offset) := readBn data offset
    let (minimumOut, offset) := readBn data offset
    let (currentPrice, offset) := readBn data offset
    let (quotedAt, _) := readBn data offset
    return {
      offer
      tokenInMint
      tokenOutMint
      tokenInAmount
      tokenInNetAmount
      tokenInFeeAmount
      tokenOutAmount
      minimumOut
      currentPrice
      quotedAt
    }

end SwapQuote

end OnreApp.Ui
