import OnreApp.Deployment.Layout
import OnreApp.Ui.Impl.AccountDecoders

namespace OnreApp.Ui

open Checked LittleEndian

variable {fields : List Bytes} {i offset : Nat} {address : Pubkey → PubkeyBytes}
  {frame : AccountFrame}

theorem newPublicKey_toList (key : PublicKey) : newPublicKey key.toList = key := by
  apply Vector.toList_inj.mp
  simp [newPublicKey, List.leftpad, Vector.toList]

theorem publicKeyAt_field {key : PublicKey} (h : fields[i]? = some key.toList)
    (hoffset : Layout.offset fields i = offset) (rest : Buffer)
    : publicKeyAt (Layout.bytes fields ++ rest) offset = key := by
  have hfield := Layout.take_drop_offset h rest
  rw [hoffset, Vector.length_toList] at hfield
  unfold publicKeyAt subarray
  rw [Nat.add_sub_cancel_left, hfield, newPublicKey_toList]

theorem readU64_field {n : Nat} (h : fields[i]? = some (encode 8 n))
    (hoffset : Layout.offset fields i = offset) (hn : n < 2 ^ 64) (rest : Buffer)
    : readU64 (Layout.bytes fields ++ rest) offset = n := by
  have hfield := Layout.take_drop_offset h rest
  rw [hoffset, length_encode] at hfield
  unfold readU64 subarray
  rw [Nat.add_sub_cancel_left, hfield, decode_encode_of_lt hn]

theorem decodeStateAccount_fields (d : Deployment) (rest : Buffer)
    : decodeStateAccount (Layout.bytes (d.stateFields address frame) ++ rest) = some {
        boss := address d.boss
        proposedBoss := address d.governance.proposedBoss
        onycMint := address d.world.state.onycMint
        worker := address d.world.state.worker
        mainOffer := address d.world.state.mainOffer
      } := by
  have hadmins : d.governance.admins.toList.length = 20 := Vector.length_toList
  have hlength : stateAccountMinLength
      ≤ (Layout.bytes (d.stateFields address frame) ++ rest).length := by
    simp [Layout.length_bytes, Deployment.stateFields, stateAccountMinLength, hadmins]
    omega
  unfold decodeStateAccount
  rw [if_neg (Nat.not_lt.mpr hlength)]
  rw [publicKeyAt_field (i := 1) rfl (by simp [Layout.offset, Deployment.stateFields]) rest,
    publicKeyAt_field (i := 2) rfl (by simp [Layout.offset, Deployment.stateFields]) rest,
    publicKeyAt_field (i := 4) rfl (by simp [Layout.offset, Deployment.stateFields]) rest,
    publicKeyAt_field (i := 10) rfl (by simp [Layout.offset, Deployment.stateFields, hadmins]) rest,
    publicKeyAt_field (i := 12) rfl (by simp [Layout.offset, Deployment.stateFields, hadmins]) rest]

theorem decodeKnownAccount_offer (offer : Offer) (rest : Buffer)
    : decodeKnownAccount .offer (Layout.bytes (offer.fields address frame) ++ rest)
        = some (.offer (address offer.tokenInMint) (address offer.tokenOutMint)) := by
  have hlength : 72 ≤ (Layout.bytes (offer.fields address frame) ++ rest).length := by
    simp [Layout.length_bytes, Offer.fields]
    omega
  unfold decodeKnownAccount decodeOfferAccount
  dsimp only
  rw [if_neg (Nat.not_lt.mpr hlength),
    publicKeyAt_field (i := 1) rfl (by simp [Layout.offset, Offer.fields]) rest,
    publicKeyAt_field (i := 2) rfl (by simp [Layout.offset, Offer.fields]) rest]

theorem decodeKnownAccount_redemptionOffer {redemptionOffer : RedemptionOffer}
    (hcounter : redemptionOffer.requestCounter < 2 ^ 64) (rest : Buffer)
    : decodeKnownAccount .redemptionOffer
        (Layout.bytes (redemptionOffer.fields address frame) ++ rest)
        =
      some (.redemptionOffer (address redemptionOffer.offer) (address redemptionOffer.tokenInMint)
        (address redemptionOffer.tokenOutMint) redemptionOffer.requestCounter) := by
  have hlength : 146 ≤ (Layout.bytes (redemptionOffer.fields address frame) ++ rest).length := by
    simp [Layout.length_bytes, RedemptionOffer.fields]
    omega
  unfold decodeKnownAccount decodeRedemptionOfferAccount
  dsimp only
  rw [if_neg (Nat.not_lt.mpr hlength),
    publicKeyAt_field (i := 1) rfl (by simp [Layout.offset, RedemptionOffer.fields]) rest,
    publicKeyAt_field (i := 2) rfl (by simp [Layout.offset, RedemptionOffer.fields]) rest,
    publicKeyAt_field (i := 3) rfl (by simp [Layout.offset, RedemptionOffer.fields]) rest,
    readU64_field (i := 7) rfl (by simp [Layout.offset, RedemptionOffer.fields]) hcounter rest]

theorem decodeKnownAccount_redemptionRequest {request : RedemptionRequest}
    (hid : request.requestId < 2 ^ 64) (rest : Buffer)
    : decodeKnownAccount .redemptionRequest (Layout.bytes (request.fields address frame) ++ rest)
        =
      some (.redemptionRequest (address request.offer) request.requestId
        (address request.redeemer)) := by
  have hlength : 80 ≤ (Layout.bytes (request.fields address frame) ++ rest).length := by
    simp [Layout.length_bytes, RedemptionRequest.fields]
    omega
  unfold decodeKnownAccount decodeRedemptionRequestAccount
  dsimp only
  rw [if_neg (Nat.not_lt.mpr hlength),
    publicKeyAt_field (i := 1) rfl (by simp [Layout.offset, RedemptionRequest.fields]) rest,
    readU64_field (i := 2) rfl (by simp [Layout.offset, RedemptionRequest.fields]) hid rest,
    publicKeyAt_field (i := 3) rfl (by simp [Layout.offset, RedemptionRequest.fields]) rest]

theorem decodeKnownAccount_configurableVault (vault : ConfigurableVault) (rest : Buffer)
    : decodeKnownAccount .configurableVault (Layout.bytes (vault.fields address frame) ++ rest)
        =
      some (.configurableVault (UInt8.ofNat vault.kind)
        (address vault.withdrawalDestination)) := by
  have hlength : 41 ≤ (Layout.bytes (vault.fields address frame) ++ rest).length := by
    simp [Layout.length_bytes, ConfigurableVault.fields]
    omega
  have hkind : (Layout.bytes (vault.fields address frame) ++ rest)[8]?
      = some (UInt8.ofNat vault.kind) := by
    have hfield : (vault.fields address frame)[1]? = some [UInt8.ofNat vault.kind] := by
      simp [ConfigurableVault.fields, encode_succ]
    have hoffset : Layout.offset (vault.fields address frame) 1 = 8 := by
      simp [Layout.offset, ConfigurableVault.fields]
    rw [← hoffset]
    exact Layout.getElem?_offset hfield rest
  unfold decodeKnownAccount decodeConfigurableVaultAccount
  dsimp only
  rw [if_neg (Nat.not_lt.mpr hlength), List.getD_eq_getElem?_getD, hkind, Option.getD_some,
    publicKeyAt_field (i := 2) rfl (by simp [Layout.offset, ConfigurableVault.fields]) rest]

end OnreApp.Ui
