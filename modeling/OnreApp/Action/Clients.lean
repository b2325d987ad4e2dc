import OnreApp.Action.Records
import OnreApp.Ui.Lemmas.AccountDecoders

namespace OnreApp

open Checked LittleEndian Ui

variable {clock : Clock} {d d' : Deployment} {action : Action} {actions : List (Clock × Action)}
  {address : Pubkey → PubkeyBytes}

namespace Sample

/-- An address that has something of every seed in it, in place of a hash. -/
def programAddress (seeds : List Bytes) : PubkeyBytes :=
  newPublicKey (encode 32 (decode seeds.flatten % 256 ^ 31))

def addressOf : Pubkey → PubkeyBytes
  | .redemptionRequest redemptionOffer counter => programAddress
    ["redemption_request".toUTF8.toList, (addressOf redemptionOffer).toList, encode 8 counter]
  | .redemptionOffer tokenInMint tokenOutMint => programAddress
    ["redemption_offer".toUTF8.toList, (addressOf tokenInMint).toList,
      (addressOf tokenOutMint).toList]
  | .external id => newPublicKey (encode 32 id)
  | _ => .default

def redeeming : List (Clock × Action) :=
  market ++ redemptions.map fun call => (call.1, .instruction call.2)

def accountFrame : AccountFrame where
  discriminator := Vector.replicate 8 1
  bump := 255
  reserved := []

end Sample

namespace Deployment

section Vaults

def VaultsKeyed (d : Deployment) : Prop :=
  ∀ (kind : ConfigurableVaultKind) (vault : ConfigurableVault),
    d.configurableVaults kind = some vault → vault.kind = kind.asU8

theorem perform_vaultsKeyed (hkeyed : d.VaultsKeyed) (h : d.perform clock action = .ok d')
    : d'.VaultsKeyed := by
  rcases perform_inv h with ⟨_, heffect⟩ | ⟨_, _⟩
  case inr => exact hkeyed
  cases heffect with
  | instruction hcreates =>
    intro kind vault hvault
    rcases hcreates kind with hsame | ⟨_, hnew⟩
    . exact hkeyed kind vault (hsame ▸ hvault)
    . dsimp only at hvault
      rw [hnew] at hvault
      cases hvault
      rfl
  | @destination _ kind vault _ _ hvault =>
    intro kind' vault' hvault'
    by_cases heq : kind' = kind
    . subst heq
      simp only [setVault, Function.update_self, Option.some.injEq] at hvault'
      rw [← hvault', ← hvault]
      cases hstored : d.configurableVaults kind' with
      | none => rfl
      | some stored => exact hkeyed kind' stored hstored
    . simp only [setVault, Function.update_of_ne heq] at hvault'
      exact hkeyed kind' vault' hvault'
  | _ => exact hkeyed

theorem run_vaultsKeyed (hkeyed : d.VaultsKeyed) (h : d.run actions = .ok d') : d'.VaultsKeyed := by
  apply Run.run_inv VaultsKeyed (fun _ => True) _ (fun _ _ => trivial) hkeyed h
  intro d₁ d₂ call _ hkeyed₁ hstep
  exact perform_vaultsKeyed hkeyed₁ hstep

end Vaults

section Legible

/-- What a client decodes is what is stored, whatever stands behind the fields it reads. -/
structure Legible (address : Pubkey → PubkeyBytes) (d : Deployment) : Prop where
  state : ∀ (frame : AccountFrame) (rest : Bytes),
    decodeStateAccount (Layout.bytes (d.stateFields address frame) ++ rest) = some {
      boss := address d.boss
      proposedBoss := address d.governance.proposedBoss
      onycMint := address d.world.state.onycMint
      worker := address d.world.state.worker
      mainOffer := address d.world.state.mainOffer
    }
  offers : ∀ (key : Pubkey) (offer : Offer), d.world.offers key = some offer →
    ∀ (frame : AccountFrame) (rest : Bytes),
      decodeKnownAccount .offer (Layout.bytes (offer.fields address frame) ++ rest)
        = some (.offer (address offer.tokenInMint) (address offer.tokenOutMint))
  redemptionOffers : ∀ (key : Pubkey) (redemptionOffer : RedemptionOffer),
    d.world.redemptionOffers key = some redemptionOffer →
    ∀ (frame : AccountFrame) (rest : Bytes),
      decodeKnownAccount .redemptionOffer
          (Layout.bytes (redemptionOffer.fields address frame) ++ rest)
        =
      some (.redemptionOffer (address redemptionOffer.offer) (address redemptionOffer.tokenInMint)
        (address redemptionOffer.tokenOutMint) redemptionOffer.requestCounter)
  redemptionRequests : ∀ (key : Pubkey) (request : RedemptionRequest),
    d.world.redemptionRequests.lookup key = some request →
    ∀ (frame : AccountFrame) (rest : Bytes),
      decodeKnownAccount .redemptionRequest (Layout.bytes (request.fields address frame) ++ rest)
        =
      some (.redemptionRequest (address request.offer) request.requestId
        (address request.redeemer))
  configurableVaults : ∀ (kind : ConfigurableVaultKind) (vault : ConfigurableVault),
    d.configurableVaults kind = some vault →
    ∀ (frame : AccountFrame) (rest : Bytes),
      decodeKnownAccount .configurableVault (Layout.bytes (vault.fields address frame) ++ rest)
        =
      some (.configurableVault (UInt8.ofNat kind.asU8) (address vault.withdrawalDestination))

structure Unopened (d : Deployment) : Prop where
  redemptionOffers : ∀ (key : Pubkey), d.world.redemptionOffers key = none
  redemptionRequests : d.world.redemptionRequests = ∅
  events : d.world.events = []
  configurableVaults : ∀ (kind : ConfigurableVaultKind), d.configurableVaults kind = none

theorem Unopened.recorded (h : d.Unopened) : d.world.Recorded :=
  recorded_of_empty h.redemptionOffers h.redemptionRequests h.events

theorem Unopened.vaultsKeyed (h : d.Unopened) : d.VaultsKeyed := by
  intro kind vault hvault
  rw [h.configurableVaults] at hvault
  cases hvault

theorem run_legible (hfresh : d.Unopened) (h : d.run actions = .ok d') : d'.Legible address := by
  have hrecorded := run_recorded hfresh.recorded h
  have hkeyed := run_vaultsKeyed hfresh.vaultsKeyed h
  constructor
  . intro frame rest
    exact decodeStateAccount_fields d' rest
  . intro _ offer _ frame rest
    exact decodeKnownAccount_offer offer rest
  . intro key redemptionOffer hkey frame rest
    exact decodeKnownAccount_redemptionOffer (hrecorded.requestCounter_lt hkey) rest
  . intro key request hkey frame rest
    exact decodeKnownAccount_redemptionRequest (hrecorded.requestId_lt hkey) rest
  . intro kind vault hkey frame rest
    rw [← hkeyed kind vault hkey]
    exact decodeKnownAccount_configurableVault vault rest

theorem Sample.deployment_unopened : Sample.deployment.Unopened :=
  ⟨fun _ => rfl, rfl, rfl, fun _ => rfl⟩

theorem run_legible_redeeming
    : ∃ (d' : Deployment) (request : RedemptionRequest),
        Sample.deployment.run Sample.redeeming = .ok d' ∧
        d'.world.redemptionRequests.lookup (.redemptionRequest Sample.redemptionOffer 0)
          = some request ∧
        (d'.configurableVaults .redemptionFee).isSome = true ∧ d'.Legible Sample.addressOf := by
  have hview : ((Sample.deployment.run Sample.redeeming).toOption.bind fun d' =>
      (d'.world.redemptionRequests.lookup (.redemptionRequest Sample.redemptionOffer 0)).bind
        fun _ => some (d'.configurableVaults .redemptionFee).isSome) = some true := by
    decide +kernel
  rcases exists_ok_of_view hview with ⟨d', hrun, hview⟩
  rcases Option.bind_eq_some_iff.mp hview with ⟨request, hrequest, hvault⟩
  exact ⟨d', request, hrun, hrequest, Option.some.inj hvault,
    run_legible Sample.deployment_unopened hrun⟩

end Legible

section RequestAddress

variable {findProgramAddressSync : List Bytes → PubkeyBytes}

/-- The runtime makes the address of a request of the seeds the program declares. -/
def DerivesRequests (findProgramAddressSync : List Bytes → PubkeyBytes)
    (address : Pubkey → PubkeyBytes) : Prop :=
  ∀ (redemptionOffer : Pubkey) (id : Nat), id ≤ u64Max →
    address (.redemptionRequest redemptionOffer id)
      =
    findProgramAddressSync
      ["redemption_request".toUTF8.toList, (address redemptionOffer).toList, encode 8 id]

theorem findRequestPda_eq (h : DerivesRequests findProgramAddressSync address)
    {redemptionOffer : Pubkey} {id : Nat} (hid : id ≤ u64Max)
    : findRequestPda findProgramAddressSync (address redemptionOffer) id
        = .ok (address (.redemptionRequest redemptionOffer id)) := by
  have hlt : (id : Int) < 2 ^ 64 := by
    unfold u64Max at hid
    omega
  have hseed : u64Seed id = .ok (encode 8 id) := if_pos ⟨Int.natCast_nonneg id, hlt⟩
  unfold findRequestPda
  rw [h redemptionOffer id hid, hseed]
  rfl

def creationPage (redemptionOffer : PublicKey) (decoded : Option DecodedAccount)
    : DerivationInput where
  redemptionRequest := none
  redemptionOfferAddress := some redemptionOffer
  requestCounterText := none
  createsRequest := true
  redemptionOffer := decoded

theorem run_requestAddress (hfresh : d.Unopened)
    (haddress : DerivesRequests findProgramAddressSync address) (hrun : d.run actions = .ok d')
    (frame : AccountFrame) (rest : Bytes)
    : (∀ (key : Pubkey) (request : RedemptionRequest) (input : DerivationInput),
        d'.world.redemptionRequests.lookup key = some request →
        input.redemptionRequest = decodeKnownAccount .redemptionRequest
          (Layout.bytes (request.fields address frame) ++ rest) →
        deriveRedemptionRequestPda findProgramAddressSync input = .ok (some (address key))) ∧
      ∀ (args : CreateRedemptionRequestArgs) (redemptionOffer : RedemptionOffer)
        (d'' : Deployment),
        d'.world.redemptionOffers args.redemptionOffer = some redemptionOffer →
        d'.perform clock (.instruction (.createRedemptionRequest args)) = .ok d'' →
        ∃ (key : Pubkey) (request : RedemptionRequest),
          deriveRedemptionRequestPda findProgramAddressSync (creationPage
            (address args.redemptionOffer) (decodeKnownAccount .redemptionOffer
              (Layout.bytes (redemptionOffer.fields address frame) ++ rest)))
            = .ok (some (address key)) ∧
          d'.world.redemptionRequests.lookup key = none ∧
          d''.world.redemptionRequests.lookup key = some request ∧
          request.redeemer = args.redeemer.key ∧ request.amount = args.amount := by
  have hrecorded := run_recorded hfresh.recorded hrun
  constructor
  . intro key request input hrequest hinput
    have hid := hrecorded.requestId_lt hrequest
    rw [decodeKnownAccount_redemptionRequest hid] at hinput
    rw [(hrecorded.book.open_known key request hrequest).1]
    simp only [deriveRedemptionRequestPda, hinput]
    rw [findRequestPda_eq haddress (by unfold u64Max; omega)]
    rfl
  . intro args redemptionOffer d'' hoffer hcreate
    have hcounter := hrecorded.requestCounter_lt hoffer
    rcases createRedemptionRequest_inv (perform_instruction_inv hcreate) with
      ⟨_, redemptionOffer', l, haccepted, _, hw⟩
    have hoffer' := haccepted.load
    rw [hoffer, Option.some.injEq] at hoffer'
    subst hoffer'
    have hstored : d''.world.redemptionRequests.lookup
        (.redemptionRequest args.redemptionOffer redemptionOffer.requestCounter) = some {
          offer := args.redemptionOffer
          requestId := redemptionOffer.requestCounter
          redeemer := args.redeemer.key
          amount := args.amount
          fulfilledAmount := 0
        } := by
      rw [hw]
      exact AList.lookup_insert _
    refine ⟨_, _, ?_, haccepted.free, hstored, rfl, rfl⟩
    rw [decodeKnownAccount_redemptionOffer hcounter]
    simp only [deriveRedemptionRequestPda, creationPage, redemptionRequestCounter,
      deriveNextRequestPda]
    rw [findRequestPda_eq haddress (by unfold u64Max; omega)]
    rfl

theorem run_requestAddress_redeeming
    : ∃ (d' : Deployment) (request : RedemptionRequest),
        Sample.deployment.run Sample.redeeming = .ok d' ∧
        d'.world.redemptionRequests.lookup (.redemptionRequest Sample.redemptionOffer 0)
          = some request ∧
        deriveRedemptionRequestPda Sample.programAddress {
            redemptionRequest := decodeKnownAccount .redemptionRequest
              (Layout.bytes (request.fields Sample.addressOf Sample.accountFrame) ++ [])
            redemptionOfferAddress := none
            requestCounterText := none
            createsRequest := false
            redemptionOffer := none
          }
          = .ok (some (Sample.addressOf (.redemptionRequest Sample.redemptionOffer 0))) := by
  have hview : ((Sample.deployment.run Sample.redeeming).toOption.bind fun d' =>
      (d'.world.redemptionRequests.lookup (.redemptionRequest Sample.redemptionOffer 0)).bind
        fun _ => some ()) = some () := by decide +kernel
  rcases exists_ok_of_view hview with ⟨d', hrun, hview⟩
  rcases Option.bind_eq_some_iff.mp hview with ⟨request, hrequest, _⟩
  have haddress : DerivesRequests Sample.programAddress Sample.addressOf := by
    intro redemptionOffer id _
    rfl
  refine ⟨d', request, hrun, hrequest, ?_⟩
  exact (@run_requestAddress ⟨300000, 0⟩ _ _ _ _ _ Sample.deployment_unopened haddress hrun
    Sample.accountFrame []).1 _ request _ hrequest rfl

end RequestAddress

end Deployment

end OnreApp
