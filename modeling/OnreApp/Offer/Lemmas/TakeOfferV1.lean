import OnreApp.Offer.Impl.TakeOfferV1
import OnreApp.Offer.Lemmas.TakeOffer

namespace OnreApp

open Checked TokenLedger

variable {clock : Clock} {w w' : World}

structure PurchaseV1 (clock : Clock) (w : World) (args : TakeOfferV1Args) (offer : Offer)
    (tokenInMint tokenOutMint : MintAccount) (result : OfferProcessResult) : Prop where
  tradesAt : TradesAt w (.offer args.tokenInMint args.tokenOutMint) offer
  loadIn : w.loadMint args.tokenInMint = .ok tokenInMint
  loadOut : w.loadMint args.tokenOutMint = .ok tokenOutMint
  result_eq : processOfferCore clock offer args.tokenInAmount tokenInMint tokenOutMint
    offer.feeBasisPoints = .ok result
  maxSupply : programControlsMint tokenOutMint → 0 < w.state.maxSupply →
    tokenOutMint.supply + result.tokenOutAmount ≤ w.state.maxSupply

theorem takeOffer_inv {args : TakeOfferV1Args} {approvalMessage : Option (Result Unit)}
    (h : takeOffer clock w args approvalMessage = .ok w')
    : ∃ (offer : Offer) (tokenInMint tokenOutMint : MintAccount) (result : OfferProcessResult)
        (supply : Nat) (ledger : Ledger),
        PurchaseV1 clock w args offer tokenInMint tokenOutMint result ∧
        verifyOfferApproval offer approvalMessage = .ok () ∧
        Performs u64Max w.ledger (tokenOps supply (takeOffer.opsParams w.state args.user.key
          args.user.key tokenInMint tokenOutMint result)) ledger ∧
        w' = { w with ledger } := by
  simp only [takeOffer, World.requireNotKilled, Offer.requireEnabled, bind_eq_ok, require_eq_ok,
    World.load_eq_ok, pure_eq_ok] at h
  rcases h with ⟨offer, hoffer, _, hkilled, tokenInMint, hin, tokenOutMint, hout, h⟩
  rcases h with ⟨_, _, _, henabled, _, happroval, result, hresult, ledger, hops, rfl⟩
  rcases executeTokenOperations_inv hops with ⟨supply, hperforms, hcaps⟩
  exact ⟨offer, tokenInMint, tokenOutMint, result, supply, ledger, ⟨⟨hoffer, hkilled, henabled⟩,
    hin, hout, hresult, fun hcontrols => (hcaps hcontrols).1⟩, happroval, hperforms, rfl⟩

theorem takeOfferPermissionless_inv {args : TakeOfferV1Args}
    (h : takeOfferPermissionless clock w args = .ok w')
    : ∃ (offer : Offer) (tokenInMint tokenOutMint : MintAccount) (result : OfferProcessResult)
        (supply : Nat) (ledger : Ledger),
        PurchaseV1 clock w args offer tokenInMint tokenOutMint result ∧
        Performs u64Max w.ledger (throughOps args.user args.tokenInAmount supply
          (takeOffer.opsParams w.state .permissionlessAuthority .permissionlessAuthority
            tokenInMint tokenOutMint result)) ledger ∧
        w' = { w with ledger } := by
  simp only [takeOfferPermissionless, World.requireNotKilled, Offer.requireEnabled, bind_eq_ok,
    require_eq_ok, World.load_eq_ok, pure_eq_ok] at h
  rcases h with ⟨offer, hoffer, _, hkilled, tokenInMint, hin, tokenOutMint, hout, h⟩
  rcases h with ⟨_, henabled, _, _, _, _, result, hresult, _, hpay, _, hops, ledger, hpassOn, rfl⟩
  rcases throughOps_performs hpay hops hpassOn with ⟨supply, hperforms, hcaps⟩
  exact ⟨offer, tokenInMint, tokenOutMint, result, supply, ledger, ⟨⟨hoffer, hkilled, henabled⟩,
    hin, hout, hresult, fun hcontrols => (hcaps hcontrols).1⟩, hperforms, rfl⟩

end OnreApp
