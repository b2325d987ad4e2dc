import OnreApp.Program.Supply

namespace OnreApp

open Checked TokenLedger

variable {clock : Clock} {w w' : World} {instruction : Instruction}

def Instruction.RefreshesStats (w : World) : Instruction → Prop
  | .mintTo _ _ => True
  | .takeOfferV2 args _ => args.tokenOutMint = w.state.onycMint
  | .takeOfferPermissionlessV2 args => args.tokenOutMint = w.state.onycMint
  | .openSwapBuy args => args.tokenOutMint = w.state.onycMint
  | .openSwapSell _ => True
  | .fulfillRedemptionRequest args => args.tokenInMint = w.state.onycMint ∧ w.ControlsOnyc
  | .burnForNavIncrease _ _ => True
  | .settleBuffer _ => True
  | .setBufferGrossApr _ _ => True
  | .setBufferFeeConfig _ _ => True
  | _ => False

theorem Purchase.freshStats {w₁ : World} {tokenInMint tokenOutMint : MintAccount}
    {tokenOutKey : Pubkey} {accrual : Option BufferAccrualResult} {own : List LedgerOp}
    {tokenOutAmount : Nat}
    (h : Purchase clock w w₁ w' tokenInMint tokenOutMint accrual own tokenOutAmount)
    (hout : w.loadMint tokenOutKey = .ok tokenOutMint) (honyc : tokenOutKey = w.state.onycMint)
    : w'.FreshStats clock := by
  apply h.fresh
  rw [(World.loadMint_inv hout).1]
  exact honyc

theorem fulfillRedemptionRequest_freshStats {args : FulfillRedemptionRequestArgs}
    (honyc : args.tokenInMint = w.state.onycMint) (hcontrols : w.ControlsOnyc)
    (h : fulfillRedemptionRequest clock w args = .ok w') : w'.FreshStats clock := by
  rcases fulfillRedemptionRequest_inv h with ⟨_, _, _, _, _, _, hloaded, hfulfillment, rfl⟩
  have hmint := hloaded.mintIn
  rw [honyc] at hmint
  apply fulfillRedemptionRequest.storeRequest_freshStats
  exact hfulfillment.fresh hmint (hcontrols.programControlsMint hmint)

theorem execute_freshStats (hrefreshes : instruction.RefreshesStats w)
    (h : execute clock w instruction = .ok w')
    : ∃ (snapshot : MarketStatsSnapshot), currentMarketStats clock w' = .ok snapshot ∧
        w'.marketStats = some {
          apy := snapshot.apy
          circulatingSupply := snapshot.circulatingSupply
          nav := snapshot.nav
          navAdjustment := snapshot.navAdjustment
          tvl := snapshot.tvl
          lastUpdatedAt := clock.unixTimestamp
          lastUpdatedSlot := clock.slot
        } := by
  show w'.FreshStats clock
  cases instruction with
  | mintTo boss amount =>
    rcases mintTo_inv h with ⟨_, _, _, _, _, _, _, hfresh⟩
    exact hfresh
  | takeOfferV2 args approvalMessage =>
    rcases takeOfferV2_inv h with ⟨_, _, _, _, _, _, _, _, _, hout, _, hpurchase, _⟩
    exact hpurchase.freshStats hout hrefreshes
  | takeOfferPermissionlessV2 args =>
    rcases takeOfferPermissionlessV2_inv h with ⟨_, _, _, _, _, _, _, _, _, hout, _, hpurchase, _⟩
    exact hpurchase.freshStats hout hrefreshes
  | openSwapBuy args =>
    rcases openSwapBuy_inv h with ⟨_, _, _, _, _, _, _, _, _, hout, _, hpurchase, _⟩
    exact hpurchase.freshStats hout hrefreshes
  | openSwapSell args =>
    rcases openSwapSell_inv h with ⟨_, _, _, _, _, _, _, _, _, _, hsale⟩
    exact hsale.fresh
  | fulfillRedemptionRequest args =>
    exact fulfillRedemptionRequest_freshStats hrefreshes.1 hrefreshes.2 h
  | burnForNavIncrease boss assetAdjustmentAmount =>
    rcases burnForNavIncrease_inv h with ⟨_, _, _, _, _, _, _, _, _, _, _, hfresh⟩
    exact hfresh
  | settleBuffer worker =>
    rcases settleBuffer_inv h with ⟨_, _, _, _, _, _, _, hfresh⟩
    exact hfresh
  | setBufferGrossApr boss grossYield =>
    rcases setBufferGrossApr_inv h with ⟨_, _, _, _, _, _, hfresh⟩
    exact hfresh
  | setBufferFeeConfig boss config =>
    rcases setBufferFeeConfig_inv h with ⟨_, _, _, _, _, _, hfresh⟩
    exact hfresh
  | _ => exact absurd hrefreshes id

theorem execute_freshStats_purchase
    : ∃ (w w' : World) (snapshot : MarketStatsSnapshot),
        execute ⟨200000, 0⟩ w Sample.purchase = .ok w' ∧
        w.ledger.supply Sample.onyc = 99990000999 ∧ w'.ledger.supply Sample.onyc = 149983515741 ∧
        currentMarketStats ⟨200000, 0⟩ w' = .ok snapshot ∧
        w'.marketStats = some (applyMarketStatsSnapshot snapshot ⟨200000, 0⟩) := by
  have hview : (runCalls Sample.world Sample.launch).toOption.bind (fun w =>
      (execute ⟨200000, 0⟩ w Sample.purchase).toOption.bind fun w' =>
        some (w.state, w.ledger.supply Sample.onyc, w'.ledger.supply Sample.onyc)) =
      some (Sample.world.state, 99990000999, 149983515741) := by decide +kernel
  rcases exists_ok_of_view hview with ⟨w, _, hview⟩
  rcases exists_ok_of_view hview with ⟨w', hexecute, hfacts⟩
  simp only [Option.some.injEq, Prod.mk.injEq] at hfacts
  rcases hfacts with ⟨hstate, hbefore, hafter⟩
  have hrefreshes : Sample.purchase.RefreshesStats w := by
    show Sample.onyc = w.state.onycMint
    rw [hstate]
    rfl
  rcases execute_freshStats hrefreshes hexecute with ⟨snapshot, hsnapshot, hstats⟩
  exact ⟨w, w', snapshot, hexecute, hbefore, hafter, hsnapshot, hstats⟩

end OnreApp
