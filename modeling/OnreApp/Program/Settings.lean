import OnreApp.Program.Ordering

namespace OnreApp

open Checked TokenLedger

variable {clock clock' : Clock} {w w₁ w' ws wc wsc : World} {worker boss : Signer}
  {b b' : BufferState} {mint : MintAccount} {offer : Offer}

section Settled

/--
Two worlds that differ in the stored market stats and, before the first accrual, in the watermark.
A settlement has the same result on both.
-/
def SameToSettle (w w' : World) : Prop :=
  ∃ (b : BufferState) (marketStats : Option MarketStats) (watermark : Nat),
    w.bufferState = some b ∧
    w' = { w with
      marketStats, bufferState := some { b with performanceFeeHighWatermark := watermark } } ∧
    (b.previousSupply = 0 ∨ watermark = b.performanceFeeHighWatermark)

theorem settleBuffer_marketStats {marketStats : Option MarketStats}
    : settleBuffer clock { w with marketStats } worker = settleBuffer clock w worker := by
  unfold settleBuffer accrueAndRefresh accrueBufferFromAccounts refreshMarketStatsPda
  simp only [bind_assoc, pure_bind]
  rfl

theorem settleBuffer_watermark {watermark : Nat} (hb : w.bufferState = some b)
    (hzero : b.previousSupply = 0)
    : settleBuffer clock
        { w with bufferState := some { b with performanceFeeHighWatermark := watermark } } worker
        =
      settleBuffer clock w worker := by
  -- the first accrual on a baseline of 0 replaces the watermark without reading it
  unfold settleBuffer accrueAndRefresh accrueBufferFromAccounts refreshMarketStatsPda loadBufferState
    accrueBuffer
  simp only [hb, hzero, okOr, Checked.okOr, ok_bind, if_true, bind_assoc, pure_bind]
  rfl

theorem SameToSettle.settleBuffer_eq (h : SameToSettle w w')
    : settleBuffer clock w' worker = settleBuffer clock w worker := by
  rcases h with ⟨b, marketStats, watermark, hb, rfl, hzero | hsame⟩
  . rw [← settleBuffer_watermark hb hzero]
    exact settleBuffer_marketStats (w := { w with
      bufferState := some { b with performanceFeeHighWatermark := watermark } })
  . have hbuffer : some { b with performanceFeeHighWatermark := watermark } = w.bufferState := by
      rw [hsame, hb]
    rw [hbuffer]
    exact settleBuffer_marketStats (w := w)

theorem accrueAndRefresh_settled (hmint : w.loadMint w.state.onycMint = .ok mint)
    (hoffer : w.offers w.state.mainOffer = some offer) (hsettled : w.SettledAt clock b)
    (hwatermark : ∀ (nav : Nat), w.NavAt clock nav →
      w.ledger.supply w.state.onycMint = 0 ∨ nav ≤ b.performanceFeeHighWatermark)
    (h : accrueAndRefresh clock w offer mint = .ok w') : SameToSettle w w' := by
  rcases accrueAndRefresh_inv hoffer hmint h with ⟨w₁, result, hstep, hw', _⟩
  cases hstep with
  | some hoffer _ hbuffer accrued =>
    rw [hsettled.bufferState, Option.some.injEq] at hbuffer
    subst hbuffer
    rcases accrued.gross with ⟨activeVector, hactive, hgross⟩
    rw [hsettled.lastAccrualTimestamp, Int.sub_self, show asU64 0 = 0 from rfl,
      calculateGrossBufferAccrual_no_time, Except.ok.injEq] at hgross
    have hops := accrued.performs
    rw [accrued.ops_eq_nil hgross.symm] at hops
    cases hops
    have hpost := accrued.postAccrualSupply
    rw [(World.loadMint_inv hmint).2, ← hsettled.previousSupply, ← hgross, Nat.add_zero] at hpost
    have hafter := accrued.after_eq
    rw [hpost, ← hsettled.lastAccrualTimestamp] at hafter
    refine ⟨b, w'.marketStats, result.newPerformanceFeeHighWatermark, hsettled.bufferState, ?_, ?_⟩
    . rw [hw', hafter]
    . rw [accrued.watermark, hsettled.previousSupply]
      rcases hwatermark result.currentNav ⟨_, activeVector, hoffer, hactive⟩ with hzero | hle
      . exact .inl hzero
      . split
        . next hzero => exact .inl hzero
        . exact .inr (Nat.max_eq_left hle)

theorem accrueAndRefresh_settles (hoffer : w.offers w.state.mainOffer = some offer)
    (hmint : w.loadMint w.state.onycMint = .ok mint)
    (h : accrueAndRefresh clock w offer mint = .ok w')
    : MarketOnly w w' ∧ ∃ (b : BufferState), w'.SettledAt clock b ∧
        ∀ (nav : Nat), w'.NavAt clock nav → nav ≤ b.performanceFeeHighWatermark := by
  rcases accrueAndRefresh_inv hoffer hmint h with ⟨w₁, result, hstep, hw', _⟩
  have hmarket : MarketOnly w w' := by
    rw [hw']
    exact hstep.marketOnly.trans .of_update
  have hsupply : w'.ledger.supply mint.key = w.ledger.supply mint.key + result.bufferMintAmount := by
    rw [hw']
    exact hstep.supply
  rw [(World.loadMint_inv hmint).1] at hsupply
  refine ⟨hmarket, ?_⟩
  cases hstep with
  | @some offer' before after l' _ hoffer' _ hbuffer accrued =>
    refine ⟨after, ⟨by rw [hw'], accrued.lastAccrualTimestamp, ?_⟩, ?_⟩
    . rw [accrued.previousSupply, accrued.postAccrualSupply, (World.loadMint_inv hmint).2,
        hmarket.state, hsupply]
    . intro nav hnav
      rcases accrued.gross with ⟨activeVector, hactive, _⟩
      have heq : nav = result.currentNav :=
        World.NavAt.unique ⟨offer', activeVector, hoffer', hactive⟩ (hmarket.sameTerms.navAt hnav)
      rw [heq, accrued.after_eq]
      exact accrued.currentNav_le

end Settled

section Changes

/-- A setting of the buffer, as the accrual sees it: the baseline and the watermark stay. -/
structure IsSetting (set : BufferState → BufferState) : Prop where
  watermark : ∀ (b : BufferState) (n : Nat),
    set { b with performanceFeeHighWatermark := n }
      = { set b with performanceFeeHighWatermark := n }
  keeps : ∀ (b : BufferState), (set b).performanceFeeHighWatermark = b.performanceFeeHighWatermark
  baseline : ∀ (b : BufferState), (set b).previousSupply = b.previousSupply

theorem SameToSettle.set {set : BufferState → BufferState} (hset : IsSetting set)
    (h : SameToSettle w w') (hb : w.bufferState = some b) (hb' : w'.bufferState = some b')
    : SameToSettle { w with bufferState := some (set b) }
        { w' with bufferState := some (set b') } := by
  rcases h with ⟨c, marketStats, watermark, hc, rfl, hsame⟩
  rw [hb, Option.some.injEq] at hc
  subst hc
  cases hb'
  refine ⟨set b, marketStats, watermark, rfl, ?_, ?_⟩
  . rw [hset.watermark]
  . rw [hset.baseline, hset.keeps]
    exact hsame

theorem SettlesThenSets.sameToSettle {set : BufferState → BufferState} (hset : IsSetting set)
    (hsettle : settleBuffer clock w worker = .ok ws) (hchange : SettlesThenSets set clock w wc boss)
    (hchange' : SettlesThenSets set clock ws wsc boss) : SameToSettle wc wsc := by
  rcases settleBuffer_parts hsettle with ⟨offer, mint, hoffer, haccounts, haccrue⟩
  have hmint := haccounts.loadMint
  rcases accrueAndRefresh_settles hoffer hmint haccrue with ⟨hmarket, b, hsettled, hnav⟩
  rcases hchange with ⟨offer₁, mint₁, wa, c, hoffer₁, haccounts₁, haccrue₁, hc, rfl⟩
  rcases hchange' with ⟨offer₂, mint₂, wa₂, c₂, hoffer₂, haccounts₂, haccrue₂, hc₂, rfl⟩
  have hmint₁ := haccounts₁.loadMint
  have hmint₂ := haccounts₂.loadMint
  -- the change accrues exactly what the settlement does
  rw [hoffer, Option.some.injEq] at hoffer₁
  rw [hmint, Except.ok.injEq] at hmint₁
  subst hoffer₁ hmint₁
  rw [haccrue, Except.ok.injEq] at haccrue₁
  subst haccrue₁
  have hsame := accrueAndRefresh_settled hmint₂ hoffer₂ hsettled (fun nav h => .inr (hnav nav h))
    haccrue₂
  exact hsame.set hset hc hc₂

theorem setMainOffer_inv {offerKey : Pubkey} (h : setMainOffer w boss offerKey = .ok wc)
    : wc = { w with state := { w.state with mainOffer := offerKey } } := by
  simp only [setMainOffer, bind_eq_ok, pure_eq_ok] at h
  rcases h with ⟨_, _, _, _, _, _, _, _, rfl⟩
  rfl

theorem SameToSettle.setMainOffer {offerKey : Pubkey} (h : SameToSettle w w')
    : SameToSettle { w with state := { w.state with mainOffer := offerKey } }
        { w' with state := { w'.state with mainOffer := offerKey } } := by
  rcases h with ⟨b, marketStats, watermark, hb, rfl, hsame⟩
  exact ⟨b, marketStats, watermark, hb, rfl, hsame⟩

end Changes

section Retroactive

def Command.IsSettingsChange : Command → Prop
  | .instruction (.setBufferGrossApr _ _) => True
  | .instruction (.setBufferFeeConfig _ _) => True
  | .setMainOffer _ _ => True
  | _ => False

structure SameMints (onycMint : Pubkey) (u u' : World) : Prop where
  supply : u.ledger.supply onycMint = u'.ledger.supply onycMint
  vaults : ∀ (vault : Pubkey), isAccrualVault vault = true →
    u.ledger.balance vault onycMint = u'.ledger.balance vault onycMint

/--
Settling at any later time mints in total what settling before the change would have, and then the
new parameters from the change on.
-/
def NotRetroactive (clock : Clock) (w : World) (change : Command) : Prop :=
  ∀ (worker : Signer) (ws wc wsc : World), settleBuffer clock w worker = .ok ws →
    change.execute clock w = .ok wc → change.execute clock ws = .ok wsc →
    ∀ (clock' : Clock) (u u' : World), clock.unixTimestamp ≤ clock'.unixTimestamp →
      settleBuffer clock' wc worker = .ok u → settleBuffer clock' wsc worker = .ok u' →
      SameMints w.state.onycMint u u'

/-- Nothing has accrued under the main offer that is not minted yet. -/
def NothingUnpaid (clock : Clock) (w : World) : Prop :=
  ∃ (b : BufferState), w.bufferState = some b ∧
    (b.grossApr = 0 ∨
      b.lastAccrualTimestamp = clock.unixTimestamp ∧
      b.previousSupply = w.ledger.supply w.state.onycMint ∧
      ∀ (nav : Nat), w.NavAt clock nav →
        w.ledger.supply w.state.onycMint = 0 ∨ nav ≤ b.performanceFeeHighWatermark)

theorem SameToSettle.notRetroactive {change : Command}
    (h : ∀ (worker : Signer) (ws wc wsc : World), settleBuffer clock w worker = .ok ws →
      change.execute clock w = .ok wc → change.execute clock ws = .ok wsc → SameToSettle wc wsc)
    : NotRetroactive clock w change := by
  intro worker ws wc wsc hsettle hchange hchange' clock' u u' _ hu hu'
  rw [(h worker ws wc wsc hsettle hchange hchange').settleBuffer_eq, hu, Except.ok.injEq] at hu'
  subst hu'
  exact ⟨rfl, fun _ _ => rfl⟩

theorem settleBuffer_no_spread (hb : w.bufferState = some b) (hapr : b.grossApr = 0)
    (h : settleBuffer clock w worker = .ok w')
    : w'.ledger = w.ledger ∧ ∃ (b' : BufferState), w'.bufferState = some b' ∧ b'.grossApr = 0 := by
  rcases settleBuffer_parts h with ⟨offer, mint, hoffer, haccounts, haccrue⟩
  rcases accrueAndRefresh_inv hoffer haccounts.loadMint haccrue with ⟨w₁, result, hstep, hw', _⟩
  cases hstep with
  | @some _ before after _ _ _ _ hbuffer accrued =>
    rw [hb, Option.some.injEq] at hbuffer
    subst hbuffer
    rcases accrued.gross with ⟨activeVector, _, hgross⟩
    have hzero : result.bufferMintAmount = 0 := by
      rw [hapr] at hgross
      simp [calculateGrossBufferAccrual, calculateAccrualFromAprDelta] at hgross
      exact hgross.symm
    have hops := accrued.performs
    rw [accrued.ops_eq_nil hzero] at hops
    cases hops
    refine ⟨by rw [hw'], after, by rw [hw'], ?_⟩
    rw [accrued.after_eq]
    exact hapr

theorem setMainOffer_notRetroactive {offerKey : Pubkey} (h : NothingUnpaid clock w)
    : NotRetroactive clock w (.setMainOffer boss offerKey) := by
  rcases h with ⟨b, hb, hapr | ⟨hlast, hprevious, hwatermark⟩⟩
  . intro worker ws wc wsc hsettle hchange hchange' clock' u u' _ hu hu'
    rcases settleBuffer_no_spread hb hapr hsettle with ⟨hledger, b', hb', hapr'⟩
    have hbc : wc.bufferState = some b := by rw [setMainOffer_inv hchange, hb]
    have hbsc : wsc.bufferState = some b' := by rw [setMainOffer_inv hchange', hb']
    have heq : u.ledger = u'.ledger := by
      rw [(settleBuffer_no_spread hbc hapr hu).1, (settleBuffer_no_spread hbsc hapr' hu').1,
        setMainOffer_inv hchange, setMainOffer_inv hchange', hledger]
    exact ⟨by rw [heq], fun _ _ => by rw [heq]⟩
  . apply SameToSettle.notRetroactive
    intro worker ws wc wsc hsettle hchange hchange'
    rcases settleBuffer_parts hsettle with ⟨offer, mint, hoffer, haccounts, haccrue⟩
    have hsame := accrueAndRefresh_settled haccounts.loadMint hoffer ⟨hb, hlast, hprevious⟩
      hwatermark haccrue
    rw [setMainOffer_inv hchange, setMainOffer_inv hchange']
    exact hsame.setMainOffer

theorem notRetroactive {change : Command} (hchange : change.IsSettingsChange)
    (h : ∀ (boss : Signer) (offerKey : Pubkey), change = .setMainOffer boss offerKey →
      NothingUnpaid clock w)
    : NotRetroactive clock w change := by
  cases change with
  | setMainOffer boss offerKey => exact setMainOffer_notRetroactive (h boss offerKey rfl)
  | instruction i =>
    apply SameToSettle.notRetroactive
    intro worker ws wc wsc hsettle hchange₁ hchange₂
    cases i with
    | setBufferGrossApr boss grossYield =>
      have hset : IsSetting fun b => { b with grossApr := grossYield } :=
        ⟨fun _ _ => rfl, fun _ => rfl, fun _ => rfl⟩
      exact SettlesThenSets.sameToSettle hset hsettle
        (setBufferGrossApr_settlesThenSets hchange₁) (setBufferGrossApr_settlesThenSets hchange₂)
    | setBufferFeeConfig boss config =>
      have hset : IsSetting fun b => { b with
          managementFeeBasisPoints := config.managementFeeBasisPoints
          performanceFeeBasisPoints := config.performanceFeeBasisPoints
          performanceFeeHighWatermarkEnabled := config.performanceFeeHighWatermarkEnabled } :=
        ⟨fun _ _ => rfl, fun _ => rfl, fun _ => rfl⟩
      exact SettlesThenSets.sameToSettle hset hsettle
        (setBufferFeeConfig_settlesThenSets hchange₁) (setBufferFeeConfig_settlesThenSets hchange₂)
    | _ => exact absurd hchange id

theorem run_notRetroactive {commands : List (Clock × Command)}
    (hunpaid : ∀ (pre suf : List (Clock × Command)) (clock : Clock) (boss : Signer)
      (offerKey : Pubkey) (v : World),
      commands = pre ++ (clock, .setMainOffer boss offerKey) :: suf → Command.run w pre = .ok v →
      NothingUnpaid clock v)
    (pre suf : List (Clock × Command)) (clock : Clock) (change : Command) (v : World)
    (hcommands : commands = pre ++ (clock, change) :: suf) (hrun : Command.run w pre = .ok v)
    (hchange : change.IsSettingsChange) : NotRetroactive clock v change := by
  apply notRetroactive hchange
  rintro boss offerKey rfl
  exact hunpaid pre suf clock boss offerKey v hcommands hrun

theorem mem_or_last {α : Type} {front pre suf : List α} {x y : α}
    (h : front ++ [x] = pre ++ y :: suf) : y ∈ front ∨ pre = front ∧ y = x := by
  rcases List.eq_nil_or_concat suf with rfl | ⟨suf', z, rfl⟩
  . rcases List.append_inj' h rfl with ⟨rfl, hlast⟩
    cases hlast
    exact .inr ⟨rfl, rfl⟩
  . rw [List.concat_eq_append, ← List.cons_append, ← List.append_assoc] at h
    rw [(List.append_inj' h rfl).1]
    exact .inl (List.mem_append_right _ List.mem_cons_self)

theorem settleBuffer_nothingUnpaid (h : settleBuffer clock w worker = .ok w')
    : NothingUnpaid clock w' := by
  rcases settleBuffer_parts h with ⟨offer, mint, hoffer, haccounts, haccrue⟩
  rcases accrueAndRefresh_settles hoffer haccounts.loadMint haccrue with ⟨_, b, hsettled, hnav⟩
  refine ⟨b, hsettled.bufferState, .inr ⟨hsettled.lastAccrualTimestamp, ?_, ?_⟩⟩
  . exact hsettled.previousSupply
  . exact fun nav h => .inr (hnav nav h)

theorem run_notRetroactive_settled
    : ∃ (w v ws wc wsc u u' : World),
        Command.run Sample.twoOffers Sample.commands = .ok w ∧
        settleBuffer ⟨200000, 0⟩ w Sample.worker = .ok v ∧
        settleBuffer ⟨200000, 0⟩ v Sample.worker = .ok ws ∧
        setMainOffer v Sample.boss Sample.secondOffer = .ok wc ∧
        setMainOffer ws Sample.boss Sample.secondOffer = .ok wsc ∧
        settleBuffer ⟨300000, 0⟩ wc Sample.worker = .ok u ∧
        settleBuffer ⟨300000, 0⟩ wsc Sample.worker = .ok u' ∧
        u.ledger.supply Sample.onyc = 100014367402 ∧ SameMints v.state.onycMint u u' := by
  have hview : (Command.run Sample.twoOffers Sample.commands).toOption.bind (fun w =>
      (settleBuffer ⟨200000, 0⟩ w Sample.worker).toOption.bind fun v =>
        (settleBuffer ⟨200000, 0⟩ v Sample.worker).toOption.bind fun ws =>
          (setMainOffer v Sample.boss Sample.secondOffer).toOption.bind fun wc =>
            (setMainOffer ws Sample.boss Sample.secondOffer).toOption.bind fun wsc =>
              (settleBuffer ⟨300000, 0⟩ wc Sample.worker).toOption.bind fun u =>
                (settleBuffer ⟨300000, 0⟩ wsc Sample.worker).toOption.bind fun _ =>
                  some (u.ledger.supply Sample.onyc)) = some 100014367402 := by
    decide +kernel
  rcases exists_ok_of_view hview with ⟨w, hw, hview⟩
  rcases exists_ok_of_view hview with ⟨v, hv, hview⟩
  rcases exists_ok_of_view hview with ⟨ws, hsettle, hview⟩
  rcases exists_ok_of_view hview with ⟨wc, hchange, hview⟩
  rcases exists_ok_of_view hview with ⟨wsc, hchange', hview⟩
  rcases exists_ok_of_view hview with ⟨u, hu, hview⟩
  rcases exists_ok_of_view hview with ⟨u', hu', hsupply⟩
  rw [Option.some.injEq] at hsupply
  have hrun : Command.run w [(⟨200000, 0⟩, .instruction (.settleBuffer Sample.worker))] = .ok v := by
    rw [Command.run, Run.run, bind_eq_ok]
    exact ⟨v, hv, rfl⟩
  have hsame : NotRetroactive ⟨200000, 0⟩ v (.setMainOffer Sample.boss Sample.secondOffer) := by
    have hchanges : Command.IsSettingsChange (.setMainOffer Sample.boss Sample.secondOffer) := trivial
    apply run_notRetroactive _ _ [] _ _ v rfl hrun hchanges
    intro pre suf clock boss offerKey v' hcommands hrun'
    rcases mem_or_last hcommands with hmem | ⟨rfl, hlast⟩
    . simp at hmem
    . cases hlast
      rw [hrun, Except.ok.injEq] at hrun'
      rw [← hrun']
      exact settleBuffer_nothingUnpaid hv
  exact ⟨w, v, ws, wc, wsc, u, u', hw, hv, hsettle, hchange, hchange', hu, hu', hsupply,
    hsame Sample.worker ws wc wsc hsettle hchange hchange' ⟨300000, 0⟩ u u' (by decide) hu hu'⟩

theorem notRetroactive_main_offer
    : ∃ (w : World),
        Command.run Sample.twoOffers Sample.commands = .ok w ∧ w.bufferState.isSome ∧
        w.ControlsOnyc ∧
        ¬ NotRetroactive ⟨200000, 0⟩ w (.setMainOffer Sample.boss Sample.secondOffer) := by
  have hview : (Command.run Sample.twoOffers Sample.commands).toOption.bind (fun w =>
      (settleBuffer ⟨200000, 0⟩ w Sample.worker).toOption.bind fun ws =>
        (setMainOffer w Sample.boss Sample.secondOffer).toOption.bind fun wc =>
          (setMainOffer ws Sample.boss Sample.secondOffer).toOption.bind fun wsc =>
            (settleBuffer ⟨300000, 0⟩ wc Sample.worker).toOption.bind fun u =>
              (settleBuffer ⟨300000, 0⟩ wsc Sample.worker).toOption.bind fun u' =>
                some (w.state.onycMint, w.mints Sample.onyc, w.bufferState.isSome,
                  u.ledger.supply Sample.onyc, u'.ledger.supply Sample.onyc)) =
      some (Sample.onyc, some ⟨9, some .mintAuthority, .splToken, none⟩, true, 100037386544,
        100014367402) := by decide +kernel
  rcases exists_ok_of_view hview with ⟨w, hw, hview⟩
  rcases exists_ok_of_view hview with ⟨ws, hsettle, hview⟩
  rcases exists_ok_of_view hview with ⟨wc, hchange, hview⟩
  rcases exists_ok_of_view hview with ⟨wsc, hchange', hview⟩
  rcases exists_ok_of_view hview with ⟨u, hu, hview⟩
  rcases exists_ok_of_view hview with ⟨u', hu', hfacts⟩
  simp only [Option.some.injEq, Prod.mk.injEq] at hfacts
  rcases hfacts with ⟨honyc, hmint, hbuffer, hsupply, hsupply'⟩
  refine ⟨w, hw, hbuffer, ?_, ?_⟩
  . unfold World.ControlsOnyc
    rw [honyc, hmint]
    exact ⟨_, rfl, rfl⟩
  . intro h
    have hsame := (h Sample.worker ws wc wsc hsettle hchange hchange' ⟨300000, 0⟩ u u' (by decide) hu
      hu').supply
    rw [honyc, hsupply, hsupply'] at hsame
    cases hsame

end Retroactive

end OnreApp
