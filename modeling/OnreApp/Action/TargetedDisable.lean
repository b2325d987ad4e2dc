import OnreApp.Action.Privileges
import OnreApp.Offer.Lemmas.Vectors

namespace OnreApp

namespace Sample

def closing : List (Clock × Action) := [
  (⟨1150, 0⟩, .addAdmin boss admin.key),
  (⟨1150, 0⟩, .setOfferDisabled admin offer true)
]

def reopening : List (Clock × Action) := [
  (⟨1160, 0⟩, .depositReserveVault user 5000000000),
  (⟨1170, 0⟩, .setOfferDisabled boss offer false),
  (⟨1200, 0⟩, .instruction purchase)
]

end Sample

open Checked TokenLedger

variable {clock : Clock} {d d' : Deployment} {w w' : World} {action : Action}
  {actions : List (Clock × Action)}

inductive Target where
  | offer (key : Pubkey)
  | redemptionOffer (key : Pubkey)
  deriving DecidableEq

def Target.isDisabled (w : World) : Target → Prop
  | .offer key => w.switches.offers key = some true
  | .redemptionOffer key => w.switches.redemptionOffers key = some true

def Target.enable (boss : Signer) : Target → Action
  | .offer key => .setOfferDisabled boss key false
  | .redemptionOffer key => .setRedemptionOfferDisabled boss key false

def Instruction.targets : Instruction → List Target
  | .takeOfferV2 args _ => [.offer (.offer args.tokenInMint args.tokenOutMint)]
  | .takeOfferPermissionlessV2 args => [.offer (.offer args.tokenInMint args.tokenOutMint)]
  | .openSwapBuy args => [.offer (.offer args.tokenInMint args.tokenOutMint)]
  | .openSwapSell args => [
      .offer (.offer args.tokenOutMint args.tokenInMint),
      .redemptionOffer (.redemptionOffer args.tokenInMint args.tokenOutMint)
    ]
  | .createRedemptionRequest args => [.offer args.offer, .redemptionOffer args.redemptionOffer]
  | .fulfillRedemptionRequest args => [.offer args.offer, .redemptionOffer args.redemptionOffer]
  | _ => []

def Action.targets : Action → List Target
  | .instruction i => i.targets
  | .takeOffer args _ => [.offer (.offer args.tokenInMint args.tokenOutMint)]
  | .takeOfferPermissionless args => [.offer (.offer args.tokenInMint args.tokenOutMint)]
  | _ => []

section Trades

theorem TradesAt.not_isDisabled {key : Pubkey} {offer : Offer} (h : TradesAt w key offer)
    : ¬ (Target.offer key).isDisabled w := by
  simp [Target.isDisabled, World.switches, h.load, h.enabled]

theorem not_isDisabled_redemptionOffer {key : Pubkey} {redemptionOffer : RedemptionOffer}
    (hkey : w.redemptionOffers key = some redemptionOffer)
    (henabled : redemptionOffer.disabled = false)
    : ¬ (Target.redemptionOffer key).isDisabled w := by
  simp [Target.isDisabled, World.switches, hkey, henabled]

theorem redemptionOfferConfig_enabled {offerKey tokenInMint tokenOutMint : Pubkey}
    {config : RedemptionOfferConfig}
    (h : redemptionOfferConfig w offerKey tokenInMint tokenOutMint = .ok config)
    : ¬ (Target.redemptionOffer (.redemptionOffer tokenInMint tokenOutMint)).isDisabled w := by
  cases hkey : w.redemptionOffers (.redemptionOffer tokenInMint tokenOutMint) with
  | none => simp [Target.isDisabled, World.switches, hkey]
  | some redemptionOffer =>
    simp only [redemptionOfferConfig, hkey, loadOptionalCheckedRedemptionOffer, bind_eq_ok,
      pure_eq_ok] at h
    rcases h with ⟨_, ⟨_, _, _, _, _, _, rfl⟩, h⟩
    simp only [RedemptionOffer.requireEnabled, bind_eq_ok, require_eq_ok] at h
    rcases h with ⟨_, henabled, _⟩
    exact not_isDisabled_redemptionOffer hkey henabled

theorem execute_enabled {i : Instruction} (h : execute clock w i = .ok w')
    : ∀ target ∈ i.targets, ¬ target.isDisabled w := by
  cases i with
  | takeOfferV2 args approvalMessage =>
    rcases takeOfferV2_inv h with ⟨_, _, _, _, _, _, _, htrades, _⟩
    simpa [Instruction.targets] using htrades.not_isDisabled
  | takeOfferPermissionlessV2 args =>
    rcases takeOfferPermissionlessV2_inv h with ⟨_, _, _, _, _, _, _, htrades, _⟩
    simpa [Instruction.targets] using htrades.not_isDisabled
  | openSwapBuy args =>
    rcases openSwapBuy_inv h with ⟨_, _, _, _, _, _, _, htrades, _⟩
    simpa [Instruction.targets] using htrades.not_isDisabled
  | openSwapSell args =>
    rcases openSwapSell_inv h with ⟨_, _, _, _, _, _, _, _, _, _, hsale⟩
    simpa [Instruction.targets] using
      ⟨hsale.tradesAt.not_isDisabled, redemptionOfferConfig_enabled hsale.config_eq⟩
  | createRedemptionRequest args =>
    rcases createRedemptionRequest_inv h with ⟨_, _, _, haccepted, _⟩
    simpa [Instruction.targets] using ⟨haccepted.tradesAt.not_isDisabled,
      not_isDisabled_redemptionOffer haccepted.load haccepted.enabled⟩
  | fulfillRedemptionRequest args =>
    rcases fulfillRedemptionRequest_inv h with ⟨_, _, _, _, _, _, hloaded, hfulfillment, _⟩
    have htrades : TradesAt w args.offer _ :=
      ⟨hloaded.offer, hloaded.notKilled, hfulfillment.enabled⟩
    simpa [Instruction.targets] using ⟨htrades.not_isDisabled,
      not_isDisabled_redemptionOffer hloaded.redemptionOffer hloaded.enabled⟩
  | _ => simp [Instruction.targets]

theorem Deployment.perform_enabled (h : d.perform clock action = .ok d')
    : ∀ target ∈ action.targets, ¬ target.isDisabled d.world := by
  cases action with
  | instruction i => exact execute_enabled (perform_instruction_inv h)
  | takeOffer args approvalMessage =>
    simp only [perform, bind_eq_ok] at h
    rcases h with ⟨_, _, h⟩
    rcases inWorld_inv h with ⟨_, htake, _⟩
    rcases takeOffer_inv htake with ⟨_, _, _, _, _, _, hpurchase, _⟩
    simpa [Action.targets] using hpurchase.tradesAt.not_isDisabled
  | takeOfferPermissionless args =>
    simp only [perform, bind_eq_ok] at h
    rcases h with ⟨_, _, h⟩
    rcases inWorld_inv h with ⟨_, htake, _⟩
    rcases takeOfferPermissionless_inv htake with ⟨_, _, _, _, _, _, hpurchase, _⟩
    simpa [Action.targets] using hpurchase.tradesAt.not_isDisabled
  | _ => simp [Action.targets]

end Trades

section Stays

variable {target : Target}

theorem Target.isDisabled_of_switches (h : w'.switches = w.switches)
    (hdisabled : target.isDisabled w)
    : target.isDisabled w' := by
  cases target with
  | offer key =>
    unfold isDisabled
    rw [h]
    exact hdisabled
  | redemptionOffer key =>
    unfold isDisabled
    rw [h]
    exact hdisabled

theorem Target.isDisabled_setOffer {key : Pubkey} {offer : Offer} (hdisabled : target.isDisabled w)
    (hsame : target = .offer key → offer.disabled = true)
    : target.isDisabled (w.setOffer key offer) := by
  cases target with
  | offer k =>
    unfold isDisabled World.switches World.setOffer at *
    by_cases hk : k = key
    . subst hk
      simp [hsame rfl]
    . simpa [hk] using hdisabled
  | redemptionOffer k => exact hdisabled

theorem Target.isDisabled_setRedemptionOffer {key : Pubkey} {redemptionOffer : RedemptionOffer}
    (hdisabled : target.isDisabled w)
    (hsame : target = .redemptionOffer key → redemptionOffer.disabled = true)
    : target.isDisabled (w.setRedemptionOffer key redemptionOffer) := by
  cases target with
  | offer k => exact hdisabled
  | redemptionOffer k =>
    unfold isDisabled World.switches World.setRedemptionOffer at *
    by_cases hk : k = key
    . subst hk
      simp [hsame rfl]
    . simpa [hk] using hdisabled

theorem Target.isDisabled_offer {key : Pubkey} {offer : Offer} (hkey : w.offers key = some offer)
    (hdisabled : (Target.offer key).isDisabled w) : offer.disabled = true := by
  simpa [isDisabled, World.switches, hkey] using hdisabled

theorem Target.isDisabled_redemptionOffer {key : Pubkey} {redemptionOffer : RedemptionOffer}
    (hkey : w.redemptionOffers key = some redemptionOffer)
    (hdisabled : (Target.redemptionOffer key).isDisabled w) : redemptionOffer.disabled = true := by
  simpa [isDisabled, World.switches, hkey] using hdisabled

theorem updateRedemptionOffer_disabled {args : UpdateRedemptionOfferArgs} {bound : Nat}
    {outOfBounds : OnreError} {get : RedemptionOffer → Nat}
    {set : RedemptionOffer → Nat → RedemptionOffer} (hdisabled : target.isDisabled w)
    (h : updateRedemptionOffer w args bound outOfBounds get set = .ok w')
    (hset : ∀ (redemptionOffer : RedemptionOffer) (n : Nat),
      (set redemptionOffer n).disabled = redemptionOffer.disabled)
    : target.isDisabled w' := by
  rcases updateRedemptionOffer_inv h with ⟨_, _, redemptionOffer, hkey, rfl⟩
  apply Target.isDisabled_setRedemptionOffer hdisabled
  rintro rfl
  rw [hset]
  exact Target.isDisabled_redemptionOffer hkey hdisabled

theorem execute_disabled {i : Instruction} (hdisabled : target.isDisabled w)
    (h : execute clock w i = .ok w') : target.isDisabled w' := by
  cases hboss : i.isBossOnly with
  | false => exact Target.isDisabled_of_switches (execute_keeps hboss h).switches hdisabled
  | true =>
    cases i with
    | makeOffer args =>
      rcases executeMakeOffer_inv h with ⟨_, hfree, _, _, rfl⟩
      apply Target.isDisabled_setOffer hdisabled
      rintro rfl
      simp [Target.isDisabled, World.switches, hfree] at hdisabled
    | vectorCall args =>
      rcases executeVectorCall_inv h with ⟨_, offer, offer', hkey, hcall, rfl⟩
      rcases Offer.call_frame hcall with ⟨_, rfl⟩
      apply Target.isDisabled_setOffer hdisabled
      rintro rfl
      have hoffer : offer.disabled = true := Target.isDisabled_offer hkey hdisabled
      exact hoffer
    | configurePropAmm boss assetMint config =>
      rcases configurePropAmm_inv h with ⟨_, _, rfl⟩
      exact Target.isDisabled_of_switches rfl hdisabled
    | makeRedemptionOffer args =>
      rcases makeRedemptionOffer_inv h with ⟨haccepted, rfl⟩
      apply Target.isDisabled_setRedemptionOffer hdisabled
      rintro rfl
      simp [Target.isDisabled, World.switches, haccepted.free] at hdisabled
    | updateRedemptionOfferFee args =>
      unfold execute updateRedemptionOfferFee at h
      exact updateRedemptionOffer_disabled hdisabled h fun _ _ => rfl
    | updateRedemptionOfferPropAmmSellFee args =>
      unfold execute updateRedemptionOfferPropAmmSellFee at h
      exact updateRedemptionOffer_disabled hdisabled h fun _ _ => rfl
    | updateRedemptionOfferVaultTarget args =>
      unfold execute updateRedemptionOfferVaultTarget at h
      exact updateRedemptionOffer_disabled hdisabled h fun _ _ => rfl
    | redemptionVaultWithdraw args =>
      rcases redemptionVaultWithdraw_inv h with ⟨_, _, _, _, rfl⟩
      exact Target.isDisabled_of_switches rfl hdisabled
    | initializeBuffer boss =>
      rcases initializeBuffer_inv h with ⟨_, _, _, _, rfl⟩
      exact Target.isDisabled_of_switches rfl hdisabled
    | mintTo boss amount =>
      rcases mintTo_inv h with ⟨_, _, _, _, _, _, hmarket, _⟩
      exact Target.isDisabled_of_switches hmarket.switches hdisabled
    | setBufferGrossApr boss grossYield =>
      rcases setBufferGrossApr_inv h with ⟨_, _, _, _, _, hmarket, _⟩
      exact Target.isDisabled_of_switches hmarket.switches hdisabled
    | setBufferFeeConfig boss config =>
      rcases setBufferFeeConfig_inv h with ⟨_, _, _, _, _, hmarket, _⟩
      exact Target.isDisabled_of_switches hmarket.switches hdisabled
    | burnForNavIncrease boss assetAdjustmentAmount =>
      rcases burnForNavIncrease_inv h with ⟨_, _, _, _, _, _, _, _, _, _, hmarket, _⟩
      exact Target.isDisabled_of_switches hmarket.switches hdisabled
    | _ => cases hboss

namespace Deployment

theorem Effect.disabled (hdisabled : target.isDisabled d.world) (h : Effect clock d action d')
    : target.isDisabled d'.world ∨
      ∃ (boss : Signer), action = target.enable boss ∧ boss.key = d.boss := by
  cases h with
  | instruction _ hexecute => exact .inl (execute_disabled hdisabled hexecute)
  | offer _ _ hkey hsame =>
    refine .inl (Target.isDisabled_setOffer hdisabled ?_)
    rintro rfl
    rw [hsame]
    exact Target.isDisabled_offer hkey hdisabled
  | @disableOffer signer key offer disabled hkey _ henable =>
    cases disabled with
    | true => exact .inl (Target.isDisabled_setOffer hdisabled fun _ => rfl)
    | false =>
      by_cases htarget : target = .offer key
      . subst htarget
        exact .inr ⟨signer, rfl, henable rfl⟩
      . exact .inl (Target.isDisabled_setOffer hdisabled fun heq => absurd heq htarget)
  | @disableRedemptionOffer signer key redemptionOffer disabled hkey _ henable =>
    cases disabled with
    | true => exact .inl (Target.isDisabled_setRedemptionOffer hdisabled fun _ => rfl)
    | false =>
      by_cases htarget : target = .redemptionOffer key
      . subst htarget
        exact .inr ⟨signer, rfl, henable rfl⟩
      . exact .inl (Target.isDisabled_setRedemptionOffer hdisabled fun heq => absurd heq htarget)
  | killSwitch =>
    left
    cases target <;> exact hdisabled
  | state =>
    left
    cases target <;> exact hdisabled
  | accept =>
    left
    cases target <;> exact hdisabled
  | tokens => exact .inl (Target.isDisabled_of_switches rfl hdisabled)
  | propose => exact .inl hdisabled
  | admins => exact .inl hdisabled
  | approvers => exact .inl hdisabled
  | close => exact .inl hdisabled
  | destination => exact .inl hdisabled
  | authority => exact .inl (Target.isDisabled_of_switches rfl hdisabled)
  | excludedAccounts => exact .inl hdisabled
  | stats => exact .inl (Target.isDisabled_of_switches rfl hdisabled)

theorem perform_disabled (hdisabled : target.isDisabled d.world)
    (h : d.perform clock action = .ok d')
    : target.isDisabled d'.world ∨
      ∃ (boss : Signer), action = target.enable boss ∧ boss.key = d.boss := by
  rcases perform_inv h with ⟨_, heffect⟩ | ⟨_, _⟩
  . exact heffect.disabled hdisabled
  . left
    cases target <;> exact hdisabled

theorem run_disabled_target {before after : List (Clock × Action)} {trade : Clock × Action}
    (hdisabled : target.isDisabled d.world) (htrade : target ∈ trade.2.targets)
    (h : d.run (before ++ trade :: after) = .ok d')
    : ∃ (earlier : List (Clock × Action)) (enable : Clock × Action)
        (later : List (Clock × Action)) (d₁ : Deployment) (boss : Signer),
        before = earlier ++ enable :: later ∧ d.run earlier = .ok d₁ ∧
        target.isDisabled d₁.world ∧ enable.2 = target.enable boss ∧ boss.key = d₁.boss := by
  rcases Run.run_append_inv h with ⟨d₂, hbefore, hrest⟩
  have hcases := Run.kept_or_broken (fun d => target.isDisabled d.world) (fun _ _ => True)
    (fun d call => ∃ (boss : Signer), call.2 = target.enable boss ∧ boss.key = d.boss)
    (fun _ => trivial) (fun _ _ _ _ _ => trivial)
    (fun _ _ _ hoff hstep => (perform_disabled hoff hstep).imp_left fun hkept => ⟨hkept, trivial⟩)
    hdisabled hbefore
  rcases hcases with ⟨hstill, _⟩ | ⟨earlier, enable, later, d₁, hsplit, hrun, hoff, _, boss, hboss⟩
  . rcases Run.run_cons_eq_ok.mp hrest with ⟨_, hstep, _⟩
    exact absurd hstill (perform_enabled hstep target htrade)
  . exact ⟨earlier, enable, later, d₁, boss, hsplit, hrun, hoff, hboss⟩

theorem run_disabled_target_enabled
    : ∃ (d d' : Deployment),
        (Target.offer Sample.offer).isDisabled d.world ∧ d.run Sample.reopening = .ok d' ∧
        ∃ (earlier : List (Clock × Action)) (enable : Clock × Action)
          (later : List (Clock × Action)) (d₁ : Deployment) (boss : Signer),
          Sample.reopening.take 2 = earlier ++ enable :: later ∧ d.run earlier = .ok d₁ ∧
          enable.2 = (Target.offer Sample.offer).enable boss ∧ boss.key = d₁.boss := by
  have hview : ((Sample.deployment.run (Sample.market ++ Sample.closing)).toOption.bind fun d =>
      (d.run Sample.reopening).toOption.bind fun _ =>
        some (d.world.switches.offers Sample.offer)) = some (some true) := by decide +kernel
  rcases exists_ok_of_view hview with ⟨d, _, hview⟩
  rcases exists_ok_of_view hview with ⟨d', hrun, hfacts⟩
  rw [Option.some.injEq] at hfacts
  have hdisabled : (Target.offer Sample.offer).isDisabled d.world := hfacts
  have hparts : d.run (Sample.reopening.take 2 ++ [(⟨1200, 0⟩, .instruction Sample.purchase)])
      = .ok d' := hrun
  have hfound := run_disabled_target hdisabled (List.mem_singleton.mpr rfl) hparts
  rcases hfound with ⟨earlier, enable, later, d₁, boss, hsplit, hearlier, _, henable, hboss⟩
  exact ⟨d, d', hdisabled, hrun, earlier, enable, later, d₁, boss, hsplit, hearlier, henable, hboss⟩

end Deployment

end Stays

end OnreApp
