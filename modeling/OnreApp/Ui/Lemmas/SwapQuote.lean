import OnreApp.Program
import OnreApp.PropAmm.Lemmas.Pricing
import OnreApp.Redemption.Lemmas.Pricing
import OnreApp.Ui.Lemmas.AccountDecoders

namespace OnreApp.Ui

open Checked LittleEndian

variable {address : Pubkey → PubkeyBytes} {clock : Clock} {w : World} {args : QuoteSwapArgs}
  {quote : SwapQuote}

/-- A quote as the command line shows it. A time before 1970 would appear 2 ^ 64 seconds later. -/
def shownQuote (address : Pubkey → PubkeyBytes) (quote : SwapQuote) : SwapQuoteResult where
  offer := address quote.offer
  tokenInMint := address quote.tokenInMint
  tokenOutMint := address quote.tokenOutMint
  tokenInAmount := quote.tokenInAmount
  tokenInNetAmount := quote.tokenInNetAmount
  tokenInFeeAmount := quote.tokenInFeeAmount
  tokenOutAmount := quote.tokenOutAmount
  minimumOut := quote.minimumOut
  currentPrice := quote.currentPrice
  quotedAt := (quote.quotedAt % 2 ^ 64).toNat

structure FitsU64 (quote : SwapQuote) : Prop where
  tokenInAmount : quote.tokenInAmount ≤ u64Max
  tokenInNetAmount : quote.tokenInNetAmount ≤ u64Max
  tokenInFeeAmount : quote.tokenInFeeAmount ≤ u64Max
  tokenOutAmount : quote.tokenOutAmount ≤ u64Max
  minimumOut : quote.minimumOut ≤ u64Max
  currentPrice : quote.currentPrice ≤ u64Max

theorem decodeSwapQuote_fields {quote : SwapQuote} (h : FitsU64 quote) (rest : Buffer)
    : decodeSwapQuote (Layout.bytes (quote.fields address) ++ rest)
        = .ok (shownQuote address quote) := by
  have hlength : swapQuoteResultSize
      ≤ (Layout.bytes (quote.fields address) ++ rest).length := by
    simp [Layout.length_bytes, SwapQuote.fields, swapQuoteResultSize]
  have hfits : ∀ {n : Nat}, n ≤ u64Max → n < 2 ^ 64 := by
    intro n hn
    unfold u64Max at hn
    omega
  have htime : (quote.quotedAt % 2 ^ 64).toNat < 2 ^ 64 := by omega
  unfold decodeSwapQuote readPubkey readBn
  dsimp only
  rw [if_neg (Nat.not_lt.mpr hlength),
    publicKeyAt_field (i := 0) rfl (by simp [Layout.offset, SwapQuote.fields]) rest,
    publicKeyAt_field (i := 1) rfl (by simp [Layout.offset, SwapQuote.fields]) rest,
    publicKeyAt_field (i := 2) rfl (by simp [Layout.offset, SwapQuote.fields]) rest,
    readU64_field (i := 3) rfl (by simp [Layout.offset, SwapQuote.fields]) (hfits h.tokenInAmount)
      rest,
    readU64_field (i := 4) rfl (by simp [Layout.offset, SwapQuote.fields])
      (hfits h.tokenInNetAmount) rest,
    readU64_field (i := 5) rfl (by simp [Layout.offset, SwapQuote.fields])
      (hfits h.tokenInFeeAmount) rest,
    readU64_field (i := 6) rfl (by simp [Layout.offset, SwapQuote.fields]) (hfits h.tokenOutAmount)
      rest,
    readU64_field (i := 7) rfl (by simp [Layout.offset, SwapQuote.fields]) (hfits h.minimumOut)
      rest,
    readU64_field (i := 8) rfl (by simp [Layout.offset, SwapQuote.fields]) (hfits h.currentPrice)
      rest,
    readU64_field (i := 9) rfl (by simp [Layout.offset, SwapQuote.fields]) htime rest]
  rfl

def PricesFit (offer : Offer) : Prop :=
  ∀ vector ∈ offer.vectors.toList, vector.basePrice ≤ u64Max

theorem calculateVectorPrice_le {apr basePrice elapsedTime price : Nat} (hbase : basePrice ≤ u64Max)
    (h : calculateVectorPrice apr basePrice elapsedTime = .ok price) : price ≤ u64Max := by
  unfold calculateVectorPrice at h
  split at h
  . cases h
    exact hbase
  . simp only [bind_eq_ok] at h
    rcases h with ⟨_, _, _, _, _, _, h⟩
    split at h
    . simp only [bind_eq_ok, require_eq_ok, pure_eq_ok] at h
      rcases h with ⟨_, hle, rfl⟩
      exact hle
    . simp only [bind_eq_ok, require_eq_ok, pure_eq_ok] at h
      rcases h with ⟨_, _, _, _, _, _, _, _, _, hle, rfl⟩
      exact hle

theorem computeOfferCurrentPrice_le {offer : Offer} {time price : Nat} (hfit : PricesFit offer)
    (h : computeOfferCurrentPrice offer time = .ok price) : price ≤ u64Max := by
  simp only [computeOfferCurrentPrice, getActiveVectorAndCurrentPrice, findActiveVectorAt,
    calculateStepPriceAt, bind_eq_ok, okOr_eq_ok, pure_eq_ok] at h
  rcases h with ⟨_, ⟨vector, hvector, _, ⟨_, _, _, _, _, _, _, _, hprice⟩, rfl⟩, rfl⟩
  have hmem := List.mem_of_mem_filter (MaxByKey.mem_of_maxByKey hvector)
  exact calculateVectorPrice_le (hfit vector hmem) hprice

theorem quoteSwapBuy_fits (hamount : args.tokenInAmount ≤ u64Max)
    (hfit : ∀ offer ∈ w.offers args.offer, PricesFit offer)
    (h : quoteSwapBuy clock w args = .ok quote)
    : FitsU64 quote ∧ quote.quotedAt = clock.unixTimestamp := by
  simp only [quoteSwapBuy, buildSwapBuyQuote, bind_eq_ok, pure_eq_ok, World.load_eq_ok] at h
  rcases h with ⟨_, _, _, _, _, _, _, _, offer, hoffer, _, _, _, _, _, _, result, hresult, rfl⟩
  rcases processOfferCore_inv hresult with ⟨hprice, _, hfees, _⟩
  have hsplit := (calculateFees_inv hfees).2
  have hout : result.tokenOutAmount ≤ u64Max := by
    simp only [processOfferCore, processOfferCoreAt, calculateTokenOutAmount, bind_eq_ok,
      require_eq_ok, pure_eq_ok] at hresult
    rcases hresult with ⟨_, _, _, _, _, _, _, _, _, _, _, hout, rfl⟩
    rcases hout with ⟨_, _, _, _, _, _, _, _, _, _, _, _, _, _, _, hle, _, _, rfl⟩
    exact hle
  dsimp only at hsplit
  refine ⟨?_, rfl⟩
  constructor
  . exact hamount
  . dsimp only
    omega
  . dsimp only
    omega
  . exact hout
  . exact hout
  . exact computeOfferCurrentPrice_le (hfit offer hoffer) hprice

theorem quoteSwapSell_fits (hamount : args.tokenInAmount ≤ u64Max)
    (hfit : ∀ offer ∈ w.offers args.offer, PricesFit offer)
    (h : quoteSwapSell clock w args = .ok quote)
    : FitsU64 quote ∧ quote.quotedAt = clock.unixTimestamp := by
  simp only [quoteSwapSell, buildSwapSellQuote, bind_eq_ok, pure_eq_ok, World.load_eq_ok] at h
  rcases h with ⟨_, _, _, _, _, _, _, _, offer, hoffer, _, _, _, _, _, _, _, _, result, hresult, h⟩
  rcases h with ⟨tokenOutAmount, hcurve, rfl⟩
  rcases processRedemptionCore_inv hresult with ⟨hprice, hfees, _⟩
  have hsplit := calculateFeesWithMinimum_add hfees
  have hraw : result.tokenOutAmount ≤ u64Max := by
    simp only [processRedemptionCore, bind_eq_ok, require_eq_ok, pure_eq_ok] at hresult
    rcases hresult with ⟨_, _, _, _, _, _, _, _, _, _, _, _, _, _, _, hle, _, _, rfl⟩
    exact hle
  have hout : tokenOutAmount ≤ u64Max :=
    Nat.le_trans (applyHardWallLiquidityFactorAtTime_le_raw hcurve) hraw
  dsimp only at hsplit
  refine ⟨?_, rfl⟩
  constructor
  . exact hamount
  . dsimp only
    omega
  . dsimp only
    omega
  . exact hout
  . exact hout
  . exact computeOfferCurrentPrice_le (hfit offer hoffer) hprice

theorem decodeSwapQuote_quote (hamount : args.tokenInAmount ≤ u64Max)
    (hfit : ∀ offer ∈ w.offers args.offer, PricesFit offer) (hfrom : 0 ≤ clock.unixTimestamp)
    (hto : clock.unixTimestamp ≤ i64Max)
    (h : quoteSwapBuy clock w args = .ok quote ∨ quoteSwapSell clock w args = .ok quote)
    (rest : Buffer)
    : decodeSwapQuote (Layout.bytes (quote.fields address) ++ rest)
        = .ok { shownQuote address quote with quotedAt := clock.unixTimestamp.toNat } := by
  have hquote : FitsU64 quote ∧ quote.quotedAt = clock.unixTimestamp := by
    rcases h with hbuy | hsell
    . exact quoteSwapBuy_fits hamount hfit hbuy
    . exact quoteSwapSell_fits hamount hfit hsell
  have htime : clock.unixTimestamp % 2 ^ 64 = clock.unixTimestamp := by
    unfold i64Max at hto
    omega
  rw [decodeSwapQuote_fields hquote.1]
  simp only [shownQuote, hquote.2, htime]

theorem decodeSwapQuote_quote_sell
    : ∃ (w : World) (quote : SwapQuote) (result : SwapQuoteResult),
        quoteSwapSell ⟨200000, 0⟩ w ⟨Sample.offer, Sample.onyc, Sample.usdc, 20000000000⟩
          = .ok quote ∧
        decodeSwapQuote (Layout.bytes (quote.fields fun _ => .default) ++ []) = .ok result ∧
        result.minimumOut = 14986850 ∧ result.quotedAt = 200000 := by
  have hview : (runCalls Sample.world (Sample.launch ++ Sample.swaps)).toOption.bind (fun w =>
      (w.offers Sample.offer).bind fun offer =>
      (quoteSwapSell ⟨200000, 0⟩ w
        ⟨Sample.offer, Sample.onyc, Sample.usdc, 20000000000⟩).toOption.bind fun quote =>
          some (quote.minimumOut, offer.vectors.toList.all fun v => v.basePrice ≤ u64Max)) =
      some (14986850, true) := by decide +kernel
  rcases exists_ok_of_view hview with ⟨w, _, hview⟩
  rcases Option.bind_eq_some_iff.mp hview with ⟨offer, hoffer, hview⟩
  rcases exists_ok_of_view hview with ⟨quote, hquote, hfacts⟩
  simp only [Option.some.injEq, Prod.mk.injEq, List.all_eq_true, decide_eq_true_eq] at hfacts
  have hfit : ∀ offer ∈ w.offers Sample.offer, PricesFit offer := by
    intro offer' hoffer'
    rw [hoffer, Option.mem_def, Option.some.injEq] at hoffer'
    rw [← hoffer']
    exact hfacts.2
  have hdecoded := @decodeSwapQuote_quote (fun _ => .default) _ _ _ _ (by decide) hfit (by decide)
    (by decide) (.inr hquote) []
  exact ⟨w, quote, _, hquote, hdecoded, hfacts.1, rfl⟩

end OnreApp.Ui
