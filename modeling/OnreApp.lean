import OnreApp.Utils.Impl.TokenUtils
import OnreApp.PropAmm.Impl.Pricing
import OnreApp.Lib.Rounding
import OnreApp.PropAmm.Lemmas.HardWallMath
import OnreApp.PropAmm.Lemmas.Pricing
import OnreApp.PropAmm.Lemmas.VolumeTracker
import OnreApp.Lib.MaxByKey
import OnreApp.Lib.Run
import OnreApp.Lib.Timeline
import OnreApp.Offer.Impl.OfferState
import OnreApp.Offer.Impl.OfferUtils
import OnreApp.Offer.Impl.Vectors
import OnreApp.Offer.Lemmas.Vectors
import OnreApp.Offer.Lemmas.Eviction
import OnreApp.MarketInfo.Impl.Valuation
import OnreApp.MarketInfo.Lemmas.Valuation
import OnreApp.Redemption.Impl.RedemptionUtils
import OnreApp.Utils.Lemmas.Fees
import OnreApp.Redemption.Lemmas.Pricing
import OnreApp.Redemption.Lemmas.RoundTrip
import OnreApp.Redemption.Lemmas.Splitting
import OnreApp.Buffer.Impl.AccrualUtils
import OnreApp.Buffer.Lemmas.AccrualUtils
import OnreApp.Lib.LedgerTrace
import OnreApp.Lib.Table
import OnreApp.Redemption.Impl.RedemptionOfferState
import OnreApp.Buffer.Impl.AccrueBuffer
import OnreApp.Redemption.Impl.Requests
import OnreApp.Offer.Impl.TakeOffer
import OnreApp.PropAmm.Impl.Swap
import OnreApp.Buffer.Impl.Supply
import OnreApp.Program
import OnreApp.Buffer.Lemmas.AccrueBuffer
import OnreApp.World.Lemmas
import OnreApp.Buffer.Lemmas.Supply
import OnreApp.Offer.Lemmas.TakeOffer
import OnreApp.Redemption.Lemmas.RedemptionOps
import OnreApp.PropAmm.Lemmas.Swap
import OnreApp.Redemption.Lemmas.Requests
import OnreApp.Redemption.Lemmas.Book
import OnreApp.Program.Lemmas
import OnreApp.Redemption.Lemmas.Accounting
import OnreApp.Redemption.Lemmas.Custody
import OnreApp.Program.Supply
import OnreApp.Program.MarketStats
import OnreApp.PropAmm.Impl.Quote
import OnreApp.PropAmm.Lemmas.SellPressure
import OnreApp.PropAmm.Lemmas.Quote
import OnreApp.Program.Routing
import OnreApp.Program.Ordering
import OnreApp.Program.Settings
import OnreApp.Program.Watermark
import OnreApp.Lib.FixedPoint
import OnreApp.Offer.Lemmas.VectorPrice
import OnreApp.Buffer.Lemmas.BurnAmount
import OnreApp.Buffer.Lemmas.AccrualTotal
import OnreApp.Program.Fees
import OnreApp.MarketInfo.Lemmas.NextPriceChange
import OnreApp.Lib.LittleEndian
import OnreApp.Utils.Impl.Approver
import OnreApp.Lib.Double
import OnreApp.Lib.Utf16
import OnreApp.MarketInfo.Lemmas.Apy
import OnreApp.Ui.Impl.JsValue
import OnreApp.Ui.Impl.IdlCodec
import OnreApp.Ui.Lemmas.JsValue
import OnreApp.Ui.Lemmas.IdlInteger
import OnreApp.Ui.Lemmas.IdlCodec
import OnreApp.Lib.Flagged
import OnreApp.PropAmm.Impl.FlaggedCurve
import OnreApp.PropAmm.Lemmas.BuyQuote
import OnreApp.PropAmm.Lemmas.FlaggedCurve
import OnreApp.PropAmm.Lemmas.SellCurve
import OnreApp.Lib.FlooredSeries
import OnreApp.PropAmm.Lemmas.PowerApprox
import OnreApp.Lib.Slots
import OnreApp.Deployment
import OnreApp.Deployment.Layout
import OnreApp.StateOperations.Impl.StateOperations
import OnreApp.VaultOperations.Impl.VaultOperations
import OnreApp.MarketInfo.Impl.Views
import OnreApp.Offer.Impl.TakeOfferV1
import OnreApp.Action
import OnreApp.Action.CirculatingSupply
import OnreApp.Action.Clients
import OnreApp.Action.Custody
import OnreApp.Action.Effect
import OnreApp.Action.Exit
import OnreApp.Action.Flow
import OnreApp.Action.Governance
import OnreApp.Action.Privileges
import OnreApp.Action.Quote
import OnreApp.Action.Records
import OnreApp.Action.Spending
import OnreApp.Action.TargetedDisable
import OnreApp.Action.Versions
import OnreApp.Action.Views
import OnreApp.Lib.Layout
import OnreApp.Lib.LedgerPolicy
import OnreApp.Program.Guards
import OnreApp.Ui.Impl.AccountDecoders
import OnreApp.Ui.Lemmas.AccountDecoders
import OnreApp.Ui.Lemmas.SwapQuote
