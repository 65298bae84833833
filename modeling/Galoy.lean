import Galoy.Shared.Amount
import Galoy.Ledger.Medici
import Galoy.Ledger.EntryBuilder
import Galoy.Ledger.EntryBalance
import Galoy.Ledger.Transaction
import Galoy.Lib.SortDesc
import Galoy.Ledger.LnPaymentState
import Galoy.Payments.PriceRatio
import Galoy.Payments.LnFees
import Galoy.Lib.Except
import Galoy.Payments.PaymentFlow
import Galoy.Payments.FlowBuilder
import Galoy.Payments.FlowBuilderSpec
import Galoy.Payments.LnSendLedger
import Galoy.Lib.Transition
import Galoy.Payments.LockedSend
import Galoy.Accounts.LimitsVolume
import Galoy.Payments.LimitedSend
import Galoy.Voucher.WithdrawLink
import Galoy.Wallets.InvoiceCredit
import Galoy.Wallets.WithdrawalFee
import Galoy.Ledger.FeeReimbursement
import Galoy.EsEntity.Events
import Galoy.Notifications.UserSettings
import Galoy.Notifications.History
import Galoy.Notifications.SettingsRepo
import Galoy.Authorization.ScopeMiddleware
import Galoy.Authorization.ApiKeys
import Galoy.Quiz.Domain
import Galoy.Quiz.Claim
import Galoy.Payments.OnChainFlowBuilder
import Galoy.Payments.OnChainFlowBuilderSpec
import Galoy.EsEntity.Persist
import Galoy.Lib.Dict
import Galoy.Bitcoin.IncomingTxHandler
import Galoy.Payments.PendingLnPayment
import Galoy.Payments.PendingLnPaymentSpec
import Galoy.Lib.JobChain
import Galoy.Lib.Keyset
import Galoy.Notifications.EventDispatch
import Galoy.Notifications.EmailReminder
import Galoy.Notifications.PriceChanged
import Galoy.Jobs.JobExecutor
import Galoy.Wallets.InvoiceReceive
import Galoy.Wallets.OnChainReceipt
import Galoy.Bria.EventSubscriber
