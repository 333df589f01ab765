import Balii.Lib.Table
import Balii.Lib.Tx
import Balii.Lib.Service
import Balii.Lib.Database
import Balii.Lib.Guarantee
import Balii.Lib.Sql
import Balii.Schema
import Balii.Money
import Balii.Order.Inventory
import Balii.Config
import Balii.Order.Checkout
import Balii.Order.Status
import Balii.Order.Returns
import Balii.Product.Variants
import Balii.Payment.Checkout
import Balii.Payment.Result
import Balii.Payment.Refunds
import Balii.Transactions
import Balii.Calls
import Balii.Order.Service
import Balii.Payment.Webhooks
import Balii.Payment.Service
import Balii.System
import Balii.Footprint
import Balii.Payment.Commits
import Balii.Order.Commits
import Balii.Order.Lifecycle
import Balii.Order.Stock
import Balii.Payment.Changes
import Balii.Payment.SepayTransfers
import Balii.Payment.PaymentCodes
import Balii.Chatbot.Retrieval
import Balii.Market.Deduplication
import Balii.Market.PriceText
import Balii.TryOn.Expiry
import Balii.Payment.Settlement
import Balii.Json
import Balii.Lib.Perform
import Balii.Payment.Ledger
import Balii.Payment.NotFound
import Balii.Payment.RefundChecks
import Balii.Payment.Payouts
import Balii.Payment.Routing
import Balii.Payment.Convergence
import Balii.Payment.WebhookSecurity
import Balii.Lib.Form
import Balii.Payment.VnpaySigning
import Balii.Payment.VnpayUrl
import Balii.Lib.Bpmn
import Balii.Workflow.Processes
import Balii.Lib.Alone
import Balii.Lib.Trace
import Balii.Workflow.Engine
import Balii.Workflow.Gateways
import Balii.Workflow.Tasks
import Balii.Workflow.Outcomes
import Balii.Workflow.Amounts
import Balii.Cart.Merging
import Balii.Cart.Reservations
import Balii.Workflow.ReturnedRows
import Balii.Workflow.RefundIds
import Balii.Workflow.RefundAmounts
import Balii.Workflow.Redelivery
import Balii.Lib.Extend
import Balii.Voucher.Vouchers
import Balii.BackOffice
import Balii.Voucher.Usage
import Balii.Voucher.Accounting
import Balii.Lib.Replay
import Balii.Voucher.Edits
import Balii.Product.Removal
import Balii.Product.Ledger
import Balii.Lib.Sequence
import Balii.Order.Idempotency
import Balii.Payment.Pending
import Balii.Payment.Latest
import Balii.Payment.Audits
import Balii.Voucher.Preview
import Balii.Programs
import Balii.Order.ReturnQuantities
import Balii.Order.LateDispatch
import Balii.Order.Revenue
import Balii.Order.DeadReturns
import Balii.Lib.Atomic
import Balii.Identity.Users
import Balii.Identity.Service
import Balii.Identity.Logs
import Balii.Identity.SuperAdmin
import Balii.Identity.UserRows
import Balii.Identity.Resets
import Balii.Identity.Rotation
import Balii.Identity.Revocation
import Balii.Identity.Addresses
import Balii.Outbox.Events
import Balii.Outbox.Publisher
import Balii.Outbox.Delivery
import Balii.Outbox.Ordering
import Balii.Outbox.Malformed
import Balii.Gateway.Spellings
import Balii.Media.InUse
import Balii.Cart.Clearing
import Balii.Lib.Greedy
import Balii.Cart.Gifts
import Balii.Product.Prices
import Balii.Product.Quotes
import Balii.Order.GiftCombos
import Balii.Order.ReturnAllocations
import Balii.Order.ReturnRefunds
import Balii.Order.FullRefunds
import Balii.Cart.Alone
import Balii.Lib.Upserts
import Balii.Lib.Machine
import Balii.Lib.FixedWindow
import Balii.Lib.Threads
import Balii.Chatbot.Knowledge
import Balii.Chatbot.VectorStore
import Balii.Chatbot.IndexSync
import Balii.Chatbot.Rebuild
import Balii.Chatbot.Hits
import Balii.Chatbot.Answers
import Balii.Gateway.RateLimit
import Balii.Identity.Accounts
import Balii.Identity.Verification
import Balii.Gateway.Guards
import Balii.Gateway.OnBehalf
import Balii.Lib.Provenance
import Balii.Voucher.Offers
