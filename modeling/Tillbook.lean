import Tillbook.Main
import Tillbook.Tax.Submission
import Tillbook.Wire.Reply
import Tillbook.Wire.Tax
import Tillbook.Proofs.Actions
import Tillbook.Proofs.Tables
import Tillbook.Proofs.Writes
import Tillbook.Proofs.ReceiptWrites
import Tillbook.Proofs.Commits
import Tillbook.Proofs.Effects
import Tillbook.Proofs.Histories
import Tillbook.Proofs.Balances
import Tillbook.Proofs.Numbering
import Tillbook.Proofs.Stocks
import Tillbook.Proofs.Replays
import Tillbook.Proofs.TenderLines
import Tillbook.Proofs.Shifts
import Tillbook.Proofs.StoredPayments
import Tillbook.Proofs.ShiftTotals
import Tillbook.Proofs.Takings
import Tillbook.Proofs.Reconciliations
import Tillbook.Proofs.Atomicity
import Tillbook.Proofs.Products
import Tillbook.Proofs.CommitChecks
import Tillbook.Proofs.CommitFaults
import Tillbook.Proofs.ReceiptTables
import Tillbook.Proofs.StoredReceipts
import Tillbook.Proofs.PaymentEnds
import Tillbook.Proofs.WellFormedReceipts
import Tillbook.Proofs.OpenShifts
import Tillbook.Proofs.Oversold
import Tillbook.Proofs.Deliveries
import Tillbook.Proofs.Edits
import Tillbook.Proofs.JsonTexts
import Tillbook.Proofs.WireRoundTrips
import Tillbook.Proofs.Submissions
import Tillbook.Proofs.Orders
import Tillbook.Proofs.Alerts
import Tillbook.Proofs.PendingPayments
import Tillbook.Proofs.Repayments
import Tillbook.Proofs.Invoices
import Tillbook.Proofs.Limits
import Tillbook.Proofs.Adjustments
import Tillbook.Proofs.CommitChanges
import Tillbook.Proofs.Returns
import Tillbook.Proofs.Reversals
import Tillbook.Proofs.Rounding
import Tillbook.Proofs.Taxes
import Tillbook.Proofs.Requests
import Tillbook.Proofs.AmountTexts
import Tillbook.Proofs.GroupedLines
