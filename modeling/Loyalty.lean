import Loyalty.Accrual.Answer
import Loyalty.Accrual.Breaker
import Loyalty.Accrual.Client
import Loyalty.Amount
import Loyalty.Binary64.Digits
import Loyalty.CommandLine.Grammar
import Loyalty.CommandLine.Outcome
import Loyalty.CommandLine.Run
import Loyalty.Decimal.Basic
import Loyalty.Decimal.Cents
import Loyalty.Decimal.Text
import Loyalty.Failure
import Loyalty.Http.Answer
import Loyalty.Http.Routes
import Loyalty.Json.Basic
import Loyalty.Json.Decode
import Loyalty.Json.Number
import Loyalty.Json.Reader
import Loyalty.Json.Writer
import Loyalty.Ledger.Kind
import Loyalty.Main
import Loyalty.Order.Status
import Loyalty.OrderNumber
import Loyalty.Pipeline.Gate
import Loyalty.Pipeline.Machine
import Loyalty.Pipeline.Run
import Loyalty.Pipeline.Site
import Loyalty.Pipeline.Work
import Loyalty.Proofs.Accrual.Accounting
import Loyalty.Proofs.Accrual.Circuit
import Loyalty.Proofs.CommandLine.Withdrawal
import Loyalty.Proofs.Decimal.Cents
import Loyalty.Proofs.Decimal.Reading
import Loyalty.Proofs.Decimal.Rounding
import Loyalty.Proofs.Json.Reading
import Loyalty.Proofs.Json.Record
import Loyalty.Proofs.Ledger.Agreement
import Loyalty.Proofs.Ledger.AnyOrder
import Loyalty.Proofs.Ledger.Constraints
import Loyalty.Proofs.Ledger.Credit
import Loyalty.Proofs.Ledger.Permanence
import Loyalty.Proofs.Ledger.Registration
import Loyalty.Proofs.Ledger.Schema
import Loyalty.Proofs.Ledger.Settlement
import Loyalty.Proofs.Ledger.Settling
import Loyalty.Proofs.Ledger.Withdrawal
import Loyalty.Proofs.OrderNumber.Luhn
import Loyalty.Proofs.Pipeline.Backoff
import Loyalty.Proofs.Pipeline.Batches
import Loyalty.Proofs.Pipeline.Conservation
import Loyalty.Proofs.Pipeline.Course
import Loyalty.Proofs.Pipeline.Deadlines
import Loyalty.Proofs.Pipeline.Feed
import Loyalty.Proofs.Pipeline.Grounds
import Loyalty.Proofs.Pipeline.Isolation
import Loyalty.Proofs.Pipeline.Lifecycle
import Loyalty.Proofs.Pipeline.Move
import Loyalty.Proofs.Pipeline.Pace
import Loyalty.Proofs.Pipeline.Rest
import Loyalty.Proofs.Pipeline.Schedule
import Loyalty.Proofs.Pipeline.Shutdown
import Loyalty.Proofs.Pipeline.Step
import Loyalty.Proofs.Pipeline.Traffic
import Loyalty.Proofs.Service.Atomicity
import Loyalty.Proofs.Service.Change
import Loyalty.Proofs.Service.Effect
import Loyalty.Proofs.Service.History
import Loyalty.Proofs.Settings.Masking
import Loyalty.Proofs.Settings.Normalizing
import Loyalty.Proofs.Store.Completion
import Loyalty.Proofs.Store.Posting
import Loyalty.Proofs.Store.Refusal
import Loyalty.Proofs.Store.Rows
import Loyalty.Proofs.Store.Statement
import Loyalty.Proofs.Store.Transaction
import Loyalty.Proofs.Url.Domain
import Loyalty.Proofs.Url.Origin
import Loyalty.Proofs.Wire.OrderAccrual
import Loyalty.Records
import Loyalty.Service
import Loyalty.Settings.Basic
import Loyalty.Settings.Environment
import Loyalty.Settings.Show
import Loyalty.Startup.Check
import Loyalty.Startup.Report
import Loyalty.Store.Address
import Loyalty.Store.Ledger
import Loyalty.Store.Migrations
import Loyalty.Store.Orders
import Loyalty.Store.Session
import Loyalty.Store.Statement
import Loyalty.Store.Tables
import Loyalty.Text.Basic
import Loyalty.Text.Blank
import Loyalty.Text.CombiningClass
import Loyalty.Text.Composed
import Loyalty.Text.Composition
import Loyalty.Text.Direction
import Loyalty.Text.Joining
import Loyalty.Text.Marks
import Loyalty.Text.Quoted
import Loyalty.Text.Raw
import Loyalty.Text.Unassigned
import Loyalty.Text.Utf8
import Loyalty.Timestamp.Basic
import Loyalty.Timestamp.Text
import Loyalty.Url.Basic
import Loyalty.Url.Domain
import Loyalty.Url.DomainLetters
import Loyalty.Url.Host
import Loyalty.Url.Parse
import Loyalty.Url.Punycode
import Loyalty.Uuid
import Loyalty.Whole
import Loyalty.Wire.OrderAccrual
import Loyalty.Wire.Parts
import Loyalty.Wire.Problem
import Loyalty.Wire.Records
