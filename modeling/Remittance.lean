import Remittance.Text.Blank
import Remittance.Text.Hidden
import Remittance.Text.Quoted
import Remittance.Text.Utf8
import Remittance.Decimal.Basic
import Remittance.Decimal.Arithmetic
import Remittance.Decimal.Printer
import Remittance.Decimal.Reader
import Remittance.Json.Basic
import Remittance.Json.Fault
import Remittance.Json.Reading
import Remittance.Json.Number
import Remittance.Json.FloatingPoint
import Remittance.Json.Text
import Remittance.Json.Word
import Remittance.Json.Scalar
import Remittance.Json.Skip
import Remittance.Json.Container
import Remittance.Json.Record
import Remittance.Json.Tree
import Remittance.Json.Unsigned
import Remittance.Json.Lookup
import Remittance.Json.Printer
import Remittance.Decimal.Encoding
import Remittance.Csv.Row
import Remittance.FieldError
import Remittance.Account
import Remittance.Date
import Remittance.TransferOrder
import Remittance.Instruction.Fault
import Remittance.Instruction.Word
import Remittance.Instruction.Sentence
import Remittance.Instruction.Legs
import Remittance.Instruction
import Remittance.Parties
import Remittance.Rules
import Remittance.Settlement
import Remittance.Envelope
import Remittance.Envelope.Encoding
import Remittance.Envelope.Decoding
import Remittance.Desk
import Remittance.AccountEntry
import Remittance.Request
import Remittance.Request.Encoding
import Remittance.Reply
import Remittance.FileContent
import Remittance.AccountRecord
import Remittance.AccountTable
import Remittance.InputError
import Remittance.RequestLines
import Remittance.Run
import Remittance.Run.Batches
import Remittance.CommandLine
import Remittance.Main
import Remittance.Proofs.Text.Cut
import Remittance.Proofs.Text.Spacing
import Remittance.Proofs.Text.Utf8
import Remittance.Proofs.Text.Decoding
import Remittance.Proofs.Decimal.Value
import Remittance.Proofs.Decimal.Rounding
import Remittance.Proofs.Decimal.Monotone
import Remittance.Proofs.Decimal.Reading
import Remittance.Proofs.Decimal.Spelling
import Remittance.Proofs.Decimal.PlainNumber
import Remittance.Proofs.Decimal.Accuracy
import Remittance.Proofs.Decimal.Printing
import Remittance.Proofs.Json.Reading
import Remittance.Proofs.Json.Number
import Remittance.Proofs.Json.NumberText
import Remittance.Proofs.Json.Text
import Remittance.Proofs.Json.StringText
import Remittance.Proofs.Json.Container
import Remittance.Proofs.Json.Tree
import Remittance.Proofs.Json.Record
import Remittance.Proofs.Json.Lexicon
import Remittance.Proofs.Json.Grammar
import Remittance.Proofs.Json.Soundness
import Remittance.Proofs.Json.RecordSoundness
import Remittance.Proofs.Csv.Row
import Remittance.Proofs.Csv.Lines
import Remittance.Proofs.Csv.ClosedRows
import Remittance.Proofs.MoneyText
import Remittance.Proofs.Date
import Remittance.Proofs.Date.Spelling
import Remittance.Proofs.Instruction.Words
import Remittance.Proofs.Instruction.Grammar
import Remittance.Proofs.Instruction.Legs
import Remittance.Proofs.Instruction.Reading
import Remittance.Proofs.Instruction.WrittenWords
import Remittance.Proofs.Instruction.Writing
import Remittance.Proofs.Instruction.Day
import Remittance.Proofs.Instruction.LineBreaks
import Remittance.Proofs.Instruction.Layout
import Remittance.Proofs.Parties
import Remittance.Proofs.Rules
import Remittance.Proofs.Settlement
import Remittance.Proofs.Desk.Approval
import Remittance.Proofs.Desk.Report
import Remittance.Proofs.Desk.Conservation
import Remittance.Proofs.Desk.Outcome
import Remittance.Proofs.Desk.Locality
import Remittance.Proofs.Desk.SignedZero
import Remittance.Proofs.Desk.Supported
import Remittance.Proofs.Session.Steps
import Remittance.Proofs.Session.Invariant
import Remittance.Proofs.Session.Accounting
import Remittance.Proofs.Session.Independence
import Remittance.Proofs.Session.Delta
import Remittance.Proofs.Envelope.Data
import Remittance.Proofs.Envelope.Lines
import Remittance.Proofs.Request
import Remittance.Proofs.Request.Check
import Remittance.Proofs.Request.Encoding
import Remittance.Proofs.Request.RoundTrip
import Remittance.Proofs.Request.Shape
import Remittance.Proofs.Request.Records
import Remittance.Proofs.Reply
import Remittance.Proofs.AccountTable
import Remittance.Proofs.AccountTable.RefusedRecord
import Remittance.Proofs.RequestLines
import Remittance.Proofs.RequestLines.PhysicalLines
import Remittance.Proofs.RequestLines.Batches
import Remittance.Proofs.RequestLines.Numbers
import Remittance.Proofs.Run.Pipeline
import Remittance.Proofs.Run.Schedule
import Remittance.Proofs.Run.Agreement
import Remittance.Proofs.Run.UnreadableLine
import Remittance.Proofs.Run.Single
import Remittance.Proofs.Run.BrokenTable
import Remittance.Proofs.Run.Chain
import Remittance.Proofs.CommandLine.Words
import Remittance.Proofs.CommandLine.Requirements
import Remittance.Proofs.CommandLine.Selection
