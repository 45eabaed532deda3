import TxInspect.Address
import TxInspect.Codec.Base64
import TxInspect.Codec.Bech32
import TxInspect.Codec.Bech32.Checksum
import TxInspect.Codec.Bech32.Groups
import TxInspect.Codec.Hex
import TxInspect.Command.Arguments
import TxInspect.Command.Run
import TxInspect.Command.Source
import TxInspect.Document
import TxInspect.Execution.Basic
import TxInspect.Execution.Events
import TxInspect.Execution.Fault
import TxInspect.Execution.Outcome
import TxInspect.Execution.ReturnCode
import TxInspect.Execution.ReturnData
import TxInspect.Failure
import TxInspect.Json.Fault
import TxInspect.Json.Literal
import TxInspect.Json.Machine
import TxInspect.Json.Node
import TxInspect.Json.Numeral
import TxInspect.Json.Printer
import TxInspect.Json.Reader
import TxInspect.Json.Value
import TxInspect.Log.Account
import TxInspect.Log.Entry
import TxInspect.Log.Filter
import TxInspect.Main
import TxInspect.Number.Decimal
import TxInspect.Number.Digit
import TxInspect.Number.Hexadecimal
import TxInspect.Number.Word
import TxInspect.Proofs.Address.Correspondence
import TxInspect.Proofs.Address.Spellings
import TxInspect.Proofs.Address.Validity
import TxInspect.Proofs.Codec.Base64
import TxInspect.Proofs.Codec.Bech32.Checksum
import TxInspect.Proofs.Codec.Bech32.Groups
import TxInspect.Proofs.Codec.Bech32.Texts
import TxInspect.Proofs.Codec.Hex
import TxInspect.Proofs.Command.Endings
import TxInspect.Proofs.Document.Envelope
import TxInspect.Proofs.Document.NullMembers
import TxInspect.Proofs.Execution.Agreement
import TxInspect.Proofs.Execution.DecisionTable
import TxInspect.Proofs.Execution.Notices
import TxInspect.Proofs.Execution.NullMembers
import TxInspect.Proofs.Execution.ReturnCodes
import TxInspect.Proofs.Execution.ReturnData
import TxInspect.Proofs.Execution.Success
import TxInspect.Proofs.Execution.Topics
import TxInspect.Proofs.Failure
import TxInspect.Proofs.Json.Embedding
import TxInspect.Proofs.Json.Extent
import TxInspect.Proofs.Json.Members
import TxInspect.Proofs.Json.Numerals
import TxInspect.Proofs.Json.Objects
import TxInspect.Proofs.Json.Places
import TxInspect.Proofs.Json.Printing
import TxInspect.Proofs.Json.Proper
import TxInspect.Proofs.Json.Records
import TxInspect.Proofs.Json.Strings
import TxInspect.Proofs.Number.Decimal
import TxInspect.Proofs.Number.DigitCase
import TxInspect.Proofs.Number.Hexadecimal
import TxInspect.Proofs.Report.Arguments
import TxInspect.Proofs.Report.Codes
import TxInspect.Proofs.Report.Colors
import TxInspect.Proofs.Report.Grouping
import TxInspect.Proofs.Report.Json
import TxInspect.Proofs.Results
import TxInspect.Proofs.Text.Blank
import TxInspect.Proofs.Text.LetterCase
import TxInspect.Proofs.Text.Lossy
import TxInspect.Proofs.Text.Pieces
import TxInspect.Proofs.Text.Utf8
import TxInspect.Proofs.Transaction.Amounts
import TxInspect.Proofs.Transaction.Arguments
import TxInspect.Proofs.Transaction.ByteCalls
import TxInspect.Proofs.Transaction.Calls
import TxInspect.Proofs.Transaction.DigitCase
import TxInspect.Proofs.Transaction.Envelopes
import TxInspect.Proofs.Transaction.Events
import TxInspect.Proofs.Transaction.Failures
import TxInspect.Proofs.Transaction.Faults
import TxInspect.Proofs.Transaction.Layers
import TxInspect.Proofs.Transaction.MultipleTransfers
import TxInspect.Proofs.Transaction.Recognizers
import TxInspect.Proofs.Transaction.RelayDepth
import TxInspect.Proofs.Transaction.RelayedAmounts
import TxInspect.Proofs.Transaction.SelfTransfers
import TxInspect.Proofs.Transaction.Shape
import TxInspect.Proofs.Transaction.SingleTransfers
import TxInspect.Proofs.Transaction.Tower
import TxInspect.Proofs.Transaction.Transfers
import TxInspect.Report
import TxInspect.Report.Arguments
import TxInspect.Report.Grouping
import TxInspect.Report.Json
import TxInspect.Report.Styled
import TxInspect.Report.Table
import TxInspect.Report.Terminal
import TxInspect.Settings
import TxInspect.Text.Alphanumeric
import TxInspect.Text.Blank
import TxInspect.Text.CodePoints
import TxInspect.Text.Columns
import TxInspect.Text.Columns.Character
import TxInspect.Text.Columns.Emoji
import TxInspect.Text.Columns.Ligature
import TxInspect.Text.Combining
import TxInspect.Text.LetterCase
import TxInspect.Text.Pieces
import TxInspect.Text.Printable
import TxInspect.Text.Quoted
import TxInspect.Text.Utf8
import TxInspect.Transaction.Basic
import TxInspect.Transaction.Decoder
import TxInspect.Transaction.Fault
import TxInspect.Transaction.Metadata
import TxInspect.Transaction.Relay
import TxInspect.Transaction.Transfers
