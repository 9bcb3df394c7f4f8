import ReportBinding.Attest.Basic
import ReportBinding.Attest.Config
import ReportBinding.Attest.Inspect
import ReportBinding.Audit
import ReportBinding.Audit.Document
import ReportBinding.Bytes
import ReportBinding.Checkout.Fault
import ReportBinding.Checkout.Metadata
import ReportBinding.Checkout.Resolver
import ReportBinding.CommandLine.Arguments
import ReportBinding.CommandLine.Attest
import ReportBinding.CommandLine.Option
import ReportBinding.CommandLine.Program
import ReportBinding.CommandLine.Verify
import ReportBinding.Decimal.Shortest
import ReportBinding.Error
import ReportBinding.Failure
import ReportBinding.Files.Access
import ReportBinding.Files.Basic
import ReportBinding.Files.Fault
import ReportBinding.Files.Path
import ReportBinding.Hash.Chaining
import ReportBinding.Hash.Sha256
import ReportBinding.Hash.Sha512
import ReportBinding.Json.Document
import ReportBinding.Json.Fault
import ReportBinding.Json.Numeral
import ReportBinding.Json.Printer
import ReportBinding.Json.Record
import ReportBinding.Json.Token
import ReportBinding.Main
import ReportBinding.Pipeline.Basic
import ReportBinding.Pipeline.Inputs
import ReportBinding.Pipeline.Operation
import ReportBinding.Pipeline.Stage
import ReportBinding.Program.Basic
import ReportBinding.Program.Host
import ReportBinding.Program.Octets
import ReportBinding.Program.Shell.Format
import ReportBinding.Program.Shell.Grammar
import ReportBinding.Program.Shell.Run
import ReportBinding.Program.Shell.Session
import ReportBinding.Program.Shell.Syntax
import ReportBinding.Program.Shell.Token
import ReportBinding.Program.Utility.Basic
import ReportBinding.Program.Utility.Catalogue
import ReportBinding.Program.Utility.Condition
import ReportBinding.Program.Utility.Filing
import ReportBinding.Program.Utility.Writing
import ReportBinding.Proofs.Attest.Agreement
import ReportBinding.Proofs.Attest.Inspection
import ReportBinding.Proofs.Attest.Outcome
import ReportBinding.Proofs.Attest.Outputs
import ReportBinding.Proofs.Audit.Acceptance
import ReportBinding.Proofs.Audit.Evidence
import ReportBinding.Proofs.Audit.Independence
import ReportBinding.Proofs.Audit.Quotes
import ReportBinding.Proofs.Audit.Requests
import ReportBinding.Proofs.Audit.Sources
import ReportBinding.Proofs.Audit.Spelling
import ReportBinding.Proofs.Checkout.Metadata
import ReportBinding.Proofs.Checkout.Packed
import ReportBinding.Proofs.Checkout.Precedence
import ReportBinding.Proofs.Checkout.References
import ReportBinding.Proofs.Checkout.Refusals
import ReportBinding.Proofs.Files.Access
import ReportBinding.Proofs.Files.Content
import ReportBinding.Proofs.Files.Removal
import ReportBinding.Proofs.Json.Grammar
import ReportBinding.Proofs.Json.Record
import ReportBinding.Proofs.Json.RoundTrip
import ReportBinding.Proofs.Json.Spelling
import ReportBinding.Proofs.Pipeline.Calls
import ReportBinding.Proofs.Pipeline.Findings
import ReportBinding.Proofs.Pipeline.History
import ReportBinding.Proofs.Pipeline.Landing
import ReportBinding.Proofs.Pipeline.Modes
import ReportBinding.Proofs.Pipeline.Order
import ReportBinding.Proofs.Pipeline.Preparation
import ReportBinding.Proofs.Pipeline.Reuse
import ReportBinding.Proofs.Pipeline.Session
import ReportBinding.Proofs.Provenance.Binding
import ReportBinding.Proofs.Provenance.Delivery
import ReportBinding.Proofs.Provenance.Hashing
import ReportBinding.Proofs.Provenance.Identifiers
import ReportBinding.Proofs.Quote.Command
import ReportBinding.Proofs.Quote.Diagnostics
import ReportBinding.Proofs.Quote.Extraction
import ReportBinding.Proofs.Quote.Layout
import ReportBinding.Proofs.Quote.Transcript
import ReportBinding.Proofs.Receipt.Check
import ReportBinding.Proofs.Receipt.Forgery
import ReportBinding.Proofs.Receipt.Meaning
import ReportBinding.Proofs.Receipt.Reading
import ReportBinding.Proofs.Receipt.RoundTrip
import ReportBinding.Proofs.Text.Blank
import ReportBinding.Proofs.Text.Ending
import ReportBinding.Proofs.Text.Hex
import ReportBinding.Proofs.Text.Lines
import ReportBinding.Proofs.Text.Utf8
import ReportBinding.Provenance.Binding
import ReportBinding.Provenance.FileDigest
import ReportBinding.Provenance.Hashing
import ReportBinding.Provenance.Input
import ReportBinding.Provenance.ReportData
import ReportBinding.Provenance.RevisionId
import ReportBinding.Quote.Basic
import ReportBinding.Quote.Generator.Basic
import ReportBinding.Quote.Generator.Fault
import ReportBinding.Quote.Layout
import ReportBinding.Quote.Transcript
import ReportBinding.Receipt.Basic
import ReportBinding.Receipt.Document
import ReportBinding.Receipt.Fault
import ReportBinding.Receipt.Values
import ReportBinding.Scenario.Basic
import ReportBinding.Scenario.Samples
import ReportBinding.Text.Blank
import ReportBinding.Text.Ending
import ReportBinding.Text.Hex
import ReportBinding.Text.Host
import ReportBinding.Text.Lines
import ReportBinding.Text.Quoted
import ReportBinding.Text.Shapeless
import ReportBinding.Text.Table
import ReportBinding.Text.Utf8
import ReportBinding.Text.Width
