import GraphConsole.Entries
import GraphConsole.Text.Blank
import GraphConsole.Text.Lines
import GraphConsole.Text.Printable
import GraphConsole.Text.Punctuation
import GraphConsole.Text.Quoted
import GraphConsole.Text.Capital
import GraphConsole.Text.CellWidth
import GraphConsole.Text.Decimal
import GraphConsole.Text.Fraction
import GraphConsole.Text.Wrap
import GraphConsole.Text.ControlSequence
import GraphConsole.Text.Utf8
import GraphConsole.Json.Value
import GraphConsole.Json.Printer
import GraphConsole.Json.Reader
import GraphConsole.Json.Decode
import GraphConsole.Registry.GraphRef
import GraphConsole.Registry.BuildError
import GraphConsole.Registry.Timestamp
import GraphConsole.Registry.Schema
import GraphConsole.Registry.Subgraph
import GraphConsole.Registry.Change
import GraphConsole.Registry.Publication
import GraphConsole.Registry.Check
import GraphConsole.Registry.Contract
import GraphConsole.Registry.Composition
import GraphConsole.Registry.Template
import GraphConsole.Failure.Kind
import GraphConsole.Failure.Operand
import GraphConsole.Failure.Wording
import GraphConsole.Failure.Incident
import GraphConsole.Failure.Acceptance
import GraphConsole.Failure.Basic
import GraphConsole.Failure.Fault
import GraphConsole.Files.Path
import GraphConsole.Files.Tree
import GraphConsole.Profile.Store
import GraphConsole.Service.Registry
import GraphConsole.Outcome.Output
import GraphConsole.Outcome.Coverage
import GraphConsole.Outcome.Envelope
import GraphConsole.Outcome.Heading
import GraphConsole.Outcome.Table
import GraphConsole.Outcome.Markup
import GraphConsole.Outcome.Explanation
import GraphConsole.Outcome.Report
import GraphConsole.Console.Settings
import GraphConsole.Console.Log
import GraphConsole.Console.Dispatcher
import GraphConsole.Service.World
import GraphConsole.Documentation
import GraphConsole.Command.Catalog
import GraphConsole.Command.Credentials
import GraphConsole.Command.Schema
import GraphConsole.Command.Variant
import GraphConsole.Command.Composition
import GraphConsole.Service.Application
import GraphConsole.CommandLine.Pairs
import GraphConsole.CommandLine.Parameter
import GraphConsole.CommandLine.Resemblance
import GraphConsole.CommandLine.Scan
import GraphConsole.CommandLine.Binding
import GraphConsole.CommandLine.Invocation
import GraphConsole.CommandLine.Prompt
import GraphConsole.CommandLine.Run
import GraphConsole.Main
import GraphConsole.Proofs.Service.Conduct
import GraphConsole.Proofs.Command.Calls
import GraphConsole.Proofs.Outcome.Agreement
import GraphConsole.Proofs.CommandLine.Steps
import GraphConsole.Proofs.CommandLine.Rendering
import GraphConsole.Proofs.CommandLine.Deletion
import GraphConsole.Proofs.Json.Printing
import GraphConsole.Proofs.Json.Scalars
import GraphConsole.Proofs.Json.RoundTrip
import GraphConsole.Proofs.Json.Room
import GraphConsole.Proofs.Outcome.EnvelopeText
import GraphConsole.Proofs.CommandLine.Envelopes
import GraphConsole.Proofs.CommandLine.Consent
import GraphConsole.Proofs.Outcome.EnvelopeReading
import GraphConsole.Proofs.Files.Growth
import GraphConsole.Proofs.Profile.Document
import GraphConsole.Proofs.Profile.Keyring
import GraphConsole.Proofs.Console.Narration
import GraphConsole.Proofs.Files.Veil
import GraphConsole.Proofs.Profile.Secrecy
import GraphConsole.Proofs.Service.Secrecy
import GraphConsole.Proofs.Command.Secrecy
import GraphConsole.Proofs.CommandLine.Readings
import GraphConsole.Proofs.CommandLine.Secrecy
import GraphConsole.Proofs.Console.Isolation
import GraphConsole.Proofs.Command.Enrichment
import GraphConsole.Proofs.Profile.Loading
import GraphConsole.Proofs.CommandLine.Opening
import GraphConsole.Proofs.CommandLine.Admission
import GraphConsole.Proofs.Text.Cuts
import GraphConsole.Proofs.Registry.Spelling
import GraphConsole.Proofs.Outcome.Correspondence
import GraphConsole.Proofs.Text.Ink
import GraphConsole.Proofs.Outcome.Grid
import GraphConsole.Proofs.Outcome.Abridgement
import GraphConsole.Proofs.Outcome.Alignment
import GraphConsole.Proofs.Command.Recovery
import GraphConsole.Proofs.Outcome.Breakage
import GraphConsole.Proofs.Command.Checking
import GraphConsole.Proofs.Outcome.Documents
import GraphConsole.Proofs.CommandLine.Pairs
import GraphConsole.Proofs.CommandLine.Sources
import GraphConsole.Proofs.CommandLine.Composing
import GraphConsole.Proofs.Json.Excess
import GraphConsole.Proofs.Files.Regularity
import GraphConsole.Proofs.Files.Additions
import GraphConsole.Proofs.Command.Templates
import GraphConsole.Proofs.Profile.Saving
import GraphConsole.Proofs.Profile.Confinement
import GraphConsole.Proofs.Profile.Promise
import GraphConsole.Proofs.Text.Octets
import GraphConsole.Proofs.Text.Capitals
import GraphConsole.Proofs.Sequence
import GraphConsole.Proofs.Command.SchemaFiles
import GraphConsole.Proofs.Command.Explaining
import GraphConsole.Proofs.CommandLine.RepeatedOptions
import GraphConsole.Proofs.Outcome.Listings
import GraphConsole.Proofs.Outcome.Publication
import GraphConsole.Proofs.Console.Logging
