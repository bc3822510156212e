import Stencil.Caller
import Stencil.Formatter.Script
import Stencil.Main
import Stencil.Proofs.Restore.Matching
import Stencil.Proofs.Restore.Plain
import Stencil.Proofs.Restore.Substitution
import Stencil.Proofs.Scan.Layout
import Stencil.Proofs.Scan.Cutting
import Stencil.Proofs.RoundTrip
import Stencil.Proofs.Markup.Contexts
import Stencil.Proofs.Markup.Grammar
import Stencil.Proofs.Markup.Reading
import Stencil.Proofs.Markup.Classification
import Stencil.Proofs.Markup.Lookahead
import Stencil.Proofs.Markup.Noninterference
import Stencil.Proofs.Scan.Failures
import Stencil.Proofs.Scan.PrefixFree
import Stencil.Proofs.Scan.Widths
import Stencil.Proofs.Scan.Stems
import Stencil.Proofs.Scan.Placeholder
import Stencil.Proofs.Pipeline.Calls
import Stencil.Proofs.Markup.Simulation
import Stencil.Proofs.Pipeline.Losses
import Stencil.Proofs.Files.Lookup
import Stencil.Proofs.Files.Collected
import Stencil.Proofs.Files.Interrupted
import Stencil.Proofs.Pipeline.Schedule
import Stencil.Proofs.Pipeline.FileEffects
import Stencil.Proofs.EditorConfig.Consulted
import Stencil.Proofs.Pipeline.Interleaving
import Stencil.Proofs.Pipeline.Cancellation
import Stencil.Proofs.Json.RoundTrip
import Stencil.Proofs.Text.Utf8
import Stencil.Proofs.Token.Encoding
import Stencil.Proofs.Token.Histories
import Stencil.Proofs.Restore.Sources
import Stencil.Proofs.Files.Writing
import Stencil.Proofs.Config.Loading
import Stencil.Proofs.Config.Nearest
import Stencil.Proofs.Cli.RoundTrip
import Stencil.Proofs.Restore.Absent
import Stencil.Proofs.Restore.Shadowing
import Stencil.Proofs.Markup.Values
import Stencil.Proofs.Markup.TagNames
import Stencil.Proofs.Diagnostic.Places
import Stencil.Proofs.Diagnostic.Reports
import Stencil.Proofs.EditorConfig.Precedence
import Stencil.Proofs.Files.Selected
import Stencil.Proofs.Files.Spellings
