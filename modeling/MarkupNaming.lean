import MarkupNaming.Console.Scopes
import MarkupNaming.Main
import MarkupNaming.Proofs.Markup.Rewriting
import MarkupNaming.Proofs.Markup.Relocation
import MarkupNaming.Proofs.Markup.Token
import MarkupNaming.Proofs.Markup.Nesting
import MarkupNaming.Proofs.Markup.Frame
import MarkupNaming.Proofs.Markup.Attribute.Rescanning
import MarkupNaming.Proofs.Markup.Repetition
import MarkupNaming.Proofs.Naming.ClassName
import MarkupNaming.Proofs.Generation.Repetition
import MarkupNaming.Proofs.Naming.Lookahead
import MarkupNaming.Proofs.Generation.Order
import MarkupNaming.Proofs.Markup.Retention
import MarkupNaming.Proofs.Generation.ClassTokens
import MarkupNaming.Proofs.Markup.Attribute.Listing
import MarkupNaming.Proofs.Markup.Pairing
import MarkupNaming.Proofs.Markup.Marking
import MarkupNaming.Proofs.Markup.Combining
import MarkupNaming.Proofs.Markup.Outline
import MarkupNaming.Proofs.Generation.Editing
import MarkupNaming.Proofs.Markup.Cursor
import MarkupNaming.Proofs.Generation.Presets
import MarkupNaming.Proofs.Settings.RoundTrip
import MarkupNaming.Proofs.CommandLine.Loading
import MarkupNaming.Proofs.CommandLine.Documents
import MarkupNaming.Proofs.CommandLine.Upkeep
import MarkupNaming.Proofs.CommandLine.Failing
import MarkupNaming.Proofs.Generation.Workspace
import MarkupNaming.Proofs.Generation.Faults
import MarkupNaming.Proofs.CommandLine.Rediscovery
import MarkupNaming.Proofs.CommandLine.Inspection
import MarkupNaming.Proofs.Markup.Locating
import MarkupNaming.Proofs.Markup.Matching
import MarkupNaming.Proofs.Markup.Attribute.Spans
import MarkupNaming.Proofs.Markup.Balance
import MarkupNaming.Proofs.Markup.Attribute.Tails
import MarkupNaming.Proofs.Markup.ClassAttribute
import MarkupNaming.Proofs.Position
import MarkupNaming.Proofs.CommandLine.ReleaseTable
import MarkupNaming.Proofs.Settings.Ordering
import MarkupNaming.Proofs.Settings.NormalForm
import MarkupNaming.Proofs.Settings.RuleMap
import MarkupNaming.Proofs.Naming.AbbreviatedPath
import MarkupNaming.Proofs.Naming.Sanitizing
import MarkupNaming.Proofs.Naming.Composition
import MarkupNaming.Proofs.Markup.Insertion
import MarkupNaming.Proofs.Diagnostics.Trail
