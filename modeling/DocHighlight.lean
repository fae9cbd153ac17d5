import DocHighlight.Main
import DocHighlight.Proofs.Coverage
import DocHighlight.Proofs.Json.Grammar
import DocHighlight.Proofs.Json.Acceptance
import DocHighlight.Proofs.Json.Printing
import DocHighlight.Proofs.Text.Utf8
import DocHighlight.Proofs.Json.Meaning
import DocHighlight.Proofs.Json.Invariant
import DocHighlight.Proofs.Document.Records
import DocHighlight.Proofs.Document.Reading
import DocHighlight.Proofs.Document.Codec
import DocHighlight.Proofs.Document.RoundTrip
import DocHighlight.Proofs.Json.Order
import DocHighlight.Proofs.Document.Fidelity
import DocHighlight.Proofs.Document.Highlighting
import DocHighlight.Proofs.Filter
import DocHighlight.Proofs.Json.Rereading
import DocHighlight.Proofs.Chaining
import DocHighlight.Proofs.Document.Composition
import DocHighlight.Proofs.Document.Rewriting
import DocHighlight.Proofs.Document.Nodes
import DocHighlight.Proofs.Document.MemberOrder
import DocHighlight.Proofs.Document.Offers
import DocHighlight.Proofs.Markup.Reading
import DocHighlight.Proofs.Markup.LineEnds
import DocHighlight.Proofs.Command
import DocHighlight.Proofs.Document.Typing
import DocHighlight.Proofs.Document.Reports
import DocHighlight.Proofs.Registration
import DocHighlight.Proofs.Document.Bytes
import DocHighlight.Proofs.Diagnostics.Logging
import DocHighlight.Proofs.Settings.Levels
