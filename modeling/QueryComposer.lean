import QueryComposer.CommandLine.Program
import QueryComposer.Json.Writer
import QueryComposer.Main
import QueryComposer.Query.Document
import QueryComposer.Query.Draft
import QueryComposer.Query.Link
import QueryComposer.Schema.Catalog
import QueryComposer.Schema.Listing
import QueryComposer.Proofs.Outcome
import QueryComposer.Proofs.KeyMap
import QueryComposer.Proofs.Form
import QueryComposer.Proofs.Sorting.Dense
import QueryComposer.Proofs.Sorting.MoveToFront
import QueryComposer.Proofs.Schema.Path
import QueryComposer.Proofs.Schema.Listing
import QueryComposer.Proofs.Schema.Following
import QueryComposer.Proofs.Schema.Depth
import QueryComposer.Proofs.Query.Step
import QueryComposer.Proofs.Query.Reading
import QueryComposer.Proofs.Query.WellFormed
import QueryComposer.Proofs.Query.RoundTrip
import QueryComposer.Proofs.Query.View
import QueryComposer.Proofs.Query.Independence
import QueryComposer.Proofs.Query.Cells
import QueryComposer.Proofs.Query.Inertness
import QueryComposer.Proofs.Query.Lineage
import QueryComposer.Proofs.Sorting.Recency
import QueryComposer.Proofs.Json.Record
import QueryComposer.Proofs.Json.Same
import QueryComposer.Proofs.Json.Telling
import QueryComposer.Proofs.Schema.Document
import QueryComposer.Proofs.Query.Document
import QueryComposer.Proofs.Query.Elementary
import QueryComposer.Proofs.Query.Keeping
import QueryComposer.Proofs.Query.Link
import QueryComposer.Proofs.Query.Grammar
import QueryComposer.Proofs.Sorting.Restoring
import QueryComposer.Proofs.Query.Validation
import QueryComposer.Proofs.Query.Gluing
import QueryComposer.Proofs.Query.Defaults
import QueryComposer.Proofs.Query.Refusal
import QueryComposer.Proofs.Query.Filterable
import QueryComposer.Proofs.Query.Limit
import QueryComposer.Proofs.Query.Offering
import QueryComposer.Proofs.CommandLine.Operation
import QueryComposer.Proofs.Settings.Agreement
