import Commentary.Discovery
import Commentary.Proofs.Alternatives
import Commentary.Proofs.Arrangement
import Commentary.Proofs.Batching
import Commentary.Proofs.Binding
import Commentary.Proofs.ByteOrder
import Commentary.Proofs.Catalog
import Commentary.Proofs.CodeSpans
import Commentary.Proofs.Complaints
import Commentary.Proofs.Components
import Commentary.Proofs.ConfigValues
import Commentary.Proofs.Decoration
import Commentary.Proofs.Endings
import Commentary.Proofs.Entries
import Commentary.Proofs.Escapes
import Commentary.Proofs.Faultless
import Commentary.Proofs.Fencing
import Commentary.Proofs.FileRecords
import Commentary.Proofs.Grouping
import Commentary.Proofs.HeaderText
import Commentary.Proofs.Headers
import Commentary.Proofs.History
import Commentary.Proofs.Layering
import Commentary.Proofs.Ledger
import Commentary.Proofs.Marks
import Commentary.Proofs.Merging
import Commentary.Proofs.Outline
import Commentary.Proofs.PatternLists
import Commentary.Proofs.Publication
import Commentary.Proofs.Quoting
import Commentary.Proofs.RecordValues
import Commentary.Proofs.Reports
import Commentary.Proofs.Resolution
import Commentary.Proofs.SourceFacts
import Commentary.Proofs.Steps
import Commentary.Proofs.Tidiness
import Commentary.Proofs.Unions
import Commentary.Proofs.WellFormed
import Commentary.Proofs.WordLayers
import Commentary.Record.Codec
import Commentary.Site
import Commentary.SourceFile
