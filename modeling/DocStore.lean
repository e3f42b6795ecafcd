import DocStore.Command.Arguments
import DocStore.Command.Form
import DocStore.Command.Help
import DocStore.Command.Reply
import DocStore.Command.Report
import DocStore.Command.Run
import DocStore.Comparison
import DocStore.Connective
import DocStore.DataDirectory.Loading
import DocStore.DataDirectory.Names
import DocStore.DataDirectory.Saving
import DocStore.Disk.Basic
import DocStore.Disk.Location
import DocStore.Disk.Session
import DocStore.Disk.Tree
import DocStore.Document
import DocStore.Error
import DocStore.Index.Basic
import DocStore.Index.Key
import DocStore.Json.Basic
import DocStore.Json.Decoding
import DocStore.Json.Parser
import DocStore.Json.Printer
import DocStore.Json.Quoted
import DocStore.Log.Level
import DocStore.Log.Line
import DocStore.Main
import DocStore.Number.Arithmetic
import DocStore.Number.Basic
import DocStore.Number.Numeral
import DocStore.Number.Rounding
import DocStore.Number.Shortest
import DocStore.Number.Text
import DocStore.Predicate.Basic
import DocStore.Predicate.Json
import DocStore.Proofs.Command.Admission
import DocStore.Proofs.Command.Effects
import DocStore.Proofs.Command.Importing
import DocStore.Proofs.Comparison
import DocStore.Proofs.Connective
import DocStore.Proofs.DataDirectory.Contents
import DocStore.Proofs.DataDirectory.Depth
import DocStore.Proofs.DataDirectory.Filing
import DocStore.Proofs.DataDirectory.Interruption
import DocStore.Proofs.DataDirectory.Loading
import DocStore.Proofs.DataDirectory.Names
import DocStore.Proofs.DataDirectory.Opening
import DocStore.Proofs.DataDirectory.Recovery
import DocStore.Proofs.DataDirectory.Reopening
import DocStore.Proofs.DataDirectory.Resaving
import DocStore.Proofs.DataDirectory.RoundTrip
import DocStore.Proofs.DataDirectory.Saving
import DocStore.Proofs.Disk.Actions
import DocStore.Proofs.Disk.Creation
import DocStore.Proofs.Disk.Making
import DocStore.Proofs.Disk.Resolution
import DocStore.Proofs.Disk.Standing
import DocStore.Proofs.Disk.Stopping
import DocStore.Proofs.Disk.Working
import DocStore.Proofs.Index.Histories
import DocStore.Proofs.Index.Lookup
import DocStore.Proofs.Index.Order
import DocStore.Proofs.Index.Upkeep
import DocStore.Proofs.Json.Decoding
import DocStore.Proofs.Json.Depth
import DocStore.Proofs.Json.Numerals
import DocStore.Proofs.Json.Ordered
import DocStore.Proofs.Json.Reading
import DocStore.Proofs.Json.RoundTrip
import DocStore.Proofs.Number.Digits
import DocStore.Proofs.Number.Exact
import DocStore.Proofs.Number.Plain
import DocStore.Proofs.Number.Zero
import DocStore.Proofs.Outcome
import DocStore.Proofs.Predicate.RoundTrip
import DocStore.Proofs.Query.Filtering
import DocStore.Proofs.Query.Joining
import DocStore.Proofs.Query.Membership
import DocStore.Proofs.Query.Pipeline
import DocStore.Proofs.Query.Provenance
import DocStore.Proofs.Query.Pushdown
import DocStore.Proofs.Query.Resolution
import DocStore.Proofs.Query.Selection
import DocStore.Proofs.Query.Sources
import DocStore.Proofs.Request.RoundTrip
import DocStore.Proofs.SortedMap.Reading
import DocStore.Proofs.Stage.Distinct
import DocStore.Proofs.Stage.Equality
import DocStore.Proofs.Stage.Grouping
import DocStore.Proofs.Stage.Joining
import DocStore.Proofs.Stage.Sorting
import DocStore.Proofs.Stage.Stability
import DocStore.Proofs.Stage.Ties
import DocStore.Proofs.Store.Batches
import DocStore.Proofs.Store.Insertion
import DocStore.Proofs.Store.Normalised
import DocStore.Proofs.Store.Reachability
import DocStore.Proofs.Store.Refusal
import DocStore.Proofs.Store.Soundness
import DocStore.Proofs.Text.ByteOrder
import DocStore.Proofs.Text.Cut
import DocStore.Proofs.Text.LetterCase
import DocStore.Proofs.Text.Split
import DocStore.Proofs.Text.Suffix
import DocStore.Proofs.Transform.Folding
import DocStore.Proofs.Transform.RoundTrip
import DocStore.Proofs.Value.Agreement
import DocStore.Proofs.Value.Canonical
import DocStore.Proofs.Value.Depth
import DocStore.Proofs.Value.Encoding
import DocStore.Proofs.Value.Equality
import DocStore.Proofs.Value.Frame
import DocStore.Proofs.Value.Lens
import DocStore.Proofs.Value.Normalised
import DocStore.Proofs.Value.Order
import DocStore.Proofs.Value.Ordered
import DocStore.Proofs.Value.Ties
import DocStore.Query.Filtering
import DocStore.Query.Narration
import DocStore.Query.Pipeline
import DocStore.Query.Resolution
import DocStore.Query.Stream
import DocStore.Request.Basic
import DocStore.Request.Json
import DocStore.Settings
import DocStore.SortedMap.Basic
import DocStore.SortedMap.Entries
import DocStore.Stage.Distinct
import DocStore.Stage.Grouping
import DocStore.Stage.Joining
import DocStore.Stage.Sorting
import DocStore.Store.Basic
import DocStore.Store.Collection
import DocStore.Store.FreshKey
import DocStore.Store.Source
import DocStore.Text.Blank
import DocStore.Text.CaseContext
import DocStore.Text.CaseMapping
import DocStore.Text.LetterCase
import DocStore.Text.Split
import DocStore.Text.Suffix
import DocStore.Transform.Basic
import DocStore.Transform.Evaluation
import DocStore.Transform.Json
import DocStore.Value.Basic
import DocStore.Value.Canonical
import DocStore.Value.Json
import DocStore.Value.Order
import DocStore.Value.Path
