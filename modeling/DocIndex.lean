import DocIndex.Text.Basic
import DocIndex.Text.CodeRun
import DocIndex.Text.Blank
import DocIndex.Text.Alphabet
import DocIndex.Text.LetterCase
import DocIndex.Text.TextMap
import DocIndex.Text.Decimal
import DocIndex.Json.Basic
import DocIndex.Json.Read
import DocIndex.Name
import DocIndex.Version
import DocIndex.Release
import DocIndex.Signature.Basic
import DocIndex.Signature.Token
import DocIndex.Signature.Reader
import DocIndex.Signature.Canonical
import DocIndex.Signature.Distance
import DocIndex.Scale
import DocIndex.Scale.Exact
import DocIndex.Text.Similarity
import DocIndex.NameDistance
import DocIndex.Directive
import DocIndex.Docs.Basic
import DocIndex.Docs.Source
import DocIndex.Docs.Exports
import DocIndex.IndexedValue
import DocIndex.Ranking
import DocIndex.FetchError
import DocIndex.State
import DocIndex.Progress
import DocIndex.Session.Basic
import DocIndex.Session.Drain
import DocIndex.Settings.Basic
import DocIndex.Page.Search
import DocIndex.Page.Status
import DocIndex.Page.Lookup
import DocIndex.Tool.Basic
import DocIndex.Tool.Info
import DocIndex.Tool.Call
import DocIndex.Toml.Basic
import DocIndex.Toml.Quoted
import DocIndex.Toml.Scalar
import DocIndex.Toml.Read
import DocIndex.Settings.Source
import DocIndex.Settings.Discovery
import DocIndex.Settings.FileTree
import DocIndex.Text.Utf8
import DocIndex.Site
import DocIndex.CommandLine.Basic
import DocIndex.CommandLine.Read
import DocIndex.CommandLine.Help
import DocIndex.Program
import DocIndex.Main
import DocIndex.Proofs.Text.TextMap
import DocIndex.Proofs.Text.Pieces
import DocIndex.Proofs.Text.Cut
import DocIndex.Proofs.Directive.Parts
import DocIndex.Proofs.Directive
import DocIndex.Proofs.Text.Decimal
import DocIndex.Proofs.Version
import DocIndex.Proofs.Json
import DocIndex.Proofs.Listing
import DocIndex.Proofs.Release
import DocIndex.Proofs.Release.Address
import DocIndex.Proofs.State.Log
import DocIndex.Proofs.Session.Fetches
import DocIndex.Proofs.Session.Run
import DocIndex.Proofs.Session.Accounting
import DocIndex.Proofs.Session.Drained
import DocIndex.Proofs.Session.FanOut
import DocIndex.Proofs.Ranking.Permuted
import DocIndex.Proofs.Session.ArrivalOrder
import DocIndex.Proofs.Docs.Contents
import DocIndex.Proofs.State.Coherence
import DocIndex.Proofs.Signature.Lexeme
import DocIndex.Proofs.Signature.Grammar
import DocIndex.Proofs.Signature.Reading
import DocIndex.Proofs.Signature.Recognition
import DocIndex.Proofs.Text.LetterCase
import DocIndex.Proofs.NameDistance
import DocIndex.Proofs.NameDistance.Spelling
import DocIndex.Proofs.Ranking.NameSearch
import DocIndex.Proofs.Signature.Renaming
import DocIndex.Proofs.Ranking.TypeSearch
import DocIndex.Proofs.Ranking.Growth
import DocIndex.Proofs.Scale
import DocIndex.Proofs.Session.ToolDriven
import DocIndex.Proofs.Session.Snapshots
import DocIndex.Proofs.Scale.Exact
import DocIndex.Proofs.Scale.Perfect
import DocIndex.Proofs.Signature.Alike
import DocIndex.Proofs.Ranking.OwnSignature
import DocIndex.Proofs.Name
import DocIndex.Proofs.Page.Lookup
import DocIndex.Proofs.Signature.FieldOrder
import DocIndex.Proofs.Ranking.FieldOrder
import DocIndex.Proofs.Signature.Scales
import DocIndex.Proofs.Signature.InRange
import DocIndex.Proofs.Ranking.Scores
import DocIndex.Proofs.Ranking.StableOrder
import DocIndex.Proofs.Ranking.NameTiers
import DocIndex.Proofs.Session.EarlyRetry
import DocIndex.Proofs.Session.Quiescence
import DocIndex.Proofs.Session.ToolEffects
import DocIndex.Proofs.Signature.RecordFree
import DocIndex.Proofs.Ranking.SameForm
import DocIndex.Proofs.State.Missing
import DocIndex.Proofs.Session.RetryMissing
import DocIndex.Proofs.Docs.Exports
import DocIndex.Proofs.Docs.Sources
import DocIndex.Proofs.Page.Selection
import DocIndex.Proofs.Page.Exporters
import DocIndex.Proofs.Page.Search
