import Livery.Decimal.Notation
import Livery.Dict
import Livery.Text.Alphanumeric
import Livery.Text.Blank
import Livery.Text.Casing
import Livery.Text.Digit
import Livery.Text.Kebab
import Livery.Text.Quoted
import Livery.Json.Reader
import Livery.Json.Writer
import Livery.Json.Display
import Livery.Json.Field
import Livery.Document.Node
import Livery.Document.Coding
import Livery.Document.Equality
import Livery.Document.Inspect
import Livery.Document.Selector
import Livery.Theme.Coding
import Livery.Theme.Dressing
import Livery.Theme.Contract
import Livery.Theme.Hook
import Livery.Page.Lookup
import Livery.Calendar.Format
import Livery.Layout.Config
import Livery.Layout.Coding
import Livery.Layout.Composition
import Livery.Manifest.Coding
import Livery.Site
import Livery.Check.Theme
import Livery.Check.Layout
import Livery.Check.Manifest
import Livery.Check.Report
import Livery.Trace.Export
import Livery.Toml.Reader
import Livery.Yaml.Reader
import Livery.Loading
import Livery.Proofs.Walk
import Livery.Proofs.Nesting
import Livery.Proofs.ElementClass
import Livery.Proofs.Consumption
import Livery.Proofs.Calls
import Livery.Proofs.Depth
import Livery.Proofs.Texts
import Livery.Proofs.Groups
import Livery.Proofs.Termination
import Livery.Proofs.Agreement
import Livery.Proofs.Stops
import Livery.Proofs.Neighbours
import Livery.Proofs.Shapes
import Livery.Proofs.Children
import Livery.Proofs.Unchecked
import Livery.Proofs.Arrangement
import Livery.Proofs.Decoding
import Livery.Proofs.Warnings
import Livery.Proofs.LayoutReferences
import Livery.Proofs.TracedComposition
import Livery.Proofs.EntryMentions
import Livery.Proofs.AttributeOrder
import Livery.Proofs.Content
import Livery.Proofs.Becoming
import Livery.Proofs.ThemedNavigation
import Livery.Proofs.RoundTrip
import Livery.Proofs.Restoring
import Livery.Proofs.ContractElements
import Livery.Proofs.ContractCoverage
import Livery.Proofs.Fragments
import Livery.Proofs.UnreadRegions
import Livery.Proofs.RawMarkup
import Livery.Proofs.ItemPlaces
import Livery.Proofs.PathText
import Livery.Proofs.FindingPlaces
import Livery.Proofs.DiagnosticPaths
import Livery.Proofs.Spans
import Livery.Proofs.Tour
import Livery.Proofs.DocumentRestored
import Livery.Proofs.ChildOrder
import Livery.Proofs.RootAttributes
import Livery.Proofs.Synthesis
import Livery.Proofs.Resolution
import Livery.Proofs.SelectorList
import Livery.Proofs.PathWalk
import Livery.Proofs.Globs
import Livery.Proofs.Expressions
import Livery.Proofs.Routing
import Livery.Proofs.NaturalOrder
import Livery.Proofs.VersionOrder
import Livery.Proofs.Durations
import Livery.Proofs.Siblings
import Livery.Proofs.ReadValues
import Livery.Proofs.RowTables
import Livery.Proofs.Retagging
import Livery.Proofs.TableOfContents
import Livery.Proofs.DateTexts
import Livery.Proofs.Histories
