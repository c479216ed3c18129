import OrcRows.Calendar
import OrcRows.Cell.Decode
import OrcRows.Cell.Leaf
import OrcRows.Cell.Presentation
import OrcRows.Command.Arguments
import OrcRows.Command.Conclusion
import OrcRows.Command.Run
import OrcRows.Frame
import OrcRows.Journal
import OrcRows.JsonForm
import OrcRows.Location.Handle
import OrcRows.Location.Storage
import OrcRows.Location.Uri
import OrcRows.Main
import OrcRows.Mapping
import OrcRows.Native
import OrcRows.Number.Binary64
import OrcRows.Number.Decimal
import OrcRows.Number.FloatText
import OrcRows.Number.Integer
import OrcRows.Number.Rounding
import OrcRows.Number.Shortest
import OrcRows.Options.Problem
import OrcRows.Options.ReaderOptions
import OrcRows.Options.Rules
import OrcRows.Partition
import OrcRows.Pattern.Basic
import OrcRows.Pattern.Escape
import OrcRows.Pattern.Extent
import OrcRows.Pattern.Match
import OrcRows.Pattern.Parser
import OrcRows.Pattern.Reading
import OrcRows.Position
import OrcRows.Proofs.Calendar
import OrcRows.Proofs.CalendarText
import OrcRows.Proofs.Cell.Agreement
import OrcRows.Proofs.Cell.Breakdowns
import OrcRows.Proofs.Cell.Copies
import OrcRows.Proofs.Cell.DecodedText
import OrcRows.Proofs.Cell.DeepMaps
import OrcRows.Proofs.Cell.ExactDecimals
import OrcRows.Proofs.Cell.FloatCells
import OrcRows.Proofs.Cell.Images
import OrcRows.Proofs.Cell.Inhabits
import OrcRows.Proofs.Cell.InnerCells
import OrcRows.Proofs.Cell.KeptEntries
import OrcRows.Proofs.Cell.LeafTyping
import OrcRows.Proofs.Cell.Locality
import OrcRows.Proofs.Cell.Matching
import OrcRows.Proofs.Cell.Moments
import OrcRows.Proofs.Cell.Narrowing
import OrcRows.Proofs.Cell.PresentedKeys
import OrcRows.Proofs.Cell.PresentedLeaves
import OrcRows.Proofs.Cell.Presenting
import OrcRows.Proofs.Cell.ReadCells
import OrcRows.Proofs.Cell.Repeating
import OrcRows.Proofs.Cell.Reports
import OrcRows.Proofs.Cell.RowWidths
import OrcRows.Proofs.Cell.SoundVectors
import OrcRows.Proofs.Cell.Steps
import OrcRows.Proofs.Cell.TellingTexts
import OrcRows.Proofs.Cell.Walk
import OrcRows.Proofs.Cell.WholeNumbers
import OrcRows.Proofs.Command.FirstRows
import OrcRows.Proofs.Command.RowLines
import OrcRows.Proofs.Dictionary
import OrcRows.Proofs.Entries
import OrcRows.Proofs.Frame.Collecting
import OrcRows.Proofs.Frame.Entries
import OrcRows.Proofs.Json.Forms
import OrcRows.Proofs.Json.Grammar
import OrcRows.Proofs.Json.Numerals
import OrcRows.Proofs.Json.Unquoted
import OrcRows.Proofs.Json.Values
import OrcRows.Proofs.JsonText
import OrcRows.Proofs.Location.FileUri
import OrcRows.Proofs.Location.Objects
import OrcRows.Proofs.Location.Parts
import OrcRows.Proofs.Mapping
import OrcRows.Proofs.Mapping.Columns
import OrcRows.Proofs.Mapping.Conversion
import OrcRows.Proofs.Mapping.FixedPoint
import OrcRows.Proofs.Mapping.Given
import OrcRows.Proofs.Mapping.Order
import OrcRows.Proofs.Mapping.Shape
import OrcRows.Proofs.Mapping.Throughout
import OrcRows.Proofs.Number.Close
import OrcRows.Proofs.Number.DecimalReading
import OrcRows.Proofs.Number.DistinctTexts
import OrcRows.Proofs.Number.FewestDigits
import OrcRows.Proofs.Number.FloatReading
import OrcRows.Proofs.Number.Nearest
import OrcRows.Proofs.Number.NearestDecimal
import OrcRows.Proofs.Number.PowersOfTwo
import OrcRows.Proofs.Number.Rescale
import OrcRows.Proofs.Number.Rounded
import OrcRows.Proofs.Number.RoundedData
import OrcRows.Proofs.Number.RoundedOnce
import OrcRows.Proofs.Number.RoundedTwice
import OrcRows.Proofs.Number.SameDecimals
import OrcRows.Proofs.Number.Shortest
import OrcRows.Proofs.Number.ShownDigits
import OrcRows.Proofs.Number.Single
import OrcRows.Proofs.Number.SingleReading
import OrcRows.Proofs.Number.SingleText
import OrcRows.Proofs.Options.Accepted
import OrcRows.Proofs.Options.WrittenBack
import OrcRows.Proofs.Outcome
import OrcRows.Proofs.Partition.Directories
import OrcRows.Proofs.Partition.FileUri
import OrcRows.Proofs.Partition.LeftOut
import OrcRows.Proofs.Partition.Named
import OrcRows.Proofs.Partition.Values
import OrcRows.Proofs.Pattern.Binding
import OrcRows.Proofs.Pattern.Matching
import OrcRows.Proofs.Pattern.Usual
import OrcRows.Proofs.Picked
import OrcRows.Proofs.Session.Accounts
import OrcRows.Proofs.Session.Answers
import OrcRows.Proofs.Session.Completing
import OrcRows.Proofs.Session.Contents
import OrcRows.Proofs.Session.Draining
import OrcRows.Proofs.Session.ImageOption
import OrcRows.Proofs.Session.Interleaving
import OrcRows.Proofs.Session.Leases
import OrcRows.Proofs.Session.Naming
import OrcRows.Proofs.Session.Openings
import OrcRows.Proofs.Session.PickedPlan
import OrcRows.Proofs.Session.PickedRows
import OrcRows.Proofs.Session.Planning
import OrcRows.Proofs.Session.Projection
import OrcRows.Proofs.Session.Quiet
import OrcRows.Proofs.Session.Recutting
import OrcRows.Proofs.Session.Reference
import OrcRows.Proofs.Session.Renewal
import OrcRows.Proofs.Session.RepeatedNames
import OrcRows.Proofs.Session.Rows
import OrcRows.Proofs.Session.SamePlace
import OrcRows.Proofs.Session.SaysFile
import OrcRows.Proofs.Session.Stepwise
import OrcRows.Proofs.Session.Stripes
import OrcRows.Proofs.Session.Taking
import OrcRows.Proofs.Session.Typing
import OrcRows.Proofs.Session.Usage
import OrcRows.Proofs.Sniff
import OrcRows.Proofs.Table.Element
import OrcRows.Proofs.Table.Elements
import OrcRows.Proofs.Table.Fidelity
import OrcRows.Proofs.Table.LeafColumn
import OrcRows.Proofs.Table.LeafKeys
import OrcRows.Proofs.Table.NaturalLayout
import OrcRows.Proofs.Table.Parts
import OrcRows.Proofs.Table.Places
import OrcRows.Proofs.Table.Roundtrip
import OrcRows.Proofs.Table.SameElements
import OrcRows.Proofs.Table.Shows
import OrcRows.Proofs.Table.SoundColumns
import OrcRows.Proofs.Table.Stripes
import OrcRows.Proofs.Text.Characters
import OrcRows.Proofs.Text.Percent
import OrcRows.Proofs.Text.Utf8
import OrcRows.Proofs.TypeReports
import OrcRows.Proofs.TypeText
import OrcRows.Reader.Basic
import OrcRows.Reader.Site
import OrcRows.Reader.Source
import OrcRows.Report
import OrcRows.Session.Basic
import OrcRows.Session.Plan
import OrcRows.Session.Stream
import OrcRows.Sniff
import OrcRows.Table.Basic
import OrcRows.Table.Batch
import OrcRows.Table.Column
import OrcRows.Table.Type
import OrcRows.Text.CharClass
import OrcRows.Text.CharName
import OrcRows.Text.Encoding
import OrcRows.Text.Identifier
import OrcRows.Text.Percent
import OrcRows.Text.Pieces
import OrcRows.Text.Quoted
import OrcRows.Text.Utf8
import OrcRows.Unified
import OrcRows.Value
import OrcRows.Vector
