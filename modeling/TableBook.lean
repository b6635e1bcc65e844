import TableBook.Address
import TableBook.Address.Parser
import TableBook.Calendar.Date
import TableBook.Calendar.Format
import TableBook.Calendar.Reader
import TableBook.Calendar.Serial
import TableBook.Cell
import TableBook.Cell.Reading
import TableBook.Color
import TableBook.Command
import TableBook.Command.Arguments
import TableBook.Csv
import TableBook.Disk
import TableBook.Fault
import TableBook.Grid
import TableBook.Image
import TableBook.Json
import TableBook.Json.Reader
import TableBook.Keyed
import TableBook.Main
import TableBook.Mark
import TableBook.Mark.Grammar
import TableBook.Markup.Document
import TableBook.Markup.Node
import TableBook.Markup.Token
import TableBook.Merge
import TableBook.Number.Binary64
import TableBook.Number.Decimal
import TableBook.Number.Shortest
import TableBook.Page
import TableBook.Proofs.AddressText
import TableBook.Proofs.Autosize
import TableBook.Proofs.Bounds
import TableBook.Proofs.Cascade
import TableBook.Proofs.CellEdits
import TableBook.Proofs.CellFault
import TableBook.Proofs.CellWrite
import TableBook.Proofs.ChoiceList
import TableBook.Proofs.ColorText
import TableBook.Proofs.ColumnLetters
import TableBook.Proofs.CoveredCell
import TableBook.Proofs.CsvRecords
import TableBook.Proofs.DateRoundTrip
import TableBook.Proofs.DayNumber
import TableBook.Proofs.DecimalText
import TableBook.Proofs.DirectRefinement
import TableBook.Proofs.DirectSheet
import TableBook.Proofs.DirectiveOrder
import TableBook.Proofs.DiskWrite
import TableBook.Proofs.DocumentOrder
import TableBook.Proofs.DressedColumn
import TableBook.Proofs.FaultSource
import TableBook.Proofs.Filling
import TableBook.Proofs.FiniteNumbers
import TableBook.Proofs.Grid
import TableBook.Proofs.GridRun
import TableBook.Proofs.HashedPool
import TableBook.Proofs.HexColor
import TableBook.Proofs.HighlightGrammar
import TableBook.Proofs.Layout
import TableBook.Proofs.LayoutRun
import TableBook.Proofs.Margins
import TableBook.Proofs.MergePolicy
import TableBook.Proofs.MissingSheet
import TableBook.Proofs.NameSearch
import TableBook.Proofs.NumberLocale
import TableBook.Proofs.Numeral
import TableBook.Proofs.Operation
import TableBook.Proofs.Overflow
import TableBook.Proofs.Pictures
import TableBook.Proofs.Pool
import TableBook.Proofs.PoolRun
import TableBook.Proofs.RangeText
import TableBook.Proofs.RangeWalk
import TableBook.Proofs.Reached
import TableBook.Proofs.RecordReader
import TableBook.Proofs.RefusedRegion
import TableBook.Proofs.RefusedStyling
import TableBook.Proofs.Regions
import TableBook.Proofs.Renaming
import TableBook.Proofs.Rounding
import TableBook.Proofs.RowCursor
import TableBook.Proofs.SameMarks
import TableBook.Proofs.SeparateTables
import TableBook.Proofs.SerialDay
import TableBook.Proofs.SerialFault
import TableBook.Proofs.SerialRounding
import TableBook.Proofs.SerialSpan
import TableBook.Proofs.Sheet
import TableBook.Proofs.SheetNames
import TableBook.Proofs.SheetNumbers
import TableBook.Proofs.Spans
import TableBook.Proofs.Stages
import TableBook.Proofs.StrictReading
import TableBook.Proofs.Strictness
import TableBook.Proofs.StyleEquality
import TableBook.Proofs.StyleMerge
import TableBook.Proofs.StyledRange
import TableBook.Proofs.StylingOrder
import TableBook.Proofs.TableEdits
import TableBook.Proofs.TableSheet
import TableBook.Proofs.WrittenDate
import TableBook.Proofs.WrittenNumbers
import TableBook.Range
import TableBook.Range.Walk
import TableBook.Sheet
import TableBook.Sheet.Edit
import TableBook.SheetName
import TableBook.Style
import TableBook.Style.Catalogue
import TableBook.Style.Custom
import TableBook.Style.Directive
import TableBook.Style.Highlight
import TableBook.Style.Json
import TableBook.Style.Pool
import TableBook.Table
import TableBook.Table.Attributes
import TableBook.Table.Context
import TableBook.Table.Cursor
import TableBook.Table.Layout
import TableBook.Table.NamedStyle
import TableBook.Table.Settings
import TableBook.Text.Base64
import TableBook.Text.Blank
import TableBook.Text.Bytes
import TableBook.Text.CodePoints
import TableBook.Text.Composition
import TableBook.Text.Composition.Table
import TableBook.Text.Digits
import TableBook.Text.Lowercase
import TableBook.Text.Pieces
import TableBook.Text.Reference
import TableBook.Text.Word
