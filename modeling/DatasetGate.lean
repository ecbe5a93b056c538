import DatasetGate.Address
import DatasetGate.Calendar.Date
import DatasetGate.Calendar.Instant
import DatasetGate.Calendar.Timestamp
import DatasetGate.Check.Basic
import DatasetGate.Check.Outcome
import DatasetGate.Check.Rows
import DatasetGate.CommandLine
import DatasetGate.Dataset.Delimited
import DatasetGate.Dataset.Inference
import DatasetGate.Dataset.Load
import DatasetGate.Dataset.Table
import DatasetGate.Expectation
import DatasetGate.Files
import DatasetGate.Frame.Basic
import DatasetGate.Frame.Cell
import DatasetGate.Gate
import DatasetGate.Json.Basic
import DatasetGate.Json.Draft
import DatasetGate.Json.Mismatch
import DatasetGate.Json.Number
import DatasetGate.Json.Token
import DatasetGate.Json.Writer
import DatasetGate.Log.Event
import DatasetGate.Log.Filter
import DatasetGate.Log.Layout
import DatasetGate.Main
import DatasetGate.Number.Binary
import DatasetGate.Number.Double
import DatasetGate.Number.Notation
import DatasetGate.Number.Shortest
import DatasetGate.Plan.Basic
import DatasetGate.Plan.Codec
import DatasetGate.Plan.Infer
import DatasetGate.Plan.Load
import DatasetGate.Program
import DatasetGate.Report
import DatasetGate.Selector
import DatasetGate.Session
import DatasetGate.Summary
import DatasetGate.Table
import DatasetGate.Text.Blank
import DatasetGate.Text.Digit
import DatasetGate.Text.Integer
import DatasetGate.Text.Quoted
import DatasetGate.Text.Utf8
import DatasetGate.Text.Width
import DatasetGate.Proofs.PairedColumns
import DatasetGate.Proofs.Judgements
import DatasetGate.Proofs.InferredGate
import DatasetGate.Proofs.SessionRecord
import DatasetGate.Proofs.Calendar.CivilDays
import DatasetGate.Proofs.Calendar.DayCount
import DatasetGate.Proofs.Calendar.Fields
import DatasetGate.Proofs.Calendar.Instants
import DatasetGate.Proofs.Text.Utf8
import DatasetGate.Proofs.Calendar.Timestamp
import DatasetGate.Proofs.Json.Lexing
import DatasetGate.Proofs.Json.Reading
import DatasetGate.Proofs.Json.Values
import DatasetGate.Proofs.Plan.Codec
import DatasetGate.Proofs.Dataset.Plain
import DatasetGate.Proofs.Dataset.Spelling
import DatasetGate.Proofs.Dataset.PlainTable
import DatasetGate.Proofs.Dataset.TableFrame
import DatasetGate.Proofs.RepositoryGate
import DatasetGate.Proofs.CheckErrors
import DatasetGate.Proofs.PlanComposition
import DatasetGate.Proofs.RowLocality
import DatasetGate.Proofs.ExitCode
import DatasetGate.Proofs.Footprint
import DatasetGate.Proofs.InferredErrors
import DatasetGate.Proofs.Number.Literal
import DatasetGate.Proofs.Plan.Refusals
import DatasetGate.Proofs.Dataset.NumberColumn
import DatasetGate.Proofs.ExpectedNumber
import DatasetGate.Proofs.Number.Ranks
import DatasetGate.Proofs.Number.Doubles
import DatasetGate.Proofs.NumberEquality
import DatasetGate.Proofs.Text.Signed
import DatasetGate.Proofs.Number.Notation
import DatasetGate.Proofs.Threshold
import DatasetGate.Proofs.MinimumGate
import DatasetGate.Proofs.RepositoryIdentity
import DatasetGate.Proofs.Calendar.Spellings
import DatasetGate.Proofs.Calendar.Chronology
import DatasetGate.Proofs.DateWindow
import DatasetGate.Proofs.Calendar.SignedYears
import DatasetGate.Proofs.Plan.SavedLimits
import DatasetGate.Proofs.Number.Nearest
import DatasetGate.Proofs.Number.Shortest
import DatasetGate.Proofs.Json.Scaling
import DatasetGate.Proofs.Json.FloatText
import DatasetGate.Proofs.Plan.SavedFloat
import DatasetGate.Proofs.RelaxedBounds
import DatasetGate.Proofs.Calendar.Forms
import DatasetGate.Proofs.Calendar.Grammar
import DatasetGate.Proofs.DateNotation
import DatasetGate.Proofs.Calendar.Alphabet
import DatasetGate.Proofs.DateFormat
import DatasetGate.Proofs.Calendar.Displays
import DatasetGate.Proofs.TypedDates
import DatasetGate.Proofs.Addresses
import DatasetGate.Proofs.ReportContent
import DatasetGate.Proofs.Number.WholeText
import DatasetGate.Proofs.Number.Equality
import DatasetGate.Proofs.NumberStorage
import DatasetGate.Proofs.Json.Layout
import DatasetGate.Proofs.Json.Trees
import DatasetGate.Proofs.Plan.Members
import DatasetGate.Proofs.Plan.Whole
import DatasetGate.Proofs.Plan.Rearranged
import DatasetGate.Proofs.MinimumText
import DatasetGate.Proofs.Plan.Inferred
import DatasetGate.Proofs.Number.NearestDouble
import DatasetGate.Proofs.Number.PlainText
import DatasetGate.Proofs.WholeCells
import DatasetGate.Proofs.RowList
import DatasetGate.Proofs.Dataset.FrameShape
import DatasetGate.Proofs.Dataset.Gates
import DatasetGate.Proofs.FilesApart
import DatasetGate.Proofs.LogSettings
