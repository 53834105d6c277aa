import ChartBoard.Assistant.Ask
import ChartBoard.Calendar.Reading
import ChartBoard.Chart.Finish
import ChartBoard.Chart.KeyFigure
import ChartBoard.Chart.Spec
import ChartBoard.Datum.Display
import ChartBoard.Datum.Reading
import ChartBoard.Datum.Unique
import ChartBoard.Engine.Catalog
import ChartBoard.Engine.Pool
import ChartBoard.Figure.Variant
import ChartBoard.Filtering.Active
import ChartBoard.Filtering.Matching
import ChartBoard.Filtering.Operation
import ChartBoard.Filtering.Options
import ChartBoard.Filtering.Panel
import ChartBoard.Http.Routes
import ChartBoard.Json.Reading
import ChartBoard.Json.Tagged
import ChartBoard.Json.Writing
import ChartBoard.Kpi.Recompute
import ChartBoard.Kpi.Schedule
import ChartBoard.Number.Notation
import ChartBoard.Number.Reading
import ChartBoard.Proofs.Assistant.Ask
import ChartBoard.Proofs.Assistant.Display
import ChartBoard.Proofs.Assistant.Tagged
import ChartBoard.Proofs.Chart.AliasLines
import ChartBoard.Proofs.Chart.HalfTyped
import ChartBoard.Proofs.Chart.NamedSlices
import ChartBoard.Proofs.Chart.Pivot
import ChartBoard.Proofs.Chart.Repair
import ChartBoard.Proofs.Engine.DateLabel
import ChartBoard.Proofs.Figure.Datasets
import ChartBoard.Proofs.Figure.Kept
import ChartBoard.Proofs.Figure.Repaired
import ChartBoard.Proofs.Figure.Total
import ChartBoard.Proofs.Figure.Usable
import ChartBoard.Proofs.Filtering.Columns
import ChartBoard.Proofs.Filtering.Offered
import ChartBoard.Proofs.Filtering.Restricted
import ChartBoard.Proofs.Filtering.Session
import ChartBoard.Proofs.Filtering.Toggling
import ChartBoard.Proofs.Http.Persistence
import ChartBoard.Proofs.Kpi.Filtered
import ChartBoard.Proofs.Kpi.Latest
import ChartBoard.Proofs.Relationship.Interleaving
import ChartBoard.Proofs.Relationship.Suggestions
import ChartBoard.Proofs.Seed.Currency
import ChartBoard.Proofs.Sql.Cleaning
import ChartBoard.Proofs.Widget.Agreement
import ChartBoard.Proofs.Widget.Click
import ChartBoard.Proofs.Widget.Columns
import ChartBoard.Proofs.Widget.DateLabel
import ChartBoard.Proofs.Widget.Grouped
import ChartBoard.Proofs.Widget.Joins
import ChartBoard.Proofs.Widget.References
import ChartBoard.Proofs.Widget.Statement
import ChartBoard.Proofs.Widget.Windows
import ChartBoard.Relationship.Interleaving
import ChartBoard.Relationship.JoinPath
import ChartBoard.Relationship.ModelFile
import ChartBoard.Seed.Tables
import ChartBoard.Settings.Environment
import ChartBoard.Sql.Scan
import ChartBoard.Text.Blank
import ChartBoard.Text.Case
import ChartBoard.Text.Lines
import ChartBoard.Text.Quoted
import ChartBoard.Text.Search
import ChartBoard.Widget.Compiled
import ChartBoard.Widget.Config
import ChartBoard.Widget.Rendered
