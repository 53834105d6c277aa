import ChartBoard.Relationship.Edge
import ChartBoard.Widget.Source

/-!
# Forms of requests

What the bodies of requests hold, one form for each kind of request.

* Every form has a reader, `YearsForm.read` and so on.
-/

namespace ChartBoard.Http

open Form

/-- A form with the members of an object. -/
def formOf {α : Type} (read : Record → Checked α) : Reader α
  | .object r => read r
  | _ => Checked.problem .notBody

/-- A text with at least one character. -/
def someText : Reader String := textOfLength 1 none

/-- The years of a calendar table. -/
structure YearsForm where
  first : Int
  last : Int
deriving DecidableEq, Repr

/-- Reads the years of a calendar table. -/
def YearsForm.read : Reader YearsForm := formOf fun r =>
  let year (name : String) := required r (.ofName name) (integerBetween 1900 2200)
  .and YearsForm.mk (year "start_year") (year "end_year")

/-- An edge. -/
structure EdgeForm where
  left : Relationship.Endpoint
  right : Relationship.Endpoint
  status : String
  cardinality : String
deriving DecidableEq, Repr

/-- Reads an edge. -/
def EdgeForm.read : Reader EdgeForm := formOf fun r =>
  let part (name : String) := required r (.ofName name) someText
  .apply (.apply
    (.and (fun left right status cardinality => EdgeForm.mk left right status cardinality)
      (.and Relationship.Endpoint.mk (part "table1") (part "col1"))
      (.and Relationship.Endpoint.mk (part "table2") (part "col2")))
    (withDefault r (.ofName "type") Relationship.confirmedStatus text))
    (withDefault r (.ofName "cardinality") Relationship.defaultCardinality text)

/-- The edge that a form means; an empty word stands for the usual one. -/
def EdgeForm.edge (f : EdgeForm) : Relationship.Edge :=
  { left := f.left
    right := f.right
    status := (Datum.text f.status).orElse (.text Relationship.confirmedStatus)
    cardinality := (Datum.text f.cardinality).orElse (.text Relationship.defaultCardinality) }

/-- A widget to be compiled or shown. -/
structure WidgetForm where
  source : Widget.Source
  themeName : Option String
  dark : Bool
  usesFilters : Bool

/-- Reads a widget to be compiled or shown. -/
def WidgetForm.read : Reader WidgetForm := formOf fun r =>
  .apply (.apply (.and WidgetForm.mk
    (required r (.ofName "source") (Widget.Source.read .notBody))
    (withDefault r (.ofName "theme_name") (some "default") (nullable text)))
    (withDefault r (.ofName "dark") false bool))
    (withDefault r (.ofName "use_filters") true bool)

/-- A chart to be drawn, with rows to fall back on. -/
structure FigureForm where
  chart : Datum
  rows : Option (List Record)
  dark : Bool

/-- Reads a chart to be drawn. -/
def FigureForm.read : Reader FigureForm := formOf fun r =>
  .apply (.and FigureForm.mk
    (withDefault r (.ofName "config") .null anything)
    (withDefault r (.ofName "rows") none (nullable (listOf objectOf))))
    (withDefault r (.ofName "dark") false bool)

/-- The rows of a figure, null if none are given. -/
def FigureForm.rowsDatum (f : FigureForm) : Datum :=
  match f.rows with
  | some rows => .list (rows.map .object)
  | none => .null

/-- A key figure to be computed anew. -/
structure KeyFigureForm where
  widget : String
  source : Widget.Source
  base : Option Record

/-- Reads a key figure to be computed anew. -/
def KeyFigureForm.read : Reader KeyFigureForm := formOf fun r =>
  .apply (.and KeyFigureForm.mk
    (required r (.ofName "widget_id") someText)
    (required r (.ofName "source") (Widget.Source.read .notBody)))
    (withDefault r (.ofName "base_kpi") none (nullable objectOf))

/-- A click on a value of a chart. -/
structure ClickForm where
  widget : String
  table : String
  column : String
  value : Datum
  options : List Datum

/-- Reads a click. -/
def ClickForm.read : Reader ClickForm := formOf fun r =>
  .apply (.apply (.apply (.and ClickForm.mk
    (required r (.ofName "widget_id") someText)
    (required r (.ofName "table_name") someText))
    (required r (.ofName "column") someText))
    (withDefault r (.ofName "value") .null anything))
    (withDefault r (.ofName "options") [] (listOf anything))

/-- A question to the assistant. -/
structure QuestionForm where
  question : String
  mode : String
  provider : Option String
deriving DecidableEq, Repr

/-- Reads a question. -/
def QuestionForm.read : Reader QuestionForm := formOf fun r =>
  .apply (.and QuestionForm.mk
    (required r (.ofName "question") (textOfLength 3 (some 2000)))
    (withDefault r (.ofName "mode") "auto" text))
    (withDefault r (.ofName "provider") none (nullable text))

end ChartBoard.Http
