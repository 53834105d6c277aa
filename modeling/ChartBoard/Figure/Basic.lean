import ChartBoard.Chart.Amount
import ChartBoard.Chart.Theme

/-!
# Figures

A chart ready to be drawn: its points under their labels, its titles, colours and look.

* `Figure.toRecord` is its description.
* `Figure.selected` is the label behind a point that was clicked.
-/

namespace ChartBoard

open Chart (Amount)

namespace Figure

/-- A named row of numbers. -/
structure Line where
  name : String
  values : List Amount

/-- Where a point lies across: at a number or at a label. -/
inductive Place where
  | at (x : Float)
  | named (label : String)

/-- A point of a scatter chart. -/
structure Point where
  place : Place
  height : Float

/-- A named set of points. -/
structure Cloud where
  name : String
  points : List Point

/-- What a figure shows. -/
inductive Content where
  /-- Bars, or lines when `curved` is set, over categories. -/
  | axis (curved : Bool) (categories : List String) (lines : List Line) (xTitle yTitle : String)
  | pie (labels : List String) (values : List Amount)
  | radar (labels : List String) (lines : List Line)
  | scatter (clouds : List Cloud) (xTitle yTitle : String)

/-- The look of a figure. -/
structure Look where
  dark : Bool
  dataLabels : Bool
  grid : Bool
  smooth : Bool
  legend : Bool
  sharedTooltip : Bool
deriving DecidableEq, Repr

end Figure

/-- A chart ready to be drawn.  A figure is a fallback when there was nothing to draw. -/
structure Figure where
  content : Figure.Content
  title : Datum
  colors : List Datum
  look : Figure.Look
  fallback : Bool

namespace Figure

/-- How figures are to look, whatever they show. -/
structure Theme where
  dark : Bool := false
  palette : List Datum := Chart.Preset.default.colors.map .text

/-! ## Description -/

/-- The word for the kind of a figure. -/
def Content.kindName : Content → String
  | axis curved .. => if curved then "line" else "bar"
  | pie .. => "pie"
  | radar .. => "radar"
  | scatter .. => "scatter"

/-- The description of a row of numbers. -/
def Line.toDatum (l : Line) : Datum :=
  .object [("name", .text l.name), ("data", .list (l.values.map Amount.toDatum))]

/-- The description of a place. -/
def Place.toDatum : Place → Datum
  | .at x => .float x
  | named s => .text s

/-- The description of a point. -/
def Point.toDatum (p : Point) : Datum := .object [("x", p.place.toDatum), ("y", .float p.height)]

/-- The description of a set of points. -/
def Cloud.toDatum (c : Cloud) : Datum :=
  .object [("name", .text c.name), ("data", .list (c.points.map Point.toDatum))]

/-- The numbers of a figure. -/
def Content.series : Content → Datum
  | axis _ _ lines _ _ => .list (lines.map Line.toDatum)
  | pie _ values => .list (values.map Amount.toDatum)
  | radar _ lines => .list (lines.map Line.toDatum)
  | scatter clouds _ _ => .list (clouds.map Cloud.toDatum)

/-- The labels along the X axis. -/
def Content.categories : Content → List String
  | axis _ categories _ _ _ => categories
  | radar labels _ => labels
  | _ => []

/-- The labels of slices and indicators. -/
def Content.labels : Content → List String
  | pie labels _ => labels
  | radar labels _ => labels
  | _ => []

/-- The titles of both axes. -/
def Content.axisTitles : Content → String × String
  | axis _ _ _ x y => (x, y)
  | scatter _ x y => (x, y)
  | _ => ("", "")

/-- The description of a look. -/
def Look.toDatum (l : Look) : Datum :=
  .object [("foreColor", .text (if l.dark then "#cbd5e1" else "#475569")),
    ("dataLabels", .bool l.dataLabels), ("grid", .bool l.grid),
    ("curve", .text (if l.smooth then "smooth" else "straight")), ("legend", .bool l.legend),
    ("sharedTooltip", .bool l.sharedTooltip),
    ("tooltipTheme", .text (if l.dark then "dark" else "light"))]

/-- The description of a figure. -/
def toRecord (f : Figure) : Record :=
  [("type", .text f.content.kindName), ("series", f.content.series),
   ("categories", .texts f.content.categories), ("labels", .texts f.content.labels),
   ("title", f.title), ("x_title", .text f.content.axisTitles.1),
   ("y_title", .text f.content.axisTitles.2), ("colors", .list f.colors),
   ("options", f.look.toDatum), ("fallback", .bool f.fallback)]

/-! ## Selection -/

/-- The label behind a point, if the figure has that point. -/
def Content.labelAt? (c : Content) (series point : Nat) : Option Place :=
  match c with
  | axis _ categories _ _ _ => categories[point]?.map .named
  | pie labels _ => labels[point]?.map .named
  | radar labels _ => labels[point]?.map .named
  | scatter clouds _ _ => clouds[series]?.bind fun cloud => cloud.points[point]?.map (·.place)

/-- The label behind a clicked point.  A fallback has no points to click. -/
def selected (f : Figure) (series point : Int) : Option Place :=
  if f.fallback || point < 0 || series < 0 then none
  else f.content.labelAt? series.toNat point.toNat

end Figure

end ChartBoard
