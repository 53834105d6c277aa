import ChartBoard.Datum.Basic

/-!
# Themes

Colours by name for charts that bring none of their own.

* `presetOf` finds a theme, the default one for names that are not known.
* `themed` fills in what a chart leaves open.
-/

namespace ChartBoard.Chart

/-- The colours of a theme: those of the series, in turn, and that of the text. -/
structure Preset where
  colors : List String
  ink : String
deriving DecidableEq, Repr

/-- The theme without a name. -/
def Preset.default : Preset :=
  ⟨["#06b6d4", "#3b82f6", "#22c55e", "#f59e0b", "#ef4444", "#8b5cf6", "#14b8a6", "#f97316"],
    "#1f2937"⟩

/-- The further themes by name. -/
def presets : List (String × Preset) :=
  [("pastel", ⟨["#7dd3fc", "#93c5fd", "#86efac", "#fcd34d", "#fca5a5", "#c4b5fd", "#99f6e4",
      "#fdba74"], "#1f2937"⟩),
   ("dark", ⟨["#67e8f9", "#60a5fa", "#4ade80", "#fbbf24", "#fb7185", "#a78bfa", "#2dd4bf",
      "#fb923c"], "#e2e8f0"⟩),
   ("vibrant", ⟨["#00bcd4", "#1d4ed8", "#16a34a", "#f97316", "#dc2626", "#9333ea", "#0ea5e9",
      "#84cc16"], "#1f2937"⟩),
   ("nature", ⟨["#15803d", "#16a34a", "#22c55e", "#84cc16", "#65a30d", "#4d7c0f", "#166534",
      "#14532d"], "#1f2937"⟩)]

/-- The theme of a name. -/
def presetOf (name : String) : Preset := (presets.lookup name).getD .default

/-- The description of the text of a theme. -/
def Preset.textStyle (p : Preset) : Datum :=
  .object [("fontFamily", .text "'Manrope', 'Space Grotesk', 'Segoe UI', sans-serif"),
    ("color", .text p.ink)]

/-- The chart with the colours of a theme where it has none.  The theme `custom` takes its colours,
if any are given, over those of the chart. -/
def themed (theme : Option String) (colors : List Datum) (chart : Record) : Record :=
  let preset := presetOf (theme.getD "")
  let filled := Record.setIfAbsent (Record.setIfAbsent chart "color" (.texts preset.colors))
    "textStyle" preset.textStyle
  if theme == some "custom" && !colors.isEmpty then Record.set filled "color" (.list colors)
  else filled

end ChartBoard.Chart
