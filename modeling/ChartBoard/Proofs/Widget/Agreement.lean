import ChartBoard.Proofs.Engine.Session
import ChartBoard.Proofs.Widget.Chart
import ChartBoard.Widget.Rendered

/-!
# Generated and rendered widgets agree

A widget is generated with the fault that stands in its way as the outcome, and rendered with that
fault among its errors.  The two go the same way: they send the same statement, have the same rows
and the same chart, and part only where a fault is shown instead of raised.

* `Agrees` relates the outcomes of the two.
* `outcome_generate` and `outcome_render` are the two by the outcome of the only statement.
* `render_agrees` is the result.
-/

namespace ChartBoard.Widget

open Engine (Database execute)
open Result

variable {settings : Settings} {s : Source} {edges : List Relationship.Edge}
  {schemas : List Schema.Table} {view : View} {c : Compiled} {rows : List Record} {chart : Record}
  {db : Database}

/-- How far a widget comes: the statement that is sent for it, empty if there is none, and the rows
that the engine gives. -/
def Source.reached (settings : Settings) (s : Source) (edges : List Relationship.Edge)
    (schemas : List Schema.Table) (db : Database) : String × List Record :=
  match s.compile settings edges schemas [] with
  | .error _ => ("", [])
  | .ok compiled => (compiled.sql, ((execute compiled.sql).outcome db).1.toOption.getD [])

/-- The outcomes of generating and of rendering a widget that comes as far as a statement and
rows. -/
inductive Agrees (view : View) (reached : String × List Record) :
    Except Fault Generated → Except Fault Rendered → Prop
  /-- What is generated is shown, with the figure of the chart and without errors. -/
  | shown {g : Generated} {figure : Figure} (hreached : reached = (g.compiled.sql, g.rows))
      (hfigure : Figure.ofChart (.object g.chart) view.theme = .ok figure) :
      Agrees view reached (.ok g) (.ok ⟨g.compiled.sql, g.rows, some g.chart, figure, [], false⟩)
  /-- A fault that is for the user to see is the only error of a widget without a chart. -/
  | reported {fault : Fault} (hfault : fault.isShown = true) :
      Agrees view reached (.error fault)
        (.ok ⟨reached.1, reached.2, none,
          Figure.placeholder (.text "No configuration") view.theme, [fault.message], false⟩)
  /-- Any other fault is the outcome of both. -/
  | escaped {fault : Fault} (hfault : fault.isShown = false) :
      Agrees view reached (.error fault) (.error fault)

/-! ## Charts without filters -/

theorem filtered_nil : Filtering.filtered [] s chart = chart := by
  unfold Filtering.filtered Filtering.filtered? Filtering.allowedLabels?
  cases Filtering.axisField? s with
  | none => rfl
  | some field => rfl

theorem filteredChart_of_unfiltered (hfilters : view.filters = .ok []) :
    s.filteredChart view chart = .ok chart := by
  unfold Source.filteredChart
  split
  · rfl
  · rw [hfilters]
    exact congrArg Except.ok filtered_nil

theorem ofChart_of_unfiltered {sql : String} {figure : Figure} (hfilters : view.filters = .ok [])
    (hmark : Record.get chart Figure.emptyMark = .null)
    (hfigure : Figure.ofChart (.object chart) view.theme = .ok figure) :
    Rendered.ofChart s view sql rows chart = .ok ⟨sql, rows, some chart, figure, [], false⟩ := by
  unfold Rendered.ofChart
  rw [filteredChart_of_unfiltered hfilters]
  refine bind_eq_ok.mpr ⟨chart, rfl, bind_eq_ok.mpr ⟨figure, hfigure, ?_⟩⟩
  rw [hmark]
  rfl

/-! ## Faults -/

theorem agrees_failed (view : View) (reached : String × List Record) (fault : Fault) :
    Agrees view reached (.error fault) (Rendered.failed view reached.1 reached.2 fault) := by
  unfold Rendered.failed
  cases hfault : fault.isShown with
  | true => exact .reported hfault
  | false => exact .escaped hfault

/-! ## Rows -/

/-- What is generated from rows. -/
def generatedOf (limits : Limits) (s : Source) (c : Compiled) (theme : Option String)
    (rows : List Record) : Except Fault Generated :=
  if rows.isEmpty then .error (.misuse .noData)
  else (s.chart limits c theme rows).map fun chart => ⟨c, rows, chart⟩

theorem agrees_ofRows (limits : Limits) (view : View) (hfilters : view.filters = .ok []) :
    Agrees view (c.sql, rows) (generatedOf limits s c view.themeName rows)
      (Rendered.ofRows limits s view c rows) := by
  unfold generatedOf Rendered.ofRows
  split
  · exact agrees_failed view (c.sql, rows) _
  · cases hchart : s.chart limits c view.themeName rows with
    | error fault => exact agrees_failed view (c.sql, rows) fault
    | ok chart =>
      obtain ⟨figure, hfigure⟩ := s.exists_figure hchart view.theme
      dsimp only
      rw [ofChart_of_unfiltered hfilters (s.unmarked_chart hchart) hfigure]
      exact .shown (g := ⟨c, rows, chart⟩) rfl hfigure

/-! ## The two ways -/

theorem outcome_generate (theme : Option String) :
    (generate settings s edges schemas theme).outcome db =
      match s.compile settings edges schemas [] with
      | .error fault => (.error fault, db)
      | .ok c =>
        (((execute c.sql).outcome db).1.bind (generatedOf settings.limits s c theme),
          ((execute c.sql).outcome db).2) := by
  unfold generate
  rw [Task.outcome_bind, Task.outcome_ofExcept]
  cases s.compile settings edges schemas [] with
  | error fault => rfl
  | ok c =>
    dsimp only
    rw [Task.outcome_bind]
    cases (execute c.sql).outcome db with
    | mk answer next =>
      cases answer with
      | error fault => rfl
      | ok rows =>
        dsimp only [Except.bind]
        unfold generatedOf
        split
        · rfl
        · rw [Task.outcome_bind, Task.outcome_ofExcept]
          cases s.chart settings.limits c theme rows <;> rfl

theorem outcome_render (view : View) :
    (render settings s edges schemas view).outcome db =
      match s.compile settings edges schemas [] with
      | .error fault => (Rendered.failed view "" [] fault, db)
      | .ok c =>
        (match ((execute c.sql).outcome db).1 with
          | .error fault => Rendered.failed view c.sql [] fault
          | .ok rows => Rendered.ofRows settings.limits s view c rows,
          ((execute c.sql).outcome db).2) := by
  unfold render
  cases s.compile settings edges schemas [] with
  | error fault => rfl
  | ok c =>
    dsimp only
    rw [Task.outcome_bind, Task.outcome_attempt]
    dsimp only
    cases ((execute c.sql).outcome db).1 <;> rfl

/-- Without filters, rendering a widget and generating it agree on every source, all relationships,
every schema, every theme and every engine.  Both leave the same engine behind: untouched when the
source cannot be compiled, else with one more statement, the compiled one. -/
theorem render_agrees (settings : Settings) (s : Source) (edges : List Relationship.Edge)
    (schemas : List Schema.Table) (theme : Figure.Theme) (themeName : Option String)
    (db : Database) :
    let view : View := { theme := theme, themeName := themeName }
    let generated := (generate settings s edges schemas themeName).outcome db
    let rendered := (render settings s edges schemas view).outcome db
    Agrees view (s.reached settings edges schemas db) generated.1 rendered.1 ∧
      generated.2 = rendered.2 ∧
      (∀ fault, s.compile settings edges schemas [] = .error fault → rendered.2 = db) ∧
      ∀ c, s.compile settings edges schemas [] = .ok c →
        rendered.2.statements = db.statements ++ [c.sql] := by
  intro view generated rendered
  have hgenerated : generated = _ := outcome_generate themeName
  have hrendered : rendered = _ := outcome_render view
  unfold Source.reached
  cases hc : s.compile settings edges schemas [] with
  | error fault =>
    rw [hc] at hgenerated hrendered
    rw [hgenerated, hrendered]
    exact ⟨agrees_failed view ("", []) fault, rfl, fun _ _ => rfl, nofun⟩
  | ok c =>
    rw [hc] at hgenerated hrendered
    rw [hgenerated, hrendered]
    refine ⟨?_, rfl, nofun, ?_⟩
    · dsimp only
      cases ((execute c.sql).outcome db).1 with
      | error fault => exact agrees_failed view (c.sql, []) fault
      | ok rows => exact agrees_ofRows settings.limits view rfl
    · rintro c' hc'
      obtain rfl := Except.ok.inj hc'
      exact Engine.statements_execute db c.sql

end ChartBoard.Widget
