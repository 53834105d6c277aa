import ChartBoard.Http.Routes
import ChartBoard.Proofs.Relationship.Persistence
import ChartBoard.Proofs.Task

/-!
# Relationships outlast a restart

Whatever clients ask of a board and however often it is restarted, the model file gives back just
the confirmed edges of the graph, and a restart finds them again.

* `keeps_handler` says that every endpoint leaves a settled workspace settled; of all of them, only
  those about relationships touch it.
* `Occasion` is what happens to a board, `afterAll` the board after occasions in turn.
* `relationships_persist` is the result.
-/

namespace ChartBoard.Http

open Relationship ChartBoard.Task

variable {α : Type}

/-- A board whose model file gives back just the confirmed edges of its graph. -/
def IsSettled (b : Board) : Prop := b.workspace.Settled

/-! ## Work that does not concern the workspace -/

theorem keeps_session (work : Engine.Session α) : Keeps IsSettled (Board.session work) := by
  refine keeps_on ?_ work
  exact fun _ _ h => h

theorem keeps_recomputation (work : Task Kpi.Desk α) :
    Keeps IsSettled (Board.recomputation work) := by
  refine keeps_on ?_ work
  exact fun _ _ h => h

theorem keeps_dialogue (work : Assistant.Dialogue α) : Keeps IsSettled (Board.dialogue work) := by
  refine keeps_on ?_ work
  exact fun _ _ h => h

theorem keeps_schemas (settings : Settings) : Keeps IsSettled (Board.schemas settings) :=
  keeps_session _

theorem keeps_changePanel (f : Filtering.Panel → Filtering.Panel) :
    Keeps IsSettled (changePanel f) :=
  keeps_modify fun _ h => h

/-! ## Handlers -/

section Handlers

variable {P : Board → Prop}

theorem keeps_reported {t : Task Board α} (h : Keeps P t) : Keeps P (reported t) := h

theorem keeps_guarded {t : Task Board α} (h : Keeps P t) : Keeps P (guarded t) := h

theorem keeps_bodyAs (read : Form.Reader α) (body : Body) : Keeps P (bodyAs read body) := by
  unfold bodyAs
  extract_lets unusable
  cases body with
  | value v =>
    dsimp only
    split
    · exact keeps_pure _
    · exact keeps_throw _
  | _ => exact keeps_throw _

theorem keeps_parametersAs (read : Record → Form.Checked α) (q : Request) :
    Keeps P (parametersAs read q) := by
  unfold parametersAs
  split
  · exact keeps_pure _
  · exact keeps_throw _

theorem keeps_shownEdge (e : Edge) : Keeps P (shownEdge e) := by
  unfold shownEdge
  split
  · exact keeps_pure _
  · exact keeps_throw _

theorem keeps_shownEdges (edges : List Edge) : Keeps P (shownEdges edges) := by
  have hall : Keeps P (edges.mapM shownEdge) := by
    induction edges with
    | nil => exact keeps_pure _
    | cons e edges ih =>
      rw [List.mapM_cons]
      exact (keeps_shownEdge e).bind fun _ => ih.bind fun _ => keeps_pure _
  exact hall.bind fun _ => keeps_pure _

theorem keeps_listEdges : Keeps P listEdges := keeps_get.bind fun _ => keeps_shownEdges _

end Handlers

/-! ## Endpoints about relationships -/

theorem isStated_edge (f : EdgeForm) : f.edge.IsStated := Datum.truthy_orElse rfl

theorem keeps_edit {e : Edit} (he : e.IsStated) : Keeps IsSettled (edit e) :=
  keeps_modify fun _ h => h.perform he

theorem keeps_addEdge (body : Body) : Keeps IsSettled (addEdge body) :=
  (keeps_bodyAs _ body).bind fun f =>
    (keeps_edit (e := .add f.edge) fun _ => isStated_edge f).bind fun _ => keeps_listEdges

theorem keeps_removeEdge (body : Body) : Keeps IsSettled (removeEdge body) := by
  refine (keeps_bodyAs _ body).bind fun f => keeps_get.bind fun b => ?_
  split
  · exact keeps_throw _
  · exact (keeps_edit (e := .remove f.edge) trivial).bind fun _ => keeps_listEdges

theorem keeps_confirmEdge (body : Body) : Keeps IsSettled (confirmEdge body) := by
  refine (keeps_bodyAs _ body).bind fun f => ?_
  have hstated : (f.edge.confirmed (.text f.cardinality)).IsStated :=
    Datum.truthy_orElse (isStated_edge f)
  exact (keeps_edit (e := .confirm f.edge (.text f.cardinality)) hstated).bind fun _ =>
    keeps_shownEdge _

theorem keeps_suggestEdges (settings : Settings) : Keeps IsSettled (suggestEdges settings) := by
  refine (keeps_reported (keeps_schemas settings)).bind fun tables b hb => ?_
  have hvisit := hb.visit (v := .suggest (Matcher.ofSettings settings) tables) trivial
  exact keeps_shownEdges (P := IsSettled) _ _ hvisit

/-! ## Requests -/

/-- The response says what came of the handler; the board is the one that the handler leaves. -/
theorem isSettled_respond {h : Handler Datum} {b : Board} (hb : IsSettled b)
    (hkeeps : Keeps IsSettled h) : IsSettled (h.respond b).2 := by
  have hnext := hkeeps b hb
  unfold Handler.respond
  split
  · rename_i hresult
    rwa [hresult] at hnext
  · rename_i hresult
    rwa [hresult] at hnext

theorem keeps_handler (settings : Settings) (q : Request) (e : Endpoint) :
    Keeps IsSettled (e.handler settings q) := by
  cases e with
  | health => exact keeps_pure _
  | listTables => exact (keeps_reported (keeps_schemas settings)).bind fun _ => keeps_pure _
  | makeDateTable =>
    exact (keeps_bodyAs _ _).bind fun _ =>
      (keeps_reported (keeps_session _)).bind fun _ => keeps_pure _
  | listEdges => exact keeps_listEdges
  | addEdge => exact keeps_addEdge q.body
  | removeEdge => exact keeps_removeEdge q.body
  | confirmEdge => exact keeps_confirmEdge q.body
  | suggestEdges => exact keeps_suggestEdges settings
  | compileWidget =>
    exact (keeps_bodyAs _ _).bind fun _ => keeps_get.bind fun _ =>
      (keeps_reported ((keeps_schemas settings).bind fun _ => keeps_ofExcept _)).bind fun _ =>
        keeps_pure _
  | renderWidget =>
    exact (keeps_bodyAs _ _).bind fun _ => (keeps_reported (keeps_schemas settings)).bind fun _ =>
      keeps_get.bind fun _ => (keeps_guarded (keeps_session _)).bind fun _ => keeps_pure _
  | drawFigure =>
    exact (keeps_bodyAs _ _).bind fun _ => (keeps_guarded (keeps_ofExcept _)).bind fun _ =>
      keeps_pure _
  | recomputeKeyFigure =>
    exact (keeps_bodyAs _ _).bind fun _ => (keeps_reported (keeps_schemas settings)).bind fun _ =>
      keeps_get.bind fun _ => (keeps_guarded (keeps_recomputation _)).bind fun _ => keeps_pure _
  | listFilters => exact keeps_get.bind fun _ => keeps_pure _
  | clearFilters =>
    exact (keeps_parametersAs _ q).bind fun _ => (keeps_changePanel _).bind fun _ =>
      keeps_get.bind fun _ => keeps_pure _
  | listOptions =>
    exact (keeps_parametersAs _ q).bind fun _ => keeps_get.bind fun _ =>
      (keeps_reported ((keeps_schemas settings).bind fun _ => keeps_session _)).bind fun _ =>
        keeps_pure _
  | selectValue =>
    exact (keeps_bodyAs _ _).bind fun _ => (keeps_changePanel _).bind fun _ =>
      keeps_get.bind fun _ => keeps_pure _
  | applySelection =>
    exact keeps_get.bind fun _ => (keeps_changePanel _).bind fun _ =>
      keeps_get.bind fun _ => keeps_pure _
  | askQuestion =>
    exact (keeps_bodyAs _ _).bind fun _ =>
      (keeps_reported (keeps_dialogue _)).bind fun _ => keeps_pure _

/-! ## Occasions in turn -/

/-- What can happen to a board. -/
inductive Occasion where
  | request (q : Request)
  /-- The model file is read. -/
  | load
  | restart

/-- The board after an occasion. -/
def after (settings : Settings) (b : Board) : Occasion → Board
  | .request q => (serve settings q b).2
  | .load => { b with workspace := b.workspace.load.2 }
  | .restart => { b with workspace := b.workspace.restart.2 }

/-- The board after occasions in turn. -/
def afterAll (settings : Settings) (b : Board) (occasions : List Occasion) : Board :=
  occasions.foldl (after settings) b

theorem isSettled_after {b : Board} (h : IsSettled b) (settings : Settings) (o : Occasion) :
    IsSettled (after settings b o) := by
  cases o with
  | request q =>
    show IsSettled (serve settings q b).2
    unfold serve
    cases resolve q.method q.path with
    | found e => exact isSettled_respond h (keeps_handler settings q e)
    | wrongMethod => exact h
    | unknown => exact h
  | load => exact h.visit (v := .load) trivial
  | restart => exact h.visit (v := .restart) trivial

theorem isSettled_afterAll {b : Board} (h : IsSettled b) (settings : Settings)
    (occasions : List Occasion) : IsSettled (afterAll settings b occasions) := by
  induction occasions generalizing b with
  | nil => exact h
  | cons o occasions ih => exact ih (isSettled_after h settings o)

/-- Started without a model file, or from one to which the confirmed edges of any graph were saved,
the file gives back just the confirmed edges of the graph after every sequence of requests, readings
and restarts, and a further restart leaves these as the whole graph. -/
theorem relationships_persist (settings : Settings) (b : Board)
    (hfile : b.workspace.file = {} ∨ ∃ f initial calls,
      b.workspace.file = ModelFile.save f (Graph.run initial calls).confirmed)
    (occasions : List Occasion) :
    let w := (afterAll settings b (.restart :: occasions)).workspace
    w.load.1 = .ok w.graph.confirmed ∧ w.restart.1 = .ok () ∧
      w.restart.2.graph.edges = w.graph.confirmed := by
  have hstart : IsSettled (after settings b .restart) := by
    rcases hfile with habsent | ⟨f, initial, calls, hsaved⟩
    · exact Workspace.settled_of_absent habsent
    · exact Workspace.settled_of_saved (run_keeps initial calls).1 hsaved
  intro w
  have hw : w.Settled := isSettled_afterAll hstart settings occasions
  rw [hw.restart]
  exact ⟨hw.kept, rfl, rfl⟩

/-- A board whose model file joins orders to their customers. -/
def customersSaved : Board where
  workspace.file := ModelFile.save {} (Graph.run
    [⟨⟨"orders", "customer"⟩, ⟨"customers", "id"⟩, .text "confirmed", .text "one-to-many"⟩]
    []).confirmed

/-- The request to join orders to the cities that they go to. -/
def citiesAdded : Request where
  method := "POST"
  path := "/relationships"
  body := .value (.object [("table1", .text "orders"), ("col1", .text "city"),
    ("table2", .text "cities"), ("col2", .text "name")])

theorem relationships_persist_added :
    let w := (afterAll {} customersSaved [.restart, .request citiesAdded]).workspace
    w.graph.edges.map (·.right.table) = ["customers", "cities"] ∧
      w.load.1 = .ok w.graph.confirmed ∧ w.restart.1 = .ok () ∧
      w.restart.2.graph.edges = w.graph.confirmed :=
  ⟨by decide,
    relationships_persist {} customersSaved (.inr ⟨{}, _, [], rfl⟩) [.request citiesAdded]⟩

end ChartBoard.Http
