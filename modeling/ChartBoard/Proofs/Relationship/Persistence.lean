import ChartBoard.Proofs.Datum.Label
import ChartBoard.Proofs.Relationship.Bindings
import ChartBoard.Proofs.Result
import ChartBoard.Relationship.Workspace

/-!
# The file follows the graph

A workspace is settled when its file gives back just the confirmed edges of its graph.  It is after
a restart, from no file or from one that some graph was saved to, and nothing that happens to it
later changes that: an edit writes the file, and fresh suggestions are not in it.

* `Edge.ofDatum_toDatum` says what becomes of an edge that is written and read again,
  `load_save` what becomes of the edges of a graph.
* `Workspace.Settled` is the invariant, `Settled.visit` says that whatever happens keeps it.
* `Settled.restart` says what a restart leaves of a settled workspace.
-/

namespace ChartBoard.Relationship

open Result

variable {edges : List Edge} {g : Graph} {w : Workspace}

/-! ## Writing and reading an edge -/

namespace Edge

variable {e : Edge}

/-- An edge with a cardinality of its own. -/
def IsStated (e : Edge) : Prop := e.cardinality.truthy = true

/-- The edge with the usual cardinality where it has none of its own. -/
def stated (e : Edge) : Edge :=
  { e with cardinality := e.cardinality.orElse (.text defaultCardinality) }

theorem stated_of_isStated (h : e.IsStated) : e.stated = e := by
  unfold stated Datum.orElse
  rw [if_pos (show e.cardinality.truthy = true from h)]

theorem isStated_stated (e : Edge) : e.stated.IsStated := Datum.truthy_orElse rfl

theorem ends_stated (e : Edge) : e.stated.ends = e.ends := rfl

theorem status_of_isConfirmed (h : e.isConfirmed = true) : e.status = .text confirmedStatus := by
  unfold isConfirmed at h
  split at h
  · rename_i s hs
    rw [hs, beq_iff_eq.mp h]
  · cases h

/-- An edge that may be used for joins is read from its own description. -/
theorem ofDatum_toDatum (h : e.isConfirmed = true) : Edge.ofDatum e.toDatum = .ok e.stated := by
  have hstatus : e.status.orElse (.text confirmedStatus) = e.status := by
    rw [status_of_isConfirmed h]
    rfl
  have hread : Edge.ofDatum e.toDatum =
      .ok { e.stated with status := e.status.orElse (.text confirmedStatus) } := rfl
  rw [hread, hstatus]
  rfl

end Edge

/-! ## Writing and reading the file -/

theorem isConfirmed_of_mem_confirmedOf {e : Edge} (h : e ∈ confirmedOf edges) :
    e.isConfirmed = true :=
  (List.mem_filter.mp h).2

theorem edgesOfModel_modelOfEdges (edges : List Edge) :
    edgesOfModel (modelOfEdges edges) = .ok ((confirmedOf edges).map Edge.stated) := by
  have hitems : ((modelOfEdges edges).get "relationships").itemsIfAny =
      .ok ((confirmedOf edges).map Edge.toDatum) := by
    show (Datum.list ((confirmedOf edges).map Edge.toDatum)).itemsIfAny = _
    cases (confirmedOf edges).map Edge.toDatum <;> rfl
  have hread : ((confirmedOf edges).map Edge.toDatum).mapM Edge.ofDatum =
      .ok ((confirmedOf edges).map Edge.stated) := by
    rw [List.mapM_map]
    exact mapM_eq_map fun e he => Edge.ofDatum_toDatum (isConfirmed_of_mem_confirmedOf he)
  have hmodel : edgesOfModel (modelOfEdges edges) =
      ((modelOfEdges edges).get "relationships").itemsIfAny >>= fun items =>
        items.mapM Edge.ofDatum := rfl
  rw [hmodel, hitems]
  exact hread

namespace ModelFile

variable {f : ModelFile}

theorem load_save (f : ModelFile) (edges : List Edge) :
    (f.save edges).load.1 = .ok ((confirmedOf edges).map Edge.stated) := by
  simp only [save, load, edgesOfModel_modelOfEdges]

theorem load_of_remembered (h : f.remembered = some edges) : f.load = (.ok edges, f) := by
  rw [load, h]

theorem remembered_of_load (h : f.load.1 = .ok edges) : f.load.2.remembered = some edges := by
  obtain ⟨content, remembered⟩ := f
  cases remembered with
  | some known => exact congrArg some (Except.ok.inj h)
  | none =>
    cases content with
    | none => exact congrArg some (Except.ok.inj h)
    | some model =>
      simp only [load] at h ⊢
      cases hmodel : edgesOfModel model with
      | ok known =>
        rw [hmodel] at h
        exact congrArg some (Except.ok.inj h)
      | error fault =>
        rw [hmodel] at h
        cases h

theorem load_load (h : f.load.1 = .ok edges) : f.load.2.load.1 = .ok edges := by
  rw [load_of_remembered (remembered_of_load h)]

end ModelFile

/-! ## Edges that can be kept -/

/-- Edges that come back from a file as they are: no relationship is there twice, and those that may
be used for joins have a cardinality of their own. -/
structure Storable (edges : List Edge) : Prop where
  nodup : (edges.map Edge.ends).Nodup
  stated : ∀ e ∈ edges, e.isConfirmed = true → e.IsStated

theorem mem_of_mem_insertEdge {e x : Edge} (h : x ∈ insertEdge edges e) : x ∈ edges ∨ x = e := by
  induction edges with
  | nil => exact .inr (List.mem_singleton.mp h)
  | cons y rest ih =>
    rw [insertEdge] at h
    split at h
    · rcases List.mem_cons.mp h with hx | hx
      · split at hx
        · exact .inl (hx ▸ List.mem_cons_self)
        · exact .inr hx
      · exact .inl (List.mem_cons_of_mem y hx)
    · rcases List.mem_cons.mp h with hx | hx
      · exact .inl (hx ▸ List.mem_cons_self)
      · exact (ih hx).imp_left (List.mem_cons_of_mem y)

theorem insertEdge_of_notMem {e : Edge} (h : e.ends ∉ edges.map Edge.ends) :
    insertEdge edges e = edges ++ [e] := by
  induction edges with
  | nil => rfl
  | cons x rest ih =>
    simp only [List.map_cons, List.mem_cons, not_or] at h
    have hsame : ¬ x.same e = true := fun hsame => h.1 (Edge.same_iff.mp hsame).symm
    rw [insertEdge, if_neg hsame, ih h.2, List.cons_append]

theorem edges_foldl_add (h : ((g.edges ++ edges).map Edge.ends).Nodup) :
    (edges.foldl Graph.add g).edges = g.edges ++ edges := by
  induction edges generalizing g with
  | nil => simp
  | cons e edges ih =>
    have hnew : e.ends ∉ g.edges.map Edge.ends := by
      rw [List.map_append, List.map_cons] at h
      exact fun hmem => (List.nodup_append.mp h).2.2 _ hmem _ List.mem_cons_self rfl
    have hadd : (g.add e).edges = g.edges ++ [e] := insertEdge_of_notMem hnew
    have hrest : (((g.add e).edges ++ edges).map Edge.ends).Nodup := by
      rw [hadd]
      simpa using h
    rw [List.foldl_cons, ih hrest, hadd, List.append_assoc, List.singleton_append]

theorem ofEdges_of_nodup (h : (edges.map Edge.ends).Nodup) : Graph.ofEdges edges = ⟨edges⟩ :=
  congrArg Graph.mk (edges_foldl_add (g := Graph.empty) h)

/-- Fresh suggestions leave the edges for joins alone. -/
theorem confirmed_refreshBy (g : Graph) (accepts : String → Bool) (tables : List Schema.Table) :
    (g.refreshBy accepts tables).2.confirmed = g.confirmed := by
  have hfound : confirmedOf (g.refreshBy accepts tables).1 = [] := by
    refine List.filter_eq_nil_iff.mpr fun e he => ?_
    rw [((mem_refreshBy accepts tables).mp he).2]
    exact Bool.false_ne_true
  have hedges : (g.refreshBy accepts tables).2.edges =
      confirmedOf g.edges ++ (g.refreshBy accepts tables).1 := rfl
  have happend : confirmedOf (confirmedOf g.edges ++ (g.refreshBy accepts tables).1) =
      confirmedOf (confirmedOf g.edges) ++ confirmedOf (g.refreshBy accepts tables).1 :=
    List.filter_append ..
  rw [Graph.confirmed, hedges, happend, hfound, confirmedOf_confirmedOf, List.append_nil]
  rfl

/-- An edit after which every edge for joins has a cardinality of its own if it had before. -/
def Edit.IsStated : Edit → Prop
  | add e => e.isConfirmed = true → e.IsStated
  | remove _ => True
  | confirm e cardinality => (e.confirmed cardinality).IsStated

namespace Storable

theorem sublist {edges' : List Edge} (h : Storable edges) (hsub : edges'.Sublist edges) :
    Storable edges' where
  nodup := h.nodup.sublist (hsub.map Edge.ends)
  stated := fun e he => h.stated e (hsub.subset he)

theorem insert {e : Edge} (h : Storable edges) (he : e.isConfirmed = true → e.IsStated) :
    Storable (insertEdge edges e) where
  nodup := nodup_insertEdge h.nodup e
  stated := by
    intro x hx
    rcases mem_of_mem_insertEdge hx with hmem | rfl
    · exact h.stated x hmem
    · exact he

theorem apply {e : Edit} (h : Storable g.edges) (he : e.IsStated) :
    Storable (e.apply g).edges := by
  cases e with
  | add e => exact h.insert he
  | remove e => exact h.sublist List.filter_sublist
  | confirm e cardinality => exact h.insert fun _ => he

theorem refreshBy (h : Storable g.edges) (accepts : String → Bool) (tables : List Schema.Table) :
    Storable (g.refreshBy accepts tables).2.edges where
  nodup := nodup_refreshBy accepts tables h.nodup
  stated := by
    intro e he hconfirmed
    have hmem : e ∈ (g.refreshBy accepts tables).2.confirmed := List.mem_filter.mpr ⟨he, hconfirmed⟩
    rw [confirmed_refreshBy] at hmem
    exact h.stated e (List.mem_filter.mp hmem).1 hconfirmed

/-- The edges for joins come back from a file as they are. -/
theorem load_save (h : Storable edges) (f : ModelFile) :
    (f.save (confirmedOf edges)).load.1 = .ok (confirmedOf edges) := by
  have hstated : (confirmedOf edges).map Edge.stated = confirmedOf edges := by
    have hid : ∀ e ∈ confirmedOf edges, e.stated = id e := fun e he =>
      Edge.stated_of_isStated
        (h.stated e (List.mem_filter.mp he).1 (isConfirmed_of_mem_confirmedOf he))
    rw [List.map_congr_left hid, List.map_id]
  rw [f.load_save, confirmedOf_confirmedOf, hstated]

end Storable

/-- Whatever cardinalities edges are written with, all have one when they are read again. -/
theorem storable_map_stated (h : (edges.map Edge.ends).Nodup) :
    Storable (edges.map Edge.stated) where
  nodup := by
    have hends : Edge.ends ∘ Edge.stated = Edge.ends := funext Edge.ends_stated
    rwa [List.map_map, hends]
  stated := by
    intro x hx _
    obtain ⟨e, -, rfl⟩ := List.mem_map.mp hx
    exact e.isStated_stated

/-! ## Settled workspaces -/

/-- A workspace whose file gives back just the edges for joins of its graph. -/
structure Workspace.Settled (w : Workspace) : Prop where
  storable : Storable w.graph.edges
  kept : w.file.load.1 = .ok w.graph.confirmed

/-- A visit that asks for no edit but those after which edges for joins have cardinalities of their
own. -/
def Visit.IsStated : Visit → Prop
  | edit e => e.IsStated
  | _ => True

namespace Workspace

/-- A restart takes the edges of the file for the graph. -/
theorem restart_of_load (hload : w.file.load.1 = .ok edges) (hnodup : (edges.map Edge.ends).Nodup) :
    w.restart = (.ok (), ⟨⟨edges⟩, w.file.load.2⟩) := by
  have hbootstrap : w.file.bootstrap w.graph = (.ok ⟨edges⟩, w.file.load.2) := by
    unfold ModelFile.bootstrap
    cases hfile : w.file.load with
    | mk result f =>
      rw [hfile] at hload
      obtain rfl : result = .ok edges := hload
      rw [← ofEdges_of_nodup hnodup]
      rfl
  rw [restart, hbootstrap]

theorem settled_restart (hload : w.file.load.1 = .ok edges) (h : Storable edges)
    (hconfirmed : confirmedOf edges = edges) : w.restart.2.Settled := by
  rw [restart_of_load hload h.nodup]
  exact ⟨h, (ModelFile.load_load hload).trans (congrArg Except.ok hconfirmed.symm)⟩

namespace Settled

theorem restart (h : w.Settled) :
    w.restart = (.ok (), ⟨⟨w.graph.confirmed⟩, w.file.load.2⟩) :=
  restart_of_load h.kept (h.storable.sublist List.filter_sublist).nodup

theorem perform {e : Edit} (h : w.Settled) (he : e.IsStated) : (w.perform e).Settled := by
  unfold Workspace.perform
  split
  · have happly : Storable (e.apply w.graph).edges := h.storable.apply he
    exact ⟨happly, happly.load_save w.file⟩
  · exact h

/-- Whatever happens to a settled workspace, it stays settled. -/
theorem visit {v : Visit} (h : w.Settled) (hv : v.IsStated) : (w.visit v).Settled := by
  cases v with
  | list => exact h
  | edit e => exact h.perform hv
  | suggest m tables =>
    exact ⟨h.storable.refreshBy m.accepts tables,
      h.kept.trans (congrArg Except.ok (confirmed_refreshBy w.graph m.accepts tables).symm)⟩
  | load => exact ⟨h.storable, ModelFile.load_load h.kept⟩
  | restart =>
    exact settled_restart h.kept (h.storable.sublist List.filter_sublist)
      (confirmedOf_confirmedOf _)

end Settled

theorem settled_of_absent (h : w.file = {}) : w.restart.2.Settled := by
  have hload : w.file.load.1 = .ok [] := by
    rw [h]
    rfl
  exact settled_restart hload ⟨List.nodup_nil, nofun⟩ rfl

/-- Starting from a file that the edges for joins of any graph were saved to settles the
workspace. -/
theorem settled_of_saved {f : ModelFile} (hnodup : (g.edges.map Edge.ends).Nodup)
    (h : w.file = f.save g.confirmed) : w.restart.2.Settled := by
  have hconfirmed : confirmedOf (g.confirmed.map Edge.stated) = g.confirmed.map Edge.stated := by
    refine List.filter_eq_self.mpr fun x hx => ?_
    obtain ⟨e, he, rfl⟩ := List.mem_map.mp hx
    exact (isConfirmed_of_mem_confirmedOf he : e.isConfirmed = true)
  have hload : w.file.load.1 = .ok (g.confirmed.map Edge.stated) := by
    rw [h, f.load_save]
    exact congrArg (fun es => Except.ok (List.map Edge.stated es)) (confirmedOf_confirmedOf g.edges)
  refine settled_restart hload (storable_map_stated ?_) hconfirmed
  exact hnodup.sublist (List.filter_sublist.map Edge.ends)

end Workspace

end ChartBoard.Relationship
