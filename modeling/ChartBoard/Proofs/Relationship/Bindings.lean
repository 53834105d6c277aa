import ChartBoard.Relationship.Graph
import Mathlib.Data.List.Nodup
import Mathlib.Data.Sym.Sym2

/-!
# The graph as a map

A graph is a list of edges that is edited in place.  It stands for a map from the two ends of a
relationship, in no order, to the edge that is stored for it.

* `Bindings` is that map, `Bindings.call` changes it.
* `bindingsOf` reads the map off a list of edges, `Graph.call` changes a graph.
* `bindingsOf_call` is the step lemma: both changes agree as long as no relationship is stored
  twice, and none ever is by `nodup_call`.
* `run_refines` is the result for every run of calls.
-/

namespace ChartBoard.Relationship

/-! ## The map -/

/-- The two ends of an edge, in no order. -/
def Edge.ends (e : Edge) : Sym2 Endpoint := s(e.left, e.right)

theorem Edge.same_iff {a b : Edge} : a.same b = true ↔ a.ends = b.ends := by
  simp [same, ends]

/-- A call that changes a graph. -/
inductive Call where
  | add (e : Edge)
  | confirm (e : Edge) (cardinality : Datum)
  | remove (e : Edge)
  | replaceAll (edges : List Edge)
  | refresh (accepts : String → Bool) (tables : List Schema.Table)

/-- The edge of a relationship, if there is one. -/
abbrev Bindings : Type := Sym2 Endpoint → Option Edge

namespace Bindings

/-- No edge for any relationship. -/
def empty : Bindings := fun _ => none

/-- The edge takes the place of any other, but a confirmed edge only gives way to another one. -/
def bind (m : Bindings) (e : Edge) : Bindings :=
  if (m e.ends).any Edge.isConfirmed && !e.isConfirmed then m
  else Function.update m e.ends (some e)

/-- No edge for the relationship of an edge. -/
def unbind (m : Bindings) (e : Edge) : Bindings := Function.update m e.ends none

/-- The edges bound in turn. -/
def ofEdges (edges : List Edge) : Bindings := edges.foldl bind empty

/-- Confirmed edges stay, and the first candidate is bound wherever there is none. -/
def refresh (m : Bindings) (accepts : String → Bool) (tables : List Schema.Table) : Bindings :=
  fun k => ((m k).filter Edge.isConfirmed).or
    ((candidates accepts tables).find? fun e => e.ends = k)

/-- The map after a call. -/
def call (m : Bindings) : Call → Bindings
  | .add e => m.bind e
  | .confirm e cardinality => m.bind (e.confirmed cardinality)
  | .remove e => m.unbind e
  | .replaceAll edges => ofEdges edges
  | .refresh accepts tables => m.refresh accepts tables

end Bindings

/-- The graph after a call. -/
def Graph.call (g : Graph) : Call → Graph
  | .add e => g.add e
  | .confirm e cardinality => (g.confirm e cardinality).2
  | .remove e => g.remove e
  | .replaceAll edges => g.replaceAll edges
  | .refresh accepts tables => (g.refreshBy accepts tables).2

/-! ## Reading the map off a list -/

/-- The first edge of a list for a relationship. -/
def bindingsOf (edges : List Edge) : Bindings := fun k => edges.find? fun e => e.ends = k

theorem bindingsOf_nil : bindingsOf [] = Bindings.empty := rfl

theorem bindingsOf_cons (x : Edge) (edges : List Edge) (k : Sym2 Endpoint) :
    bindingsOf (x :: edges) k = if x.ends = k then some x else bindingsOf edges k := by
  unfold bindingsOf
  rw [List.find?_cons]
  by_cases h : x.ends = k
  · simp [h]
  · simp [h]

theorem bindingsOf_append (xs ys : List Edge) (k : Sym2 Endpoint) :
    bindingsOf (xs ++ ys) k = (bindingsOf xs k).or (bindingsOf ys k) :=
  List.find?_append

theorem bindingsOf_eq_none {edges : List Edge} {k : Sym2 Endpoint} :
    bindingsOf edges k = none ↔ k ∉ edges.map Edge.ends := by
  simp [bindingsOf]

/-- Where no relationship is stored twice, the map holds every edge of the list. -/
theorem bindingsOf_eq_some {edges : List Edge} (hnodup : (edges.map Edge.ends).Nodup)
    {k : Sym2 Endpoint} {x : Edge} : bindingsOf edges k = some x ↔ x ∈ edges ∧ x.ends = k := by
  induction edges with
  | nil => simp [bindingsOf]
  | cons y edges ih =>
    obtain ⟨hy, hrest⟩ := List.nodup_cons.mp hnodup
    rw [bindingsOf_cons, List.mem_cons]
    by_cases hk : y.ends = k
    · rw [if_pos hk]
      constructor
      · intro h
        obtain rfl := Option.some.inj h
        exact ⟨Or.inl rfl, hk⟩
      · rintro ⟨rfl | hx, hxk⟩
        · rfl
        · exact absurd (List.mem_map.mpr ⟨x, hx, hxk.trans hk.symm⟩) hy
    · rw [if_neg hk, ih hrest]
      constructor
      · exact fun h => ⟨Or.inr h.1, h.2⟩
      · rintro ⟨rfl | hx, hxk⟩
        · exact absurd hxk hk
        · exact ⟨hx, hxk⟩

theorem containsEdge_eq (edges : List Edge) (e : Edge) :
    containsEdge edges e = (bindingsOf edges e.ends).isSome := by
  rw [Bool.eq_iff_iff, containsEdge, bindingsOf, List.find?_isSome, List.any_eq_true]
  simp only [Edge.same_iff, decide_eq_true_eq]

/-! ## Adding and removing an edge -/

theorem Bindings.bind_apply (m : Bindings) (e : Edge) (k : Sym2 Endpoint) :
    m.bind e k =
      if k = e.ends then
        (if (m e.ends).any Edge.isConfirmed && !e.isConfirmed then m e.ends else some e)
      else m k := by
  unfold bind
  by_cases hkeep : ((m e.ends).any Edge.isConfirmed && !e.isConfirmed) = true
  · rw [if_pos hkeep, if_pos hkeep]
    by_cases hk : k = e.ends
    · rw [if_pos hk, hk]
    · rw [if_neg hk]
  · rw [if_neg hkeep, if_neg hkeep, Function.update_apply]

theorem bindingsOf_insertEdge (edges : List Edge) (e : Edge) :
    bindingsOf (insertEdge edges e) = (bindingsOf edges).bind e := by
  funext k
  rw [Bindings.bind_apply]
  induction edges with
  | nil =>
    rw [insertEdge, bindingsOf_cons, bindingsOf_nil]
    by_cases hk : k = e.ends
    · simp [hk, Bindings.empty]
    · rw [if_neg (Ne.symm hk), if_neg hk]
  | cons x rest ih =>
    simp only [insertEdge, Edge.same_iff]
    by_cases hx : x.ends = e.ends
    · rw [if_pos hx, bindingsOf_cons, bindingsOf_cons, bindingsOf_cons, hx]
      by_cases hk : k = e.ends
      · subst hk
        split <;> rename_i hkeep
        · simp [hkeep]
        · simp [hkeep]
      · rw [if_neg hk, if_neg (Ne.symm hk), if_neg]
        split
        · rw [hx]
          exact Ne.symm hk
        · exact Ne.symm hk
    · rw [if_neg hx, bindingsOf_cons, bindingsOf_cons, bindingsOf_cons, ih, if_neg hx]
      by_cases hk : x.ends = k
      · have hne : k ≠ e.ends := hk ▸ hx
        rw [if_pos hk, if_pos hk, if_neg hne]
      · rw [if_neg hk, if_neg hk]

theorem ends_insertEdge (edges : List Edge) (e : Edge) :
    (insertEdge edges e).map Edge.ends =
      if e.ends ∈ edges.map Edge.ends then edges.map Edge.ends
      else edges.map Edge.ends ++ [e.ends] := by
  induction edges with
  | nil => simp [insertEdge]
  | cons x rest ih =>
    simp only [insertEdge, Edge.same_iff]
    by_cases hx : x.ends = e.ends
    · have hmem : e.ends ∈ (x :: rest).map Edge.ends := by simp [hx]
      rw [if_pos hx, if_pos hmem]
      split
      · rfl
      · simp [hx]
    · rw [if_neg hx, List.map_cons, ih, List.map_cons]
      by_cases hmem : e.ends ∈ rest.map Edge.ends
      · rw [if_pos hmem, if_pos (List.mem_cons_of_mem _ hmem)]
      · have hnot : e.ends ∉ x.ends :: rest.map Edge.ends := by
          simp only [List.mem_cons, not_or]
          exact ⟨Ne.symm hx, hmem⟩
        rw [if_neg hmem, if_neg hnot, List.cons_append]

theorem nodup_insertEdge {edges : List Edge} (h : (edges.map Edge.ends).Nodup) (e : Edge) :
    ((insertEdge edges e).map Edge.ends).Nodup := by
  rw [ends_insertEdge]
  split
  · exact h
  · rename_i hmem
    exact List.nodup_append.mpr ⟨h, List.nodup_singleton _, by
      intro a ha b hb
      obtain rfl := List.mem_singleton.mp hb
      exact fun hab => hmem (hab ▸ ha)⟩

theorem bindingsOf_ofEdges (edges : List Edge) :
    bindingsOf (Graph.ofEdges edges).edges = Bindings.ofEdges edges := by
  have hfold (g : Graph) (m : Bindings) (h : bindingsOf g.edges = m) :
      bindingsOf (edges.foldl Graph.add g).edges = edges.foldl Bindings.bind m := by
    induction edges generalizing g m with
    | nil => exact h
    | cons e edges ih =>
      refine ih (g.add e) (m.bind e) ?_
      rw [Graph.add, bindingsOf_insertEdge, h]
  exact hfold Graph.empty Bindings.empty bindingsOf_nil

theorem nodup_ofEdges (edges : List Edge) : ((Graph.ofEdges edges).edges.map Edge.ends).Nodup := by
  have hfold (g : Graph) (h : (g.edges.map Edge.ends).Nodup) :
      ((edges.foldl Graph.add g).edges.map Edge.ends).Nodup := by
    induction edges generalizing g with
    | nil => exact h
    | cons e edges ih => exact ih (g.add e) (nodup_insertEdge h e)
  exact hfold Graph.empty List.nodup_nil

theorem bindingsOf_remove (g : Graph) (e : Edge) :
    bindingsOf (g.remove e).edges = (bindingsOf g.edges).unbind e := by
  funext k
  unfold Graph.remove Bindings.unbind bindingsOf
  rw [List.find?_filter]
  by_cases hk : k = e.ends
  · subst hk
    rw [Function.update_self, List.find?_eq_none]
    intro x _
    simp [← Edge.same_iff]
  · rw [Function.update_of_ne hk]
    congr 1
    funext x
    by_cases hx : x.ends = k
    · have hne : x.same e = false := by
        rw [← Bool.not_eq_true, Edge.same_iff, hx]
        exact hk
      simp [hx, hne]
    · simp [hx]

theorem removes_eq (g : Graph) (e : Edge) :
    g.removes e = (bindingsOf g.edges e.ends).isSome := by
  rw [← containsEdge_eq, Bool.eq_iff_iff]
  unfold Graph.removes Graph.remove containsEdge
  rw [bne_iff_ne, Ne, List.length_filter_eq_length_iff, List.any_eq_true]
  simp

/-! ## Refreshing suggestions -/

theorem isConfirmed_suggestedEdge (t₁ : Schema.Table) (c₁ : Schema.Column) (t₂ : Schema.Table)
    (c₂ : Schema.Column) : (suggestedEdge t₁ c₁ t₂ c₂).isConfirmed = false := by
  simp only [suggestedEdge, Edge.isConfirmed]
  decide

theorem mem_candidatesBetween {accepts : String → Bool} {t₁ t₂ : Schema.Table} {e : Edge} :
    e ∈ candidatesBetween accepts t₁ t₂ ↔ ∃ c₁ ∈ t₁.columns, ∃ c₂ ∈ t₂.columns,
      normalizedName c₁.name = normalizedName c₂.name ∧ accepts (normalizedName c₁.name) = true ∧
      e = suggestedEdge t₁ c₁ t₂ c₂ := by
  simp only [candidatesBetween, List.mem_flatMap, List.mem_filterMap]
  refine exists_congr fun c₁ => and_congr_right fun _ => exists_congr fun c₂ =>
    and_congr_right fun _ => ?_
  constructor
  · intro h
    split at h
    · rename_i hagree
      rw [Bool.and_eq_true, beq_iff_eq] at hagree
      exact ⟨hagree.1, hagree.2, (Option.some.inj h).symm⟩
    · cases h
  · rintro ⟨hname, haccepts, rfl⟩
    rw [if_pos (by rw [Bool.and_eq_true, beq_iff_eq]; exact ⟨hname, haccepts⟩)]

/-- The candidates are the pairs of columns of an earlier and a later table whose names agree and
are accepted. -/
theorem mem_candidates {accepts : String → Bool} {tables : List Schema.Table} {e : Edge} :
    e ∈ candidates accepts tables ↔ ∃ t₁ t₂, [t₁, t₂].Sublist tables ∧
      ∃ c₁ ∈ t₁.columns, ∃ c₂ ∈ t₂.columns,
        normalizedName c₁.name = normalizedName c₂.name ∧
        accepts (normalizedName c₁.name) = true ∧ e = suggestedEdge t₁ c₁ t₂ c₂ := by
  induction tables with
  | nil => simp [candidates]
  | cons t rest ih =>
    simp only [candidates, List.mem_append, List.mem_flatMap, mem_candidatesBetween, ih,
      List.sublist_cons_iff]
    constructor
    · rintro (⟨t₂, ht₂, h⟩ | ⟨t₁, t₂, hsub, h⟩)
      · exact ⟨t, t₂, Or.inr ⟨[t₂], rfl, List.singleton_sublist.mpr ht₂⟩, h⟩
      · exact ⟨t₁, t₂, Or.inl hsub, h⟩
    · rintro ⟨t₁, t₂, hsub | ⟨l, hl, hsub⟩, h⟩
      · exact Or.inr ⟨t₁, t₂, hsub, h⟩
      · obtain ⟨rfl, rfl⟩ := List.cons.inj hl
        exact Or.inl ⟨t₂, List.singleton_sublist.mp hsub, h⟩

theorem isConfirmed_of_mem_candidates {accepts : String → Bool} {tables : List Schema.Table}
    {e : Edge} (h : e ∈ candidates accepts tables) : e.isConfirmed = false := by
  obtain ⟨t₁, t₂, -, c₁, -, c₂, -, -, -, rfl⟩ := mem_candidates.mp h
  exact isConfirmed_suggestedEdge t₁ c₁ t₂ c₂

/-- Where no relationship is stored twice, the confirmed edges are the confirmed part of the
map. -/
theorem bindingsOf_confirmedOf {edges : List Edge} (hnodup : (edges.map Edge.ends).Nodup)
    (k : Sym2 Endpoint) :
    bindingsOf (confirmedOf edges) k = (bindingsOf edges k).filter Edge.isConfirmed := by
  induction edges with
  | nil => rfl
  | cons x rest ih =>
    obtain ⟨hx, hrest⟩ := List.nodup_cons.mp hnodup
    have ih := ih hrest
    unfold confirmedOf at ih ⊢
    rw [List.filter_cons, bindingsOf_cons]
    by_cases hk : x.ends = k
    · have hnone : bindingsOf rest k = none := bindingsOf_eq_none.mpr (hk ▸ hx)
      rw [if_pos hk]
      split
      · rename_i hconfirmed
        rw [bindingsOf_cons, if_pos hk, Option.filter_some, if_pos hconfirmed]
      · rename_i hconfirmed
        rw [ih, hnone, Option.filter_some, if_neg hconfirmed, Option.filter_none]
    · rw [if_neg hk]
      split
      · rw [bindingsOf_cons, if_neg hk, ih]
      · exact ih

/-- The candidates that are added are the first of each relationship that is not there yet. -/
theorem bindingsOf_addCandidates (confirmed found cs : List Edge) (k : Sym2 Endpoint) :
    (bindingsOf confirmed k).or (bindingsOf (cs.foldl (addCandidate confirmed) found) k) =
      ((bindingsOf confirmed k).or (bindingsOf found k)).or (bindingsOf cs k) := by
  induction cs generalizing found with
  | nil => simp [bindingsOf_nil, Bindings.empty]
  | cons c cs ih =>
    rw [List.foldl_cons, ih, bindingsOf_cons]
    unfold addCandidate
    rw [containsEdge_eq, containsEdge_eq]
    by_cases hk : c.ends = k
    · subst hk
      rw [if_pos rfl]
      split
      · rename_i hknown
        rw [Bool.or_eq_true, Option.isSome_iff_exists, Option.isSome_iff_exists] at hknown
        rcases hconfirmed : bindingsOf confirmed c.ends with _ | e
        · obtain ⟨e, he⟩ | ⟨e, he⟩ := hknown
          · rw [he]
            rfl
          · rw [hconfirmed] at he
            cases he
        · rfl
      · rename_i hnew
        rw [Bool.or_eq_true, not_or, Option.not_isSome_iff_eq_none,
          Option.not_isSome_iff_eq_none] at hnew
        rw [bindingsOf_append, bindingsOf_cons, if_pos rfl, hnew.1, hnew.2]
        rfl
    · rw [if_neg hk]
      split
      · rfl
      · rw [bindingsOf_append, bindingsOf_cons, if_neg hk, bindingsOf_nil, Bindings.empty,
          Option.or_none]

theorem nodup_addCandidates {confirmed found : List Edge}
    (h : ((confirmed ++ found).map Edge.ends).Nodup) (cs : List Edge) :
    ((confirmed ++ cs.foldl (addCandidate confirmed) found).map Edge.ends).Nodup := by
  induction cs generalizing found with
  | nil => exact h
  | cons c cs ih =>
    refine ih ?_
    unfold addCandidate
    rw [containsEdge_eq, containsEdge_eq]
    split
    · exact h
    · rename_i hnew
      rw [Bool.or_eq_true, not_or, Option.not_isSome_iff_eq_none,
        Option.not_isSome_iff_eq_none, bindingsOf_eq_none, bindingsOf_eq_none] at hnew
      rw [← List.append_assoc, List.map_append, List.nodup_append]
      refine ⟨h, List.nodup_singleton _, fun a ha b hb hab => ?_⟩
      obtain rfl := List.mem_singleton.mp hb
      rw [List.map_append, List.mem_append, hab] at ha
      exact ha.elim hnew.2 hnew.1

theorem confirmedOf_confirmedOf (edges : List Edge) :
    confirmedOf (confirmedOf edges) = confirmedOf edges := by
  simp [confirmedOf, List.filter_filter]

section Refresh

variable {g : Graph} (accepts : String → Bool) (tables : List Schema.Table)

theorem nodup_refreshBy (h : (g.edges.map Edge.ends).Nodup) :
    ((g.refreshBy accepts tables).2.edges.map Edge.ends).Nodup := by
  have hconfirmed : ((confirmedOf g.edges ++ []).map Edge.ends).Nodup := by
    rw [List.append_nil]
    exact h.sublist (List.filter_sublist.map Edge.ends)
  simp only [Graph.refreshBy, Graph.confirmed, suggestionsBy, confirmedOf_confirmedOf]
  exact nodup_addCandidates hconfirmed (candidates accepts tables)

theorem bindingsOf_refreshBy (h : (g.edges.map Edge.ends).Nodup) :
    bindingsOf (g.refreshBy accepts tables).2.edges =
      (bindingsOf g.edges).refresh accepts tables := by
  funext k
  simp only [Graph.refreshBy, Graph.confirmed, suggestionsBy, confirmedOf_confirmedOf]
  rw [bindingsOf_append, bindingsOf_addCandidates, bindingsOf_nil, Bindings.empty, Option.or_none,
    bindingsOf_confirmedOf h]
  rfl

theorem mem_or_mem_of_mem_addCandidates {confirmed found cs : List Edge} {e : Edge}
    (h : e ∈ cs.foldl (addCandidate confirmed) found) : e ∈ found ∨ e ∈ cs := by
  induction cs generalizing found with
  | nil => exact Or.inl h
  | cons c cs ih =>
    rcases ih h with hmem | hmem
    · unfold addCandidate at hmem
      split at hmem
      · exact Or.inl hmem
      · rcases List.mem_append.mp hmem with hmem | hmem
        · exact Or.inl hmem
        · exact Or.inr (List.mem_cons.mpr (Or.inl (List.mem_singleton.mp hmem)))
    · exact Or.inr (List.mem_cons_of_mem c hmem)

/-- The suggestions of a refresh are the edges of the graph afterwards that are not confirmed. -/
theorem mem_refreshBy {e : Edge} :
    e ∈ (g.refreshBy accepts tables).1 ↔
      e ∈ (g.refreshBy accepts tables).2.edges ∧ e.isConfirmed = false := by
  simp only [Graph.refreshBy, List.mem_append]
  constructor
  · intro hfound
    refine ⟨Or.inr hfound, ?_⟩
    rcases mem_or_mem_of_mem_addCandidates hfound with hmem | hmem
    · cases hmem
    · exact isConfirmed_of_mem_candidates hmem
  · rintro ⟨hconfirmed | hfound, hnot⟩
    · have hyes := (List.mem_filter.mp hconfirmed).2
      rw [hnot] at hyes
      cases hyes
    · exact hfound

end Refresh

/-! ## Runs of calls -/

theorem nodup_call {g : Graph} (h : (g.edges.map Edge.ends).Nodup) (c : Call) :
    ((g.call c).edges.map Edge.ends).Nodup := by
  cases c with
  | add e => exact nodup_insertEdge h e
  | confirm e cardinality => exact nodup_insertEdge h (e.confirmed cardinality)
  | remove e => exact h.sublist (List.filter_sublist.map Edge.ends)
  | replaceAll edges => exact nodup_ofEdges edges
  | refresh accepts tables => exact nodup_refreshBy accepts tables h

theorem bindingsOf_call {g : Graph} (h : (g.edges.map Edge.ends).Nodup) (c : Call) :
    bindingsOf (g.call c).edges = (bindingsOf g.edges).call c := by
  cases c with
  | add e => exact bindingsOf_insertEdge g.edges e
  | confirm e cardinality => exact bindingsOf_insertEdge g.edges (e.confirmed cardinality)
  | remove e => exact bindingsOf_remove g e
  | replaceAll edges => exact bindingsOf_ofEdges edges
  | refresh accepts tables => exact bindingsOf_refreshBy accepts tables h

/-- The graph after a run of calls, from the edges it is made of. -/
def Graph.run (initial : List Edge) (calls : List Call) : Graph :=
  calls.foldl Graph.call (Graph.ofEdges initial)

/-- The map after a run of calls, from the edges it is made of. -/
def Bindings.run (initial : List Edge) (calls : List Call) : Bindings :=
  calls.foldl Bindings.call (Bindings.ofEdges initial)

theorem run_keeps (initial : List Edge) (calls : List Call) :
    ((Graph.run initial calls).edges.map Edge.ends).Nodup ∧
      bindingsOf (Graph.run initial calls).edges = Bindings.run initial calls := by
  have hfold (g : Graph) (m : Bindings) (hnodup : (g.edges.map Edge.ends).Nodup)
      (hm : bindingsOf g.edges = m) :
      ((calls.foldl Graph.call g).edges.map Edge.ends).Nodup ∧
        bindingsOf (calls.foldl Graph.call g).edges = calls.foldl Bindings.call m := by
    induction calls generalizing g m with
    | nil => exact ⟨hnodup, hm⟩
    | cons c calls ih =>
      refine ih (g.call c) (m.call c) (nodup_call hnodup c) ?_
      rw [bindingsOf_call hnodup c, hm]
  exact hfold _ _ (nodup_ofEdges initial) (bindingsOf_ofEdges initial)

/-- After every run of calls, no relationship is stored twice, the stored edges are those of the
map, an edge is there to be removed just when its relationship is bound, and the suggestions of a
refresh are the bindings afterwards that are not confirmed. -/
theorem run_refines (initial : List Edge) (calls : List Call) :
    ((Graph.run initial calls).edges.Pairwise fun a b => a.same b = false) ∧
    (∀ e x, (x ∈ (Graph.run initial calls).edges ∧ x.same e = true) ↔
      Bindings.run initial calls e.ends = some x) ∧
    (∀ e, (Graph.run initial calls).removes e = (Bindings.run initial calls e.ends).isSome ∧
      (Graph.run initial calls).contains e = (Bindings.run initial calls e.ends).isSome) ∧
    (∀ accepts tables e, e ∈ ((Graph.run initial calls).refreshBy accepts tables).1 ↔
      (Bindings.run initial calls).refresh accepts tables e.ends = some e ∧
        e.isConfirmed = false) := by
  obtain ⟨hnodup, hbound⟩ := run_keeps initial calls
  generalize Graph.run initial calls = g at hnodup hbound ⊢
  rw [← hbound]
  refine ⟨?_, fun e x => ?_, fun e => ⟨removes_eq g e, containsEdge_eq g.edges e⟩,
    fun accepts tables e => ?_⟩
  · refine (List.pairwise_map.mp hnodup).imp fun hne => ?_
    rw [← Bool.not_eq_true, Edge.same_iff]
    exact hne
  · rw [bindingsOf_eq_some hnodup, Edge.same_iff]
  · rw [← bindingsOf_refreshBy accepts tables hnodup,
      bindingsOf_eq_some (nodup_refreshBy accepts tables hnodup), mem_refreshBy]
    simp

end ChartBoard.Relationship
