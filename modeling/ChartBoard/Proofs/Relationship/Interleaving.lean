import ChartBoard.Proofs.Relationship.Persistence
import ChartBoard.Relationship.Interleaving

/-!
# Edits that lose each other

When several clients edit a graph at the same time, the file ends up with the edges that the last
writer had taken, and these may be out of date: another client may have changed the graph, and even
written the file, in between.  Then a confirmed edge is missing from the file although all edits are
finished.

* `Team.SavedAfter` says when the edges of the last write were taken.
* `file_of_savedAfter` says that they are what is in the file, `exists_savedAfter` that there is
  such a moment in every run that writes at all.
* `kept_iff` is the exact condition under which the file gives back the confirmed edges of the
  graph; `not_kept` says that it is needed.
-/

namespace ChartBoard.Relationship

/-- An edit that has changed the graph and not yet written the file. -/
def Progress.IsPending : Progress → Prop
  | changed | ready _ => True
  | _ => False

namespace Team

variable {t : Team} {client other : Nat} {p : Progress} {edges edges' : List Edge}
  {order before rest : List Nat}

/-! ## Steps -/

theorem step_of_none (h : t.edits[client]? = none) : t.step client = t := by
  unfold step
  rw [h]

theorem step_of_some (h : t.edits[client]? = some p) :
    t.step client = ⟨(p.step t.workspace).2, t.edits.set client (p.step t.workspace).1⟩ := by
  unfold step
  rw [h]

theorem edits_step_self (h : t.edits[client]? = some p) :
    (t.step client).edits[client]? = some (p.step t.workspace).1 := by
  obtain ⟨hlt, -⟩ := List.getElem?_eq_some_iff.mp h
  rw [step_of_some h, List.getElem?_set_self hlt]

theorem edits_step_of_ne (h : client ≠ other) :
    (t.step client).edits[other]? = t.edits[other]? := by
  cases hp : t.edits[client]? with
  | none => rw [step_of_none hp]
  | some p => rw [step_of_some hp, List.getElem?_set_ne h]

theorem run_cons (t : Team) (client : Nat) (order : List Nat) :
    t.run (client :: order) = (t.step client).run order := rfl

theorem run_append (t : Team) (before rest : List Nat) :
    t.run (before ++ rest) = (t.run before).run rest :=
  List.foldl_append

theorem run_concat (t : Team) (order : List Nat) (client : Nat) :
    t.run (order ++ [client]) = (t.run order).step client :=
  run_append t order [client]

/-! ## Writes -/

/-- The next step of a client is to write the file. -/
def Writes (t : Team) (client : Nat) : Prop := ∃ edges, t.edits[client]? = some (.ready edges)

/-- Nobody writes the file in a run. -/
def NoWrite (t : Team) : List Nat → Prop
  | [] => True
  | client :: rest => ¬ t.Writes client ∧ (t.step client).NoWrite rest

theorem noWrite_concat :
    t.NoWrite (order ++ [client]) ↔ t.NoWrite order ∧ ¬ (t.run order).Writes client := by
  induction order generalizing t with
  | nil => simp [NoWrite, run]
  | cons first order ih =>
    rw [List.cons_append, NoWrite, NoWrite, ih, run_cons, and_assoc]

theorem file_step (h : ¬ t.Writes client) :
    (t.step client).workspace.file = t.workspace.file := by
  cases hp : t.edits[client]? with
  | none => rw [step_of_none hp]
  | some p =>
    rw [step_of_some hp]
    cases p with
    | waiting e =>
      simp only [Progress.step]
      split <;> rfl
    | changed => rfl
    | ready edges => exact absurd ⟨edges, hp⟩ h
    | finished => rfl

theorem file_run (h : t.NoWrite order) : (t.run order).workspace.file = t.workspace.file := by
  induction order generalizing t with
  | nil => rfl
  | cons client order ih => rw [run_cons, ih h.2, file_step h.1]

/-! ## What a client has taken -/

theorem finished_run (h : t.edits[client]? = some .finished) :
    (t.run order).edits[client]? = some .finished := by
  induction order generalizing t with
  | nil => exact h
  | cons first order ih =>
    refine ih ?_
    by_cases hfirst : first = client
    · subst hfirst
      exact edits_step_self h
    · rwa [edits_step_of_ne hfirst]

/-- The edges that a client has taken stay the same until it writes them. -/
theorem eq_of_ready_run (h : t.edits[client]? = some (.ready edges))
    (h' : (t.run order).edits[client]? = some (.ready edges')) : edges' = edges := by
  induction order generalizing t with
  | nil =>
    obtain rfl := Progress.ready.inj (Option.some.inj (h.symm.trans h'))
    rfl
  | cons first order ih =>
    rw [run_cons] at h'
    by_cases hfirst : first = client
    · subst hfirst
      have hdone : (t.step first).edits[first]? = some .finished := edits_step_self h
      rw [finished_run hdone] at h'
      cases h'
    · exact ih (by rwa [edits_step_of_ne hfirst]) h'

theorem changed_of_step {w : Workspace} (h : (p.step w).1 = .ready edges) : p = .changed := by
  cases p with
  | waiting e =>
    simp only [Progress.step] at h
    split at h <;> cases h
  | changed => rfl
  | ready edges => cases h
  | finished => cases h

/-- A client that is about to write has taken its edges at some step of the run. -/
theorem exists_taken (hstart : ∀ client, ¬ t.Writes client) (h : (t.run order).Writes client) :
    ∃ before between, order = before ++ client :: between ∧
      (t.run before).edits[client]? = some .changed := by
  -- on the end of the run: what the client holds is known only after the whole of it
  induction order using List.reverseRecOn with
  | nil => exact absurd h (hstart client)
  | append_singleton order last ih =>
    rw [run_concat] at h
    by_cases hlast : last = client
    · subst hlast
      obtain ⟨edges, hready⟩ := h
      cases hp : (t.run order).edits[last]? with
      | none => rw [step_of_none hp, hp] at hready; cases hready
      | some p =>
        rw [edits_step_self hp] at hready
        obtain rfl := changed_of_step (Option.some.inj hready)
        exact ⟨order, [], rfl, hp⟩
    · obtain ⟨edges, hready⟩ := h
      rw [edits_step_of_ne hlast] at hready
      obtain ⟨before, between, rfl, hchanged⟩ := ih ⟨edges, hready⟩
      exact ⟨before, between ++ [last], by simp, hchanged⟩

/-! ## The last write -/

/-- The last write of a run is of the edges that a client has taken after the steps `before`. -/
def SavedAfter (t : Team) (order before : List Nat) : Prop :=
  ∃ client between rest, order = before ++ client :: between ++ client :: rest ∧
    (t.run before).edits[client]? = some .changed ∧
    (t.run (before ++ client :: between)).Writes client ∧
    (t.run (before ++ client :: between ++ [client])).NoWrite rest

theorem SavedAfter.concat (h : t.SavedAfter order before) (hwrite : ¬ (t.run order).Writes client) :
    t.SavedAfter (order ++ [client]) before := by
  obtain ⟨writer, between, rest, rfl, htaken, hwrites, hrest⟩ := h
  refine ⟨writer, between, rest ++ [client], by simp, htaken, hwrites, ?_⟩
  rw [noWrite_concat, ← run_append]
  refine ⟨hrest, ?_⟩
  simpa using hwrite

/-- In every run that writes the file, the edges of the last write were taken at some step. -/
theorem exists_savedAfter (hstart : ∀ client, ¬ t.Writes client) (h : ¬ t.NoWrite order) :
    ∃ before, t.SavedAfter order before := by
  -- the last step either is the write itself or leaves the last write of the others the last one
  induction order using List.reverseRecOn with
  | nil => exact absurd trivial h
  | append_singleton order last ih =>
    by_cases hwrite : (t.run order).Writes last
    · obtain ⟨before, between, rfl, htaken⟩ := exists_taken hstart hwrite
      exact ⟨before, last, between, [], rfl, htaken, hwrite, trivial⟩
    · have hearlier : ¬ t.NoWrite order := fun hno => h (noWrite_concat.mpr ⟨hno, hwrite⟩)
      obtain ⟨before, hsaved⟩ := ih hearlier
      exact ⟨before, hsaved.concat hwrite⟩

/-- After the last write, the file holds the edges that its writer had taken. -/
theorem file_of_savedAfter (h : t.SavedAfter order before) :
    (t.run order).workspace.file =
      ModelFile.save {} (t.run before).workspace.graph.confirmed := by
  obtain ⟨writer, between, rest, rfl, htaken, ⟨edges, hready⟩, hrest⟩ := h
  have hedges : edges = (t.run before).workspace.snapshot := by
    rw [run_append, run_cons] at hready
    exact eq_of_ready_run (edits_step_self htaken) hready
  have horder : before ++ writer :: between ++ writer :: rest =
      before ++ writer :: between ++ [writer] ++ rest := by simp
  rw [horder, run_append _ _ rest, file_run hrest, run_concat, step_of_some hready, hedges]
  rfl

/-! ## Edges that come back from the file -/

/-- A team whose edges can be kept, now and after the edits to come. -/
structure Sound (t : Team) : Prop where
  storable : Storable t.workspace.graph.edges
  stated : ∀ (client : Nat) (e : Edit), t.edits[client]? = some (.waiting e) → e.IsStated

theorem sound_step (h : t.Sound) (client : Nat) : (t.step client).Sound := by
  cases hp : t.edits[client]? with
  | none => rwa [step_of_none hp]
  | some p =>
    refine ⟨?_, fun other e hother => ?_⟩
    · rw [step_of_some hp]
      cases p with
      | waiting e =>
        simp only [Progress.step]
        split
        · exact h.storable.apply (h.stated client e hp)
        · exact h.storable
      | _ => exact h.storable
    · by_cases hclient : client = other
      · subst hclient
        rw [edits_step_self hp] at hother
        cases p with
        | waiting e' =>
          simp only [Progress.step] at hother
          split at hother <;> cases hother
        | _ => cases hother
      · rw [edits_step_of_ne hclient] at hother
        exact h.stated other e hother

theorem sound_run (h : t.Sound) (order : List Nat) : (t.run order).Sound := by
  induction order generalizing t with
  | nil => exact h
  | cons client order ih => exact ih (sound_step h client)

/-! ## Runs without a write -/

/-- Without a write, the graph is as it was unless an edit is on its way to the file. -/
theorem graph_or_pending (h : t.NoWrite order) :
    (t.run order).workspace.graph = t.workspace.graph ∨
      ∃ (client : Nat) (p : Progress), (t.run order).edits[client]? = some p ∧ p.IsPending := by
  induction order using List.reverseRecOn with
  | nil => exact .inl rfl
  | append_singleton order last ih =>
    obtain ⟨hno, hwrite⟩ := noWrite_concat.mp h
    rw [run_concat]
    cases hp : (t.run order).edits[last]? with
    | none =>
      rw [step_of_none hp]
      exact ih hno
    | some p =>
      -- the step either makes the edit pending or leaves the graph and the other edits alone
      have hrest (hgraph : ((t.run order).step last).workspace.graph =
          (t.run order).workspace.graph) (hidle : ¬ p.IsPending) :
          ((t.run order).step last).workspace.graph = t.workspace.graph ∨
            ∃ (client : Nat) (q : Progress),
              ((t.run order).step last).edits[client]? = some q ∧ q.IsPending := by
        rcases ih hno with hsame | ⟨client, q, hq, hpending⟩
        · exact .inl (hgraph.trans hsame)
        · have hne : last ≠ client := by
            rintro rfl
            exact hidle (Option.some.inj (hp.symm.trans hq) ▸ hpending)
          exact .inr ⟨client, q, (edits_step_of_ne hne).trans hq, hpending⟩
      cases p with
      | waiting e =>
        by_cases hpossible : e.isPossible (t.run order).workspace.graph = true
        · refine .inr ⟨last, .changed, ?_, trivial⟩
          rw [edits_step_self hp, Progress.step, if_pos hpossible]
        · refine hrest ?_ id
          rw [step_of_some hp, Progress.step, if_neg hpossible]
      | changed =>
        exact .inr ⟨last, _, edits_step_self hp, trivial⟩
      | ready edges => exact absurd ⟨edges, hp⟩ hwrite
      | finished =>
        refine hrest ?_ id
        rw [step_of_some hp]
        rfl

theorem eq_finished (h : t.isFinished = true) (hp : t.edits[client]? = some p) :
    p = .finished := by
  have hall := List.all_eq_true.mp h p (List.mem_of_getElem? hp)
  split at hall
  · rfl
  · cases hall

theorem graph_of_noWrite (hfinished : (t.run order).isFinished = true) (h : t.NoWrite order) :
    (t.run order).workspace.graph = t.workspace.graph := by
  rcases graph_or_pending h with hsame | ⟨client, p, hp, hpending⟩
  · exact hsame
  · rw [eq_finished hfinished hp] at hpending
    exact hpending.elim

/-! ## Teams that make edits -/

section OfEdits

variable {w : Workspace} {edits : List Edit}

theorem exists_edit (h : (ofEdits w edits).edits[client]? = some p) :
    ∃ e ∈ edits, p = .waiting e := by
  rw [ofEdits, List.getElem?_map, Option.map_eq_some_iff] at h
  obtain ⟨e, he, rfl⟩ := h
  exact ⟨e, List.mem_of_getElem? he, rfl⟩

theorem not_writes_ofEdits (client : Nat) : ¬ (ofEdits w edits).Writes client := by
  rintro ⟨edges, hready⟩
  obtain ⟨e, -, hwaiting⟩ := exists_edit hready
  cases hwaiting

theorem sound_ofEdits (hw : w.Settled) (hedits : ∀ e ∈ edits, e.IsStated) :
    (ofEdits w edits).Sound where
  storable := hw.storable
  stated := by
    intro client e h
    obtain ⟨e', he', hwaiting⟩ := exists_edit h
    obtain rfl := Progress.waiting.inj hwaiting
    exact hedits e he'

/-- Once all edits are finished, the file gives back the confirmed edges of the graph exactly if
these have not changed since the last writer took its edges; so it does if nobody has written. -/
theorem kept_iff (hw : w.Settled) (hedits : ∀ e ∈ edits, e.IsStated) (order : List Nat)
    (hfinished : ((ofEdits w edits).run order).isFinished = true) :
    let t := ofEdits w edits
    let kept := (t.run order).workspace.file.load.1 = .ok (t.run order).workspace.graph.confirmed
    (t.NoWrite order → kept) ∧
      (¬ t.NoWrite order → ∃ before, t.SavedAfter order before) ∧
      ∀ before, t.SavedAfter order before → (kept ↔
        (t.run before).workspace.graph.confirmed = (t.run order).workspace.graph.confirmed) := by
  intro t kept
  refine ⟨fun hno => ?_, exists_savedAfter not_writes_ofEdits, fun before hsaved => ?_⟩
  · -- nobody has written, so what is finished had nothing to do
    have hfile : (t.run order).workspace.file = w.file := file_run hno
    have hgraph : (t.run order).workspace.graph = w.graph := graph_of_noWrite hfinished hno
    show (t.run order).workspace.file.load.1 = _
    rw [hfile, hgraph]
    exact hw.kept
  · have hsound : (t.run before).Sound := sound_run (sound_ofEdits hw hedits) before
    have hload : (t.run order).workspace.file.load.1 =
        .ok (t.run before).workspace.graph.confirmed := by
      rw [file_of_savedAfter hsaved]
      exact hsound.storable.load_save {}
    show (t.run order).workspace.file.load.1 = _ ↔ _
    rw [hload, Except.ok.injEq]

end OfEdits

/-! ## A lost edge -/

/-- Orders joined to their customers. -/
def toCustomers : Edge :=
  ⟨⟨"orders", "customer"⟩, ⟨"customers", "id"⟩, .text confirmedStatus, .text defaultCardinality⟩

/-- Orders joined to the cities that they go to. -/
def toCities : Edge :=
  ⟨⟨"orders", "city"⟩, ⟨"cities", "name"⟩, .text confirmedStatus, .text defaultCardinality⟩

/-- Two clients that each add an edge. -/
def twoEdges : List Edit := [.add toCustomers, .add toCities]

theorem settled_empty : Workspace.Settled {} := ⟨⟨List.nodup_nil, nofun⟩, rfl⟩

theorem isStated_of_mem_twoEdges : ∀ e ∈ twoEdges, e.IsStated := by
  simp only [twoEdges, List.forall_mem_cons]
  exact ⟨fun _ => rfl, fun _ => rfl, nofun⟩

/-- When the last writer has taken its edges after both were added, both are in the file. -/
theorem kept_iff_takenLast :
    let t := (ofEdits {} twoEdges).run [0, 1, 0, 1, 0, 1]
    t.isFinished = true ∧ t.workspace.graph.edges.length = 2 ∧
      t.workspace.file.load.1 = .ok t.workspace.graph.confirmed :=
  ⟨by decide, by decide, ((kept_iff settled_empty isStated_of_mem_twoEdges [0, 1, 0, 1, 0, 1]
    (by decide)).2.2 [0, 1, 0] ⟨1, [0], [], rfl, rfl, ⟨_, rfl⟩, trivial⟩).mpr rfl⟩

/-- It is not so in every order.  Here one client takes its edges, another adds, takes and writes
its own, and then the first one writes: the edge of the other is lost. -/
theorem not_kept : ¬ ∀ (w : Workspace) (edits : List Edit) (order : List Nat), w.Settled →
    (∀ e ∈ edits, e.IsStated) → ((ofEdits w edits).run order).isFinished = true →
    ((ofEdits w edits).run order).workspace.file.load.1 =
      .ok ((ofEdits w edits).run order).workspace.graph.confirmed := by
  intro h
  have hlost := h {} twoEdges [0, 0, 1, 1, 1, 0] settled_empty isStated_of_mem_twoEdges (by decide)
  have hlengths := congrArg (fun r => r.toOption.map List.length) hlost
  exact absurd hlengths (by decide)

end Team

end ChartBoard.Relationship
