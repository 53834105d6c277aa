import ChartBoard.Proofs.Datum.Range
import ChartBoard.Proofs.Engine.Session

/-!
# What comes of a statement

An engine that answers every statement with rows or rejects it leaves two things that can come of
running one: rows, or a rejection in the engine's words.

* `Outcome.IsPlain` says of an answer that it is one of the two, `Outcome.InRange` that its rows are
  in the range of doubles.
* `exists_execute` says what comes of a statement, given any property of the answers to come.
-/

namespace ChartBoard.Engine

open Datum Result

/-- An answer that gives rows or rejects the statement. -/
def Outcome.IsPlain (o : Outcome) : Prop :=
  (∀ message, o ≠ .broken message) ∧ ∃ rows, o.records = .ok rows

/-- An answer whose rows are in the range of doubles. -/
def Outcome.InRange (o : Outcome) : Prop :=
  ∀ rows, o.records = .ok rows → ∀ row ∈ rows, (object row).inRange = true

/-! ## Tables of texts -/

/-- A table of texts, such as the engine's own tables are. -/
def textTable (columns : List String) (rows : List (List String)) : Outcome :=
  .table columns (rows.map fun values => values.map .text)

theorem rowOf_texts (columns values : List String) : rowOf columns (values.map .text) =
    .ok (Keyed.ofPairs ((columns.zip values).map fun p => (p.1, .text p.2))) := by
  unfold rowOf
  have hpairs : ((columns.zip (values.map Datum.text)).mapM fun p => do
      return (p.1, ← interchange p.2)) =
      (.ok ((columns.zip values).map fun p => (p.1, .text p.2)) : Except Fault Record) := by
    rw [List.zip_map_right, List.mapM_map]
    exact mapM_eq_map fun p _ => rfl
  rw [hpairs]
  rfl

theorem records_textTable (columns : List String) (rows : List (List String)) :
    (textTable columns rows).records = .ok (rows.map fun values =>
      Keyed.ofPairs ((columns.zip values).map fun p => (p.1, .text p.2))) := by
  rw [textTable, Outcome.records, List.mapM_map]
  exact mapM_eq_map fun values _ => rowOf_texts columns values

theorem isPlain_textTable (columns : List String) (rows : List (List String)) :
    (textTable columns rows).IsPlain :=
  ⟨fun _ => nofun, _, records_textTable columns rows⟩

theorem inRange_textTable (columns : List String) (rows : List (List String)) :
    (textTable columns rows).InRange := by
  intro records hrecords
  obtain rfl := Except.ok.inj ((records_textTable columns rows).symm.trans hrecords)
  rw [List.forall_mem_map]
  intro values _
  rw [inRange_object]
  intro m hm
  obtain ⟨p, -, rfl⟩ := List.mem_map.mp (Keyed.mem_of_mem_ofPairs hm)
  rfl

/-! ## Statements -/

section

variable {P : Outcome → Prop} {db : Database}

/-- An answer is one of those to come or tells of the engine's own tables. -/
theorem forall_answer (htexts : ∀ columns rows, P (textTable columns rows))
    (h : ∀ o ∈ db.outcomes, P o) (sql : String) :
    P (db.answer sql).1 ∧ ∀ o ∈ (db.answer sql).2.outcomes, P o := by
  unfold Database.answer
  extract_lets asked
  have hasked : ∀ o ∈ asked.outcomes, P o := h
  split
  · rename_i outcome hcatalog
    refine ⟨?_, hasked⟩
    unfold Database.catalogAnswer? at hcatalog
    split at hcatalog
    · obtain rfl := Option.some.inj hcatalog
      unfold Database.listing
      simpa [textTable, Function.comp_def] using htexts ["table_name"]
        (((asked.catalog.map (·.name)).mergeSort (· ≤ ·)).map fun name => [name])
    · obtain ⟨t, -, rfl⟩ := Option.map_eq_some_iff.mp hcatalog
      unfold Database.description
      simpa [textTable, Function.comp_def] using htexts ["column_name", "column_type"]
        (t.columns.map fun c => [c.name, c.type])
  · split
    · rename_i outcome rest houtcomes
      rw [houtcomes] at hasked
      exact List.forall_mem_cons.mp hasked
    · exact ⟨htexts [] [], hasked⟩

/-- What comes of a statement with an answer that gives rows or rejects it.  What gave rows may still
be rejected when it is committed. -/
def settled (commitError : Option String) (rows : List Record) :
    Outcome → Except String (List Record)
  | .rejected message => .error message
  | _ => commitError.elim (.ok rows) .error

theorem outcome_execute {outcome : Outcome} {next : Database} {rows : List Record} {sql : String}
    (hplain : outcome.IsPlain) (hrows : outcome.records = .ok rows)
    (hanswer : ((db.note .connect).note .execute).answer sql = (outcome, next)) :
    ∃ after, (execute sql).outcome db =
      ((settled next.commitError rows outcome).mapError (.query sql), after) ∧
        after.outcomes = next.outcomes := by
  have hsent : (send sql).outcome (db.note .connect) = (outcome.result, next) := by
    rw [outcome_send, hanswer]
  have hrelabel (t : Session (List Record)) : (Task.relabel (blame sql) t).outcome db =
      ((t.outcome db).1.mapError (blame sql), (t.outcome db).2) := rfl
  unfold execute
  rw [hrelabel, outcome_onConnection, Task.outcome_bind, Task.outcome_bind, hsent]
  cases outcome with
  | rejected message => exact ⟨_, rfl, rfl⟩
  | broken message => exact absurd rfl (hplain.1 message)
  | _ =>
    dsimp only [Outcome.result, Task.outcome_ofExcept]
    rw [hrows]
    dsimp only [settled]
    rw [Task.outcome_bind, outcome_commit]
    cases next.commitError <;> exact ⟨_, rfl, rfl⟩

/-- A statement gives the rows of its answer or is rejected, and leaves the answers to come. -/
theorem exists_execute (htexts : ∀ columns rows, P (textTable columns rows))
    (hplain : ∀ o, P o → o.IsPlain) (h : ∀ o ∈ db.outcomes, P o) (sql : String) :
    ∃ (result : Except String (List Record)) (next : Database),
      (execute sql).outcome db = (result.mapError (.query sql), next) ∧
        (∀ o ∈ next.outcomes, P o) ∧ ∀ rows, result = .ok rows → ∃ o, P o ∧ o.records = .ok rows := by
  have hnoted : ∀ o ∈ ((db.note .connect).note .execute).outcomes, P o := h
  obtain ⟨hanswered, hleft⟩ := forall_answer htexts hnoted sql
  generalize hanswer : ((db.note .connect).note .execute).answer sql = answer at hanswered hleft
  obtain ⟨outcome, next⟩ := answer
  obtain ⟨rows, hrows⟩ := (hplain outcome hanswered).2
  obtain ⟨after, hexecute, houtcomes⟩ := outcome_execute (hplain outcome hanswered) hrows hanswer
  refine ⟨settled next.commitError rows outcome, after, hexecute, ?_, fun rows' hrows' => ?_⟩
  · rwa [houtcomes]
  · have hsame : rows = rows' := by
      unfold settled at hrows'
      split at hrows'
      · cases hrows'
      · cases hcommit : next.commitError with
        | none => simpa [hcommit] using hrows'
        | some message => simp [hcommit] at hrows'
    exact ⟨outcome, hanswered, hsame ▸ hrows⟩

end

end ChartBoard.Engine
