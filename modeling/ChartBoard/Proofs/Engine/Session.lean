import ChartBoard.Engine.Session
import ChartBoard.Proofs.Task

/-!
# What a session sends and what comes of it

* `outcome_onConnection` and its like give what comes of the parts of a session.
* `statements_onConnection` says that a connection sends what the work on it sends.
* `statements_execute` says that running a statement sends that statement and no other, whatever the
  engine makes of it.
-/

namespace ChartBoard.Engine

variable {α : Type} (db : Database) (sql : String)

theorem statements_answer : (db.answer sql).2.statements = db.statements ++ [sql] := by
  unfold Database.answer
  extract_lets asked
  split
  · rfl
  · split <;> rfl

theorem outcome_note (e : Event) : (note e).outcome db = (.ok (), db.note e) := rfl

theorem outcome_commit : (commit).outcome db =
    (db.commitError.elim (.ok ()) fun message => .error (.engine message), db.note .commit) := by
  unfold commit
  rw [Task.outcome_bind, outcome_note]
  dsimp only
  rw [Task.outcome_bind, Task.outcome_get]
  have herror : (db.note .commit).commitError = db.commitError := rfl
  dsimp only
  rw [herror]
  cases db.commitError <;> rfl

/-- The answer to a statement, of which a rejection and a breakdown are faults. -/
def Outcome.result : Outcome → Except Fault Outcome
  | rejected message => .error (.engine message)
  | broken message => .error (.outage (.failed message))
  | outcome => .ok outcome

theorem outcome_send : (send sql).outcome db =
    (((db.note .execute).answer sql).1.result, ((db.note .execute).answer sql).2) := by
  unfold send
  rw [Task.outcome_bind, outcome_note]
  dsimp only
  rw [Task.outcome_bind]
  have hanswer : (modifyGet (·.answer sql) : Session Outcome).outcome (db.note .execute) =
      (.ok ((db.note .execute).answer sql).1, ((db.note .execute).answer sql).2) := rfl
  rw [hanswer]
  dsimp only
  cases ((db.note .execute).answer sql).1 <;> rfl

theorem outcome_onConnection (work : Session α) : (onConnection work).outcome db =
    match (do let a ← work; commit; return a : Session α).outcome (db.note .connect) with
    | (.ok a, next) => (.ok a, next.note .close)
    | (.error fault, next) => (.error fault, (next.note .rollback).note .close) := by
  unfold onConnection
  rw [Task.outcome_bind, outcome_note]
  dsimp only
  rw [Task.outcome_bind, Task.outcome_attempt]
  generalize (do let a ← work; commit; return a : Session α).outcome (db.note .connect) = ended
  obtain ⟨result, next⟩ := ended
  cases result <;> rfl

/-! ## Statements -/

theorem statements_send : ((send sql).outcome db).2.statements = db.statements ++ [sql] := by
  rw [outcome_send]
  exact statements_answer (db.note .execute) sql

/-- What follows a task without sending anything leaves the record of statements to the task. -/
theorem statements_bind {β : Type} (t : Session α) (f : α → Session β)
    (hf : ∀ a next, ((f a).outcome next).2.statements = next.statements) :
    ((t >>= f).outcome db).2.statements = (t.outcome db).2.statements := by
  rw [Task.outcome_bind]
  cases ht : t.outcome db with
  | mk result next =>
    cases result with
    | ok a => exact hf a next
    | error fault => rfl

theorem statements_onConnection (work : Session α) :
    ((onConnection work).outcome db).2.statements =
      (work.outcome (db.note .connect)).2.statements := by
  have hwork : ((do let a ← work; commit; return a : Session α).outcome
      (db.note .connect)).2.statements = (work.outcome (db.note .connect)).2.statements := by
    refine statements_bind _ work _ fun a next => ?_
    rw [statements_bind _ _ _ fun _ _ => rfl, outcome_commit]
    rfl
  rw [outcome_onConnection, ← hwork]
  generalize (do let a ← work; commit; return a : Session α).outcome (db.note .connect) = ended
  obtain ⟨result, next⟩ := ended
  cases result <;> rfl

theorem statements_execute :
    ((execute sql).outcome db).2.statements = db.statements ++ [sql] := by
  have hrelabel (t : Session (List Record)) :
      ((Task.relabel (blame sql) t).outcome db).2 = (t.outcome db).2 := rfl
  unfold execute
  rw [hrelabel, statements_onConnection, statements_bind _ _ _ fun _ _ => rfl, statements_send]
  rfl

end ChartBoard.Engine
