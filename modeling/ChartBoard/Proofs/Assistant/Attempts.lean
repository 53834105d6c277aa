import ChartBoard.Assistant.Ask
import ChartBoard.Proofs.Engine.Answers

/-!
# Attempts

The statements that are run for an answer: the one in the answer and, as long as the engine rejects
them and corrections are left, those in the answers to the requests for a correction.

* `Ran` says that attempts were made on an engine one after the other.
* `Corrected` says that each of them but the first corrects the one before, and `Reports` that a run
  tells of them as they were.
* `exists_run` says that both are so of every run.
-/

namespace ChartBoard.Assistant

open Engine (Database Outcome execute sampleRows sampleStatement)

/-! ## Attempts on an engine -/

/-- A statement with its rows or the words with which the engine rejected it. -/
structure Attempt where
  sql : String
  result : Except String (List Record)

namespace Attempt

/-- The statement and the words with which it was rejected, if it was. -/
def failure? (a : Attempt) : Option (String × String) :=
  match a.result with
  | .ok _ => none
  | .error message => some (a.sql, message)

/-- The rows of the statement; none when it was rejected. -/
def rows (a : Attempt) : List Record :=
  match a.result with
  | .ok rows => rows
  | .error _ => []

end Attempt

/-- The rejected statements with the words of the engine. -/
def rejections (attempts : List Attempt) : List (String × String) :=
  attempts.filterMap Attempt.failure?

/-- Attempts made on an engine one after the other. -/
inductive Ran : Database → List Attempt → Database → Prop
  | nil (db : Database) : Ran db [] db
  | cons {db next after : Database} {a : Attempt} {rest : List Attempt}
      (hexecute : (execute a.sql).outcome db = (a.result.mapError (.query a.sql), next))
      (hrest : Ran next rest after) : Ran db (a :: rest) after

/-- The engine is sent the statements of the attempts and nothing else. -/
theorem Ran.statements {db after : Database} {attempts : List Attempt}
    (h : Ran db attempts after) :
    after.statements = db.statements ++ attempts.map (·.sql) := by
  induction h with
  | nil db => simp
  | @cons db next after a rest hexecute _ ih =>
    have hsent := Engine.statements_execute db a.sql
    rw [hexecute] at hsent
    rw [ih, hsent, List.map_cons, List.append_assoc, List.singleton_append]

/-! ## Answers of the model -/

/-- The statement in an answer, if there is one that is not empty. -/
def usable? (answer : String) : Option String :=
  (statement? answer).filter fun sql => !sql.isEmpty

/-- The first answers of a model with replies of its own. -/
def answersOf (replies : List String) (n : Nat) : List String :=
  (List.range n).map fun i => replies.getD i ""

theorem answersOf_succ (replies : List String) (n : Nat) :
    answersOf replies (n + 1) = replies.headD "" :: answersOf (replies.drop 1) n := by
  rw [answersOf, List.range_succ_eq_map, List.map_cons, List.map_map, answersOf]
  refine congrArg₂ List.cons ?_ (List.map_congr_left fun i _ => ?_)
  · cases replies <;> rfl
  · simp [List.getD_eq_getElem?_getD]

/-- The request to correct a rejected statement. -/
def correction (provider : Option String) (failure : String × String) : Call :=
  ⟨retryPrompt failure.1 failure.2, provider, some retrySystem⟩

section

variable {settings : Settings} {provider system : Option String} {desk : Desk}
  {replies : List String}

theorem outcome_engine {α : Type} (work : Engine.Session α) (desk : Desk) :
    (engine work).outcome desk = ((work.outcome desk.database).1,
      { desk with database := (work.outcome desk.database).2 }) := rfl

/-- The desk after a prompt. -/
def Desk.consulted (desk : Desk) (replies : List String) (call : Call) : Desk :=
  { desk with replies := some (replies.drop 1), calls := desk.calls ++ [call] }

theorem outcome_consult (h : desk.replies = some replies) (prompt : String) :
    (consult settings provider system prompt).outcome desk =
      (.ok (replies.headD ""), desk.consulted replies ⟨prompt, provider, system⟩) := by
  unfold consult
  rw [Task.outcome_bind, Task.outcome_get]
  dsimp only
  rw [h]
  rfl

/-! ## Runs -/

theorem outcome_run_of_rows (left failed : Nat) {sql : String} {rows : List Record}
    {next : Database} (hexecute : (execute sql).outcome desk.database = (.ok rows, next)) :
    (run settings provider left failed sql).outcome desk =
      (.ok ⟨sql, rows, true, failed, none⟩, { desk with database := next }) := by
  unfold run
  rw [Task.outcome_bind, Task.outcome_attempt, outcome_engine, hexecute]
  rfl

theorem outcome_run_exhausted (failed : Nat) {sql message : String} {next : Database}
    (hexecute : (execute sql).outcome desk.database = (.error (.query sql message), next)) :
    (run settings provider 0 failed sql).outcome desk =
      (.ok ⟨sql, [], false, failed + 1, some (exhaustedText settings.assistantRetries message)⟩,
        { desk with database := next }) := by
  rw [run, Task.outcome_bind, Task.outcome_attempt, outcome_engine, hexecute]
  rfl

/-- The desk after a statement was rejected and its correction asked for. -/
def Desk.corrected (desk : Desk) (next : Database) (replies : List String)
    (provider : Option String) (failure : String × String) : Desk :=
  Desk.consulted { desk with database := next } replies (correction provider failure)

theorem Desk.corrected_replies (desk : Desk) (next : Database) (replies : List String)
    (provider : Option String) (failure : String × String) :
    (desk.corrected next replies provider failure).replies = some (replies.drop 1) := rfl

variable (settings provider) in
/-- After a rejection the correction is run, unless none is offered. -/
theorem outcome_run_of_rejected (h : desk.replies = some replies) (left failed : Nat)
    {sql message : String} {next : Database}
    (hexecute : (execute sql).outcome desk.database = (.error (.query sql message), next)) :
    (run settings provider (left + 1) failed sql).outcome desk =
      match usable? (replies.headD "") with
      | none => (.ok ⟨sql, [], false, failed + 1, some uncorrectedText⟩,
          desk.corrected next replies provider (sql, message))
      | some fixed => (run settings provider left (failed + 1) fixed).outcome
          (desk.corrected next replies provider (sql, message)) := by
  have hasked : ({ desk with database := next } : Desk).replies = some replies := h
  rw [run, Task.outcome_bind, Task.outcome_attempt, outcome_engine, hexecute]
  dsimp only
  rw [Task.outcome_bind, outcome_consult hasked]
  dsimp only
  unfold usable?
  cases hfound : statement? (replies.headD "") with
  | none => rfl
  | some fixed =>
    cases hempty : fixed.isEmpty <;> simp [Option.filter, hempty] <;> rfl

/-! ## Corrections -/

/-- The rejected statements of which a correction is asked for. -/
def corrections (left : Nat) (attempts : List Attempt) : List (String × String) :=
  (rejections attempts).take left

/-- Attempts of which all but the last were rejected: the first statement, if there is one, and then
the corrections that the model offered when it was asked, at most `left` times. -/
structure Corrected (provider : Option String) (left : Nat) (first : Option String)
    (replies : List String) (desk after : Desk) (attempts : List Attempt) : Prop where
  ran : Ran desk.database attempts after.database
  head?_sql : attempts.head?.map (·.sql) = first
  length_le : attempts.length ≤ left + 1
  rejected : ∀ a ∈ attempts.dropLast, a.failure? ≠ none
  sqls : attempts.map (·.sql) =
    first.toList ++ (answersOf replies (corrections left attempts).length).filterMap usable?
  replies_eq : after.replies = some (replies.drop (corrections left attempts).length)
  calls_eq : after.calls = desk.calls ++ (corrections left attempts).map (correction provider)

/-- What a run tells of its attempts, of which there were some failures before; no run tells of no
attempts. -/
structure Reports (ran : Option Run) (failed : Nat) (attempts : List Attempt) : Prop where
  sql : ran.map (·.sql) = attempts.getLast?.map (·.sql)
  rows : ran.map (·.rows) = attempts.getLast?.map (·.rows)
  failures : (ran.map (·.failures)).getD failed = failed + (rejections attempts).length
  error_eq_none : ran.bind (·.error) = none ↔ ∀ a ∈ attempts.getLast?, a.failure? = none
  error_ne : ran.bind (·.error) ≠ some noChartText

theorem exhaustedText_ne (retries : Int) (message : String) :
    exhaustedText retries message ≠ noChartText := by
  intro h
  have hletter (cs : List Char) :
      ("Could not execute the query after ".toList ++ cs)[10]? = some 'e' := rfl
  have hother : noChartText.toList[10]? = some 'b' := rfl
  rw [← h] at hother
  unfold exhaustedText at hother
  simp only [String.toList_append, List.append_assoc] at hother
  cases (hletter _).symm.trans hother

theorem uncorrectedText_ne : uncorrectedText ≠ noChartText := by decide

/-- An attempt after which none is corrected. -/
theorem Corrected.last {left : Nat} {a : Attempt} {next : Database}
    (hreplies : desk.replies = some replies)
    (hexecute : (execute a.sql).outcome desk.database = (a.result.mapError (.query a.sql), next))
    (hlast : corrections left [a] = []) :
    Corrected provider left (some a.sql) replies desk { desk with database := next } [a] where
  ran := .cons hexecute (.nil next)
  head?_sql := rfl
  length_le := Nat.succ_le_succ (Nat.zero_le left)
  rejected := by simp
  sqls := by rw [hlast]; rfl
  replies_eq := by rw [hlast]; exact hreplies
  calls_eq := by rw [hlast]; exact (List.append_nil _).symm

/-- A rejected attempt for which no correction is offered. -/
theorem Corrected.abandoned {left : Nat} {sql message : String} {next : Database}
    (hexecute : (execute sql).outcome desk.database = (.error (.query sql message), next))
    (hnone : usable? (replies.headD "") = none) :
    Corrected provider (left + 1) (some sql) replies desk
      (desk.corrected next replies provider (sql, message)) [⟨sql, .error message⟩] := by
  have hcorrections : corrections (left + 1) [⟨sql, .error message⟩] = [(sql, message)] := by
    simp [corrections, rejections, Attempt.failure?]
  exact {
    ran := .cons hexecute (.nil next)
    head?_sql := rfl
    length_le := Nat.succ_le_succ (Nat.zero_le _)
    rejected := by simp
    sqls := by
      rw [hcorrections, List.length_singleton, answersOf_succ, List.filterMap_cons_none hnone]
      rfl
    replies_eq := by rw [hcorrections]; rfl
    calls_eq := by rw [hcorrections]; rfl }

theorem Reports.of_rows (failed : Nat) (sql : String) (rows : List Record) :
    Reports (some ⟨sql, rows, true, failed, none⟩) failed [⟨sql, .ok rows⟩] where
  sql := rfl
  rows := rfl
  failures := rfl
  error_eq_none := by simp [Attempt.failure?]
  error_ne := nofun

theorem Reports.of_rejected (failed : Nat) (sql message : String) {error : String}
    (herror : error ≠ noChartText) :
    Reports (some ⟨sql, [], false, failed + 1, some error⟩) failed [⟨sql, .error message⟩] where
  sql := rfl
  rows := rfl
  failures := rfl
  error_eq_none := by simp [Attempt.failure?]
  error_ne := fun h => herror (Option.some.inj h)

/-- The attempts after a rejected one whose correction was offered. -/
theorem Corrected.cons {left : Nat} {sql message fixed : String} {next : Database} {after : Desk}
    {attempts : List Attempt}
    (hexecute : (execute sql).outcome desk.database = (.error (.query sql message), next))
    (hfixed : usable? (replies.headD "") = some fixed)
    (hrest : Corrected provider left (some fixed) (replies.drop 1)
      (desk.corrected next replies provider (sql, message)) after attempts) :
    Corrected provider (left + 1) (some sql) replies desk after (⟨sql, .error message⟩ :: attempts) := by
  have hcorrections : corrections (left + 1) (⟨sql, .error message⟩ :: attempts) =
      (sql, message) :: corrections left attempts := rfl
  have hne : attempts ≠ [] := fun hnil => by simpa [hnil] using hrest.sqls
  exact {
    ran := .cons hexecute hrest.ran
    head?_sql := rfl
    length_le := Nat.succ_le_succ hrest.length_le
    rejected := by
      rw [List.dropLast_cons_of_ne_nil hne, List.forall_mem_cons]
      exact ⟨Option.some_ne_none _, hrest.rejected⟩
    sqls := by
      rw [hcorrections, List.length_cons, answersOf_succ, List.filterMap_cons_some hfixed,
        List.map_cons, hrest.sqls]
      rfl
    replies_eq := by
      rw [hcorrections, hrest.replies_eq, List.length_cons, List.drop_drop, Nat.add_comm]
    calls_eq := by
      rw [hcorrections, hrest.calls_eq, List.map_cons]
      exact List.append_assoc .. }

theorem Reports.cons {r : Run} {failed : Nat} {sql message : String} {attempts : List Attempt}
    (h : Reports (some r) (failed + 1) attempts) :
    Reports (some r) failed (⟨sql, .error message⟩ :: attempts) := by
  have hlast : (⟨sql, .error message⟩ :: attempts).getLast? = attempts.getLast? := by
    cases attempts with
    | nil => cases h.sql
    | cons a rest => rfl
  have hrejections : rejections (⟨sql, .error message⟩ :: attempts) =
      (sql, message) :: rejections attempts := rfl
  exact {
    sql := by rw [hlast, h.sql]
    rows := by rw [hlast, h.rows]
    failures := by
      have hfailures : r.failures = failed + 1 + (rejections attempts).length := h.failures
      rw [hrejections, List.length_cons, Option.map_some, Option.getD_some, hfailures]
      ac_rfl
    error_eq_none := by rw [hlast, h.error_eq_none]
    error_ne := h.error_ne }

theorem exists_result {db : Database} (h : ∀ o ∈ db.outcomes, o.IsPlain ∧ o.InRange)
    (sql : String) : ∃ (result : Except String (List Record)) (next : Database),
      (execute sql).outcome db = (result.mapError (.query sql), next) ∧
        (∀ o ∈ next.outcomes, o.IsPlain ∧ o.InRange) ∧
          ∀ rows, result = .ok rows → ∀ row ∈ rows, (Datum.object row).inRange = true := by
  obtain ⟨result, next, hexecute, hnext, hrows⟩ := Engine.exists_execute
    (fun columns rows => ⟨Engine.isPlain_textTable columns rows,
      Engine.inRange_textTable columns rows⟩) (fun _ => And.left) h sql
  refine ⟨result, next, hexecute, hnext, fun rows hresult => ?_⟩
  obtain ⟨o, ho, hrecords⟩ := hrows rows hresult
  exact ho.2 rows hrecords

/-- Every run on an engine that answers or rejects comes to an end, and tells what it did. -/
theorem exists_run (hreplies : desk.replies = some replies)
    (h : ∀ o ∈ desk.database.outcomes, o.IsPlain ∧ o.InRange) (left failed : Nat) (sql : String) :
    ∃ attempts r after, (run settings provider left failed sql).outcome desk = (.ok r, after) ∧
      Corrected provider left (some sql) replies desk after attempts ∧ Reports (some r) failed attempts ∧
        ∀ row ∈ r.rows, (Datum.object row).inRange = true := by
  induction left generalizing failed sql desk replies with
  | zero =>
    obtain ⟨result, next, hexecute, -, hrows⟩ := exists_result h sql
    have hcorrected : Corrected provider 0 (some sql) replies desk { desk with database := next }
        [⟨sql, result⟩] := Corrected.last (a := ⟨sql, result⟩) hreplies hexecute rfl
    cases result with
    | ok rows =>
      exact ⟨_, _, _, outcome_run_of_rows 0 failed hexecute, hcorrected,
        .of_rows failed sql rows, hrows rows rfl⟩
    | error message =>
      exact ⟨_, _, _, outcome_run_exhausted failed hexecute, hcorrected,
        .of_rejected failed sql message (exhaustedText_ne settings.assistantRetries message), nofun⟩
  | succ left ih =>
    obtain ⟨result, next, hexecute, hnext, hrows⟩ := exists_result h sql
    cases result with
    | ok rows =>
      have hcorrected : Corrected provider (left + 1) (some sql) replies desk
          { desk with database := next } [⟨sql, .ok rows⟩] :=
        Corrected.last (a := ⟨sql, .ok rows⟩) hreplies hexecute rfl
      exact ⟨_, _, _, outcome_run_of_rows (left + 1) failed hexecute, hcorrected,
        .of_rows failed sql rows, hrows rows rfl⟩
    | error message =>
      have hrun := outcome_run_of_rejected settings provider hreplies left failed hexecute
      cases hfixed : usable? (replies.headD "") with
      | none =>
        rw [hfixed] at hrun
        exact ⟨_, _, _, hrun, .abandoned hexecute hfixed,
          .of_rejected failed sql message uncorrectedText_ne, nofun⟩
      | some fixed =>
        rw [hfixed] at hrun
        obtain ⟨attempts, r, after, hrest, hcorrected, hreports, hrange⟩ :=
          ih (desk.corrected_replies next replies provider (sql, message)) hnext (failed + 1) fixed
        exact ⟨_, r, after, hrun.trans hrest, hcorrected.cons hexecute hfixed, hreports.cons, hrange⟩

variable (settings provider) in
/-- An answer has its statement run, if there is one. -/
theorem exists_runFirst (hreplies : desk.replies = some replies)
    (h : ∀ o ∈ desk.database.outcomes, o.IsPlain ∧ o.InRange) (answer : String) :
    ∃ attempts ran after,
      (runFirst settings provider (statement? answer)).outcome desk = (.ok ran, after) ∧
        Corrected provider settings.assistantRetries.toNat (usable? answer) replies desk after
          attempts ∧ Reports ran 0 attempts ∧
            ∀ row ∈ (ran.map (·.rows)).getD [], (Datum.object row).inRange = true := by
  have hnone : Corrected provider settings.assistantRetries.toNat none replies desk desk [] := {
    ran := .nil desk.database
    head?_sql := rfl
    length_le := Nat.zero_le _
    rejected := nofun
    sqls := by simp [corrections, rejections, answersOf]
    replies_eq := by simpa [corrections, rejections] using hreplies
    calls_eq := by simp [corrections, rejections] }
  have hreports : Reports none 0 [] := ⟨rfl, rfl, rfl, by simp, nofun⟩
  unfold usable?
  cases hfound : statement? answer with
  | none => exact ⟨[], none, desk, rfl, hnone, hreports, nofun⟩
  | some sql =>
    cases hempty : sql.isEmpty with
    | true =>
      have hskipped : (runFirst settings provider (some sql)).outcome desk = (.ok none, desk) := by
        rw [runFirst, if_pos hempty]
        rfl
      rw [Option.filter_some, hempty]
      exact ⟨[], none, desk, hskipped, hnone, hreports, nofun⟩
    | false =>
      obtain ⟨attempts, r, after, hrun, hcorrected, hreports, hrange⟩ :=
        exists_run hreplies h settings.assistantRetries.toNat 0 sql
      have hran : (runFirst settings provider (some sql)).outcome desk = (.ok (some r), after) := by
        rw [runFirst, if_neg (by simp [hempty])]
        exact Task.bind_eq_ok.mpr ⟨r, after, hrun, rfl⟩
      rw [Option.filter_some, hempty]
      exact ⟨attempts, some r, after, hran, hcorrected, hreports, hrange⟩

end

end ChartBoard.Assistant
