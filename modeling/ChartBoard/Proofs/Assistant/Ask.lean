import ChartBoard.Proofs.Assistant.Attempts
import ChartBoard.Proofs.Assistant.Extraction
import ChartBoard.Proofs.Chart.Total

/-!
# What an answer tells

A question is put to the model and its answer is worked through in parts: the chart in it, the
attempts to run its statement, the summary of the rows and the chart that is shown.  The engine is
assumed to answer every statement or to reject it, with numbers in the range of doubles.

* `History.Explains` says that an answer tells what happened at the engine and at the model.
* `Presentable` says of the chart of the model's own that it can be copied as often as it is repaired;
  by `presentable_of_lt` a chart that nests less deep than may be copied is.
* `ask_explained` says that every answer tells what happened, and when there is one: in summary mode
  always, in the other modes if the chart of the model's first answer can be read and presented.
* `not_answered` is about answers that hold no chart and cannot be read.
-/

namespace ChartBoard.Assistant

open Datum
open Engine (Database sampleStatement sampleRows)

/-! ## Samples -/

/-- The engine once the first rows of some tables have been taken. -/
def afterSamples (tables : List Schema.Table) (db : Database) : Database :=
  ((sampled [] tables).outcome db).2

/-- Samples are taken of all tables, of which some may be rejected. -/
theorem exists_sampled {db : Database} (h : ∀ o ∈ db.outcomes, o.IsPlain) (samples : Samples)
    (tables : List Schema.Table) : ∃ taken next,
      (sampled samples tables).outcome db = (.ok taken, next) ∧
        (∀ o ∈ next.outcomes, o.IsPlain) ∧
          next.statements = db.statements ++ tables.map fun t => sampleStatement t.name 3 := by
  induction tables generalizing db samples with
  | nil => exact ⟨samples, db, rfl, h, by simp⟩
  | cons t rest ih =>
    obtain ⟨result, next, hexecute, hnext, -⟩ :=
      Engine.exists_execute Engine.isPlain_textTable (fun _ => id) h (sampleStatement t.name 3)
    have hsent := Engine.statements_execute db (sampleStatement t.name 3)
    rw [hexecute] at hsent
    have hrest (samples : Samples) : ∃ taken after,
        (sampled samples rest).outcome next = (.ok taken, after) ∧
          (∀ o ∈ after.outcomes, o.IsPlain) ∧ after.statements =
            db.statements ++ (t :: rest).map fun t => sampleStatement t.name 3 := by
      obtain ⟨taken, after, hsampled, hafter, hstatements⟩ := ih hnext samples
      refine ⟨taken, after, hsampled, hafter, ?_⟩
      rw [hstatements, hsent, List.append_assoc, List.map_cons, List.singleton_append]
    have hsample : (sampleRows t.name 3).outcome db = (result.mapError (.query _), next) := hexecute
    rw [sampled, Task.outcome_bind, Task.outcome_attempt, hsample]
    cases result with
    | ok rows => exact hrest (Record.set samples t.name (.list (rows.map .object)))
    | error message => exact hrest samples

/-! ## Parts of an answer -/

/-- The request for a summary, which is made in summary mode when there are rows. -/
def summaryCalls (provider : Option String) (question : String) (mode : Mode)
    (rows : List Record) : List Call :=
  if mode = .summary && !rows.isEmpty then [⟨summaryPrompt rows question, provider, none⟩] else []

/-- The chart of the model's own, which is not looked for in summary mode. -/
def foundChart (settings : Settings) (mode : Mode) (answer : String) : Dialogue (Option Record) :=
  if mode = .summary then pure none
  else Task.ofExcept do Chart.repaired settings (← chart settings.limits answer) .null

/-- The summary, which is asked for in summary mode when there are rows. -/
def summaryOf (settings : Settings) (provider : Option String) (question : String) (mode : Mode)
    (rows : List Record) : Dialogue String :=
  if mode = .summary && !rows.isEmpty then summarized settings provider question rows else pure ""

/-- The chart that is shown, outside of summary mode. -/
def shownChart (settings : Settings) (mode : Mode) (found : Option Record) (rows : List Record) :
    Dialogue (Option Record) :=
  if mode = .summary then pure none else Task.ofExcept (chartFor settings mode found rows)

/-- The answer that the parts make. -/
def replyOf (question : String) (mode : Mode) (answer : String) (ran : Option Run)
    (shown : Option Record) (summary : String) : Reply where
  question := question
  mode := mode
  text := compact 5 520 (clean answer)
  sql := (ran.map (·.sql)).or (statement? answer)
  rows := (ran.map (·.rows)).getD []
  chart := shown
  summary := summary
  errors := (ran.bind (·.error)).toList ++
    if mode = .chart && shown.isNone then [noChartText] else []
  retries := (ran.map (·.failures)).getD 0

theorem ofName?_name (mode : Mode) : Mode.ofName? mode.name = some mode := by
  cases mode <;> decide

section

variable {question answer summary : String} {mode : Mode} {ran : Option Run}
  {shown : Option Record}

theorem errors_replyOf (hmode : mode ≠ .chart) :
    (replyOf question mode answer ran shown summary).errors = [] ↔ ran.bind (·.error) = none := by
  have herrors : (replyOf question mode answer ran shown summary).errors =
      (ran.bind (·.error)).toList := by simp [replyOf, hmode]
  rw [herrors, Option.toList_eq_nil_iff]

theorem noChartText_mem_replyOf (hmode : mode = .chart)
    (hother : ran.bind (·.error) ≠ some noChartText) :
    noChartText ∈ (replyOf question mode answer ran shown summary).errors ↔ shown = none := by
  have hnot : noChartText ∉ (ran.bind (·.error)).toList := fun h =>
    hother (Option.mem_toList.mp h)
  cases shown <;> simp [replyOf, hmode, hnot]

end

theorem ask_eq (settings : Settings) (question : String) (mode : Mode) (provider : Option String)
    (schemas : List Schema.Table) :
    ask settings question mode.name provider (some schemas) = (do
      let samples ← engine (sampled [] schemas)
      let answer ← consult settings provider (some (systemPrompt schemas samples mode)) question
      let found ← foundChart settings mode answer
      let ran ← runFirst settings provider (statement? answer)
      let rows := (ran.map (·.rows)).getD []
      let summary ← summaryOf settings provider question mode rows
      let shown ← shownChart settings mode found rows
      return replyOf question mode answer ran shown summary) := by
  unfold ask
  rw [ofName?_name]
  unfold foundChart summaryOf shownChart
  simp only [Task.ite_bind]
  rfl

/-- A value that nests not too deep to be repaired, nor does the chart that comes of the repair nest
too deep for the next one. -/
structure Presentable (settings : Settings) (v : Datum) : Prop where
  copyable : Chart.Copyable settings.limits v
  levels_le : ∀ c, Chart.repaired settings v .null = .ok (some c) →
    (object c).levels ≤ settings.limits.copying

theorem presentable_of_not_object (settings : Settings) {v : Datum} (h : v.isObject = false) :
    Presentable settings v where
  copyable hobject := absurd hobject (by simp [h])
  levels_le c hc := by
    obtain ⟨given, rfl, -⟩ := Chart.repaired_eq_some hc
    cases h

/-- What is less deep than may be copied can be presented. -/
theorem presentable_of_lt {settings : Settings} {v : Datum}
    (h : v.levels < settings.limits.copying) : Presentable settings v where
  copyable _ := Nat.le_of_lt h
  levels_le c hc := by
    obtain ⟨n, hn⟩ := Nat.exists_eq_add_of_le' settings.limits.eight_le_copying
    have hv : v.levels ≤ (n + 2) + 5 := by omega
    have hlevels := Chart.levels_of_repaired hv hc
    omega

section

variable {settings : Settings} {mode : Mode} {answer : String} {rows : List Record}
  {found : Option Record}

theorem exists_foundChart (desk : Desk)
    (hread : mode = .summary ∨ ∃ v, chart settings.limits answer = .ok v ∧ Presentable settings v)
    (hchart : ∀ v, chart settings.limits answer = .ok v → v.inRange = true) :
    ∃ found, (foundChart settings mode answer).outcome desk = (.ok found, desk) ∧
      ∀ c, found = some c →
        (object c).inRange = true ∧ (object c).levels ≤ settings.limits.copying := by
  unfold foundChart
  by_cases hsummary : mode = .summary
  · rw [if_pos hsummary]
    exact ⟨none, rfl, nofun⟩
  · rw [if_neg hsummary]
    obtain ⟨v, hv, hpresentable⟩ := hread.resolve_left hsummary
    have hnull : Ranged True (Chart.fallbackChart settings .null) := ranged_ok none
    obtain ⟨found, hfound⟩ :=
      (Chart.ranged_repaired hpresentable.copyable (fun _ => hchart v hv) hnull).1 trivial
    refine ⟨found, ?_, fun c hc => ⟨Chart.inRange_of_repaired (hchart v hv) (hc ▸ hfound),
      hpresentable.levels_le c (hc ▸ hfound)⟩⟩
    rw [Task.outcome_ofExcept, hv]
    exact congrArg (·, desk) hfound

theorem exists_summaryOf {replies : List String} {desk : Desk}
    (hreplies : desk.replies = some replies) (settings : Settings) (provider : Option String)
    (question : String) (mode : Mode) (rows : List Record) : ∃ summary after,
      (summaryOf settings provider question mode rows).outcome desk = (.ok summary, after) ∧
        after.database = desk.database ∧
          after.calls = desk.calls ++ summaryCalls provider question mode rows := by
  unfold summaryOf summaryCalls
  split
  · refine ⟨compact 5 560 (clean (replies.headD "")),
      desk.consulted replies ⟨summaryPrompt rows question, provider, none⟩, ?_, rfl, rfl⟩
    exact Task.bind_eq_ok.mpr ⟨_, _, outcome_consult hreplies (summaryPrompt rows question), rfl⟩
  · exact ⟨"", desk, rfl, rfl, (List.append_nil _).symm⟩

theorem exists_chartFor (mode : Mode) (hfound : ∀ c, found = some c →
      (object c).inRange = true ∧ (object c).levels ≤ settings.limits.copying)
    (hrows : ∀ row ∈ rows, (object row).inRange = true) :
    ∃ shown, chartFor settings mode found rows = .ok shown := by
  have hofRows (title : Datum) :
      Ranged True (Chart.chartOfRows settings title (.list (rows.map .object))) :=
    Chart.ranged_chartOfRows (fun row hrow _ => hrows row hrow) settings title
  have hfallback : Ranged True (Chart.fallbackChart settings
      (if rows.isEmpty then .null else .list (rows.map .object))) := by
    split
    · exact ranged_ok none
    · exact hofRows Chart.generatedTitle
  unfold chartFor
  extract_lets data
  cases found with
  | some c =>
    obtain ⟨hrange, hlevels⟩ := hfound c rfl
    obtain ⟨fit, hfit⟩ := (Chart.ranged_repaired (Chart.copyable_object.mpr hlevels)
      (fun _ => hrange) hfallback).1 trivial
    exact ⟨_, Result.bind_eq_ok.mpr ⟨some c, rfl, Result.bind_eq_ok.mpr ⟨fit, hfit, rfl⟩⟩⟩
  | none =>
    dsimp only
    split
    · obtain ⟨made, hmade⟩ := (hofRows Chart.generatedTitle).1 trivial
      rw [hmade]
      cases made with
      | none => exact ⟨none, rfl⟩
      | some c =>
        obtain ⟨fit, hfit⟩ := (Chart.ranged_repaired_chartOfRows hmade hfallback).1 trivial
        exact ⟨_, Result.bind_eq_ok.mpr ⟨some _, rfl, Result.bind_eq_ok.mpr ⟨fit, hfit, rfl⟩⟩⟩
    · exact ⟨none, rfl⟩

theorem exists_shownChart (mode : Mode) (desk : Desk) (hfound : ∀ c, found = some c →
      (object c).inRange = true ∧ (object c).levels ≤ settings.limits.copying)
    (hrows : ∀ row ∈ rows, (object row).inRange = true) :
    ∃ shown, (shownChart settings mode found rows).outcome desk = (.ok shown, desk) ∧
      (mode = .summary → shown = none) := by
  unfold shownChart
  by_cases hsummary : mode = .summary
  · rw [if_pos hsummary]
    exact ⟨none, rfl, fun _ => rfl⟩
  · rw [if_neg hsummary]
    obtain ⟨shown, hshown⟩ := exists_chartFor mode hfound hrows
    exact ⟨shown, congrArg (·, desk) hshown, fun h => absurd h hsummary⟩

/-- A chart that has been found and is shown has been repaired twice. -/
theorem presentable_of_shown {desk next desk' after : Desk} {shown : Option Record}
    (hfound : (foundChart settings mode answer).outcome desk = (.ok found, next))
    (hshown : (shownChart settings mode found rows).outcome desk' = (.ok shown, after)) :
    mode = .summary ∨ ∃ v, chart settings.limits answer = .ok v ∧ Presentable settings v := by
  by_cases hsummary : mode = .summary
  · exact .inl hsummary
  · rw [foundChart, if_neg hsummary, Task.ofExcept_eq_ok] at hfound
    rw [shownChart, if_neg hsummary, Task.ofExcept_eq_ok] at hshown
    obtain ⟨v, hv, hrepaired⟩ := Result.bind_eq_ok.mp hfound.1
    refine .inr ⟨v, hv, Chart.copyable_of_repaired hrepaired, fun c hc => ?_⟩
    obtain rfl : found = some c := Except.ok.inj (hrepaired.symm.trans hc)
    obtain ⟨made, hmade, hshown⟩ := Result.bind_eq_ok.mp hshown.1
    obtain rfl := Except.ok.inj hmade
    obtain ⟨fit, hfit, -⟩ := Result.bind_eq_ok.mp hshown
    exact (Chart.repaired_eq_ok.mp hfit).1

end

/-! ## Answers -/

/-- What happened between a question and its answer: the samples that the model was shown, the
engine once they had been taken, and the statements that were run. -/
structure History where
  samples : Samples
  sampled : Database
  attempts : List Attempt

/-- An answer that tells what happened: which statements the engine was sent and why these, what the
model was asked, and what became of the last statement. -/
structure History.Explains (h : History) (settings : Settings) (question : String) (mode : Mode)
    (provider : Option String) (schemas : List Schema.Table) (desk after : Desk)
    (replies : List String) (reply : Reply) : Prop where
  sampled_eq : (Assistant.sampled [] schemas).outcome desk.database = (.ok h.samples, h.sampled)
  ran : Ran h.sampled h.attempts after.database
  statements : after.database.statements = desk.database.statements ++
    (schemas.map fun t => sampleStatement t.name 3) ++ h.attempts.map (·.sql)
  length_le : h.attempts.length ≤ settings.assistantRetries.toNat + 1
  rejected : ∀ a ∈ h.attempts.dropLast, a.failure? ≠ none
  sqls : h.attempts.map (·.sql) = (answersOf replies
    ((corrections settings.assistantRetries.toNat h.attempts).length + 1)).filterMap usable?
  calls : after.calls = desk.calls ++
    ⟨question, provider, some (systemPrompt schemas h.samples mode)⟩ ::
      (corrections settings.assistantRetries.toNat h.attempts).map (correction provider) ++
        summaryCalls provider question mode reply.rows
  retries : reply.retries = (rejections h.attempts).length
  sql : reply.sql = (h.attempts.getLast?.map (·.sql)).or (statement? (replies.headD ""))
  rows : reply.rows = (h.attempts.getLast?.map (·.rows)).getD []
  errors : mode ≠ .chart → (reply.errors = [] ↔
    usable? (replies.headD "") = none ∨ ∃ a ∈ h.attempts.getLast?, a.failure? = none)
  chart : mode = .chart → (reply.chart.isSome = true ↔ noChartText ∉ reply.errors)
  summary : mode = .summary → reply.chart = none

section

variable {settings : Settings} {question : String} {mode : Mode} {provider : Option String}
  {schemas : List Schema.Table} {desk : Desk} {replies : List String}

theorem filterMap_cons_toList {α β : Type} (f : α → Option β) (x : α) (xs : List α) :
    (x :: xs).filterMap f = (f x).toList ++ xs.filterMap f := by
  cases hx : f x with
  | none => rw [List.filterMap_cons_none hx]; rfl
  | some y => rw [List.filterMap_cons_some hx]; rfl

theorem exists_answer (hreplies : desk.replies = some replies)
    (hplain : ∀ o ∈ desk.database.outcomes, o.IsPlain)
    (hrange : ∀ o ∈ (afterSamples schemas desk.database).outcomes, o.InRange)
    (hchart : ∀ v, chart settings.limits (replies.headD "") = .ok v → v.inRange = true)
    (hread : mode = .summary ∨
      ∃ v, chart settings.limits (replies.headD "") = .ok v ∧ Presentable settings v) :
    ∃ reply after,
      (ask settings question mode.name provider (some schemas)).outcome desk = (.ok reply, after) ∧
        ∃ h : History,
          h.Explains settings question mode provider schemas desk after replies reply := by
  obtain ⟨samples, sampled, hsampled, hsampledPlain, hsent⟩ := exists_sampled hplain [] schemas
  have hsampledRange : ∀ o ∈ sampled.outcomes, o.IsPlain ∧ o.InRange := fun o ho =>
    ⟨hsampledPlain o ho, hrange o (by rw [afterSamples, hsampled]; exact ho)⟩
  -- the desk once the samples have been taken, and once the question has been asked
  let started : Desk := { desk with database := sampled }
  let asked : Desk := started.consulted replies
    ⟨question, provider, some (systemPrompt schemas samples mode)⟩
  have hasked : asked.replies = some (replies.drop 1) := rfl
  obtain ⟨found, hfound, hfoundRange⟩ := exists_foundChart asked hread hchart
  obtain ⟨attempts, ran, tried, hran, hcorrected, hreports, hrows⟩ :=
    exists_runFirst settings provider hasked hsampledRange (replies.headD "")
  obtain ⟨summary, after, hsummary, hdatabase, hcalls⟩ := exists_summaryOf hcorrected.replies_eq
    settings provider question mode ((ran.map (·.rows)).getD [])
  obtain ⟨shown, hshown, hshownNone⟩ := exists_shownChart mode after hfoundRange hrows
  have hstarted : (engine (Assistant.sampled [] schemas)).outcome desk = (.ok samples, started) := by
    rw [outcome_engine, hsampled]
  have hanswer : (consult settings provider (some (systemPrompt schemas samples mode))
      question).outcome started = (.ok (replies.headD ""), asked) := by
    have hreplied : started.replies = some replies := hreplies
    exact outcome_consult hreplied question
  refine ⟨replyOf question mode (replies.headD "") ran shown summary, after, ?_,
    ⟨samples, sampled, attempts⟩, ?_⟩
  · rw [ask_eq]
    exact Task.bind_eq_ok.mpr ⟨samples, started, hstarted,
      Task.bind_eq_ok.mpr ⟨_, asked, hanswer,
        Task.bind_eq_ok.mpr ⟨found, asked, hfound, Task.bind_eq_ok.mpr ⟨ran, tried, hran,
          Task.bind_eq_ok.mpr ⟨summary, after, hsummary,
            Task.bind_eq_ok.mpr ⟨shown, after, hshown, rfl⟩⟩⟩⟩⟩⟩
  · exact {
      sampled_eq := hsampled
      ran := hdatabase ▸ hcorrected.ran
      statements := by
        rw [hdatabase, hcorrected.ran.statements, ← hsent]
        rfl
      length_le := hcorrected.length_le
      rejected := hcorrected.rejected
      sqls := by
        rw [answersOf_succ, filterMap_cons_toList]
        exact hcorrected.sqls
      calls := by
        rw [hcalls, hcorrected.calls_eq]
        simp [asked, started, Desk.consulted, replyOf]
      retries := hreports.failures.trans (Nat.zero_add _)
      sql := congrArg (Option.or · _) hreports.sql
      rows := congrArg (Option.getD · _) hreports.rows
      errors := fun hmode => by
        rw [errors_replyOf hmode, hreports.error_eq_none, ← hcorrected.head?_sql]
        cases attempts with
        | nil => simp
        | cons a rest => simp [List.getLast?_cons]
      chart := fun hmode => by
        rw [noChartText_mem_replyOf hmode hreports.error_ne]
        exact Option.isSome_iff_ne_none
      summary := hshownNone }

/-- A question that is answered has an answer of the model whose chart can be read and presented. -/
theorem presentable_of_ask {reply : Reply} {after : Desk} (hreplies : desk.replies = some replies)
    (hask : (ask settings question mode.name provider (some schemas)).outcome desk =
      (.ok reply, after)) : mode = .summary ∨
        ∃ v, chart settings.limits (replies.headD "") = .ok v ∧ Presentable settings v := by
  rw [ask_eq] at hask
  obtain ⟨samples, started, hsampled, hask⟩ := Task.bind_eq_ok.mp hask
  obtain ⟨answer, asked, hanswer, hask⟩ := Task.bind_eq_ok.mp hask
  obtain ⟨found, next, hfound, hask⟩ := Task.bind_eq_ok.mp hask
  obtain ⟨ran, tried, -, hask⟩ := Task.bind_eq_ok.mp hask
  obtain ⟨summary, summed, -, hask⟩ := Task.bind_eq_ok.mp hask
  obtain ⟨shown, drawn, hshown, -⟩ := Task.bind_eq_ok.mp hask
  obtain ⟨-, rfl⟩ := Prod.mk.inj hsampled
  have hreplied : ({ desk with database := afterSamples schemas desk.database } : Desk).replies =
      some replies := hreplies
  obtain ⟨hgiven, -⟩ := Prod.mk.inj ((outcome_consult hreplied question).symm.trans hanswer)
  exact presentable_of_shown ((Except.ok.inj hgiven).symm ▸ hfound) hshown

/-- A question is answered exactly if the chart in the answer of the model can be read and presented,
if only to find that it is none; in summary mode it always is.  Every answer tells what happened. -/
theorem ask_explained (settings : Settings) (question : String) (mode : Mode)
    (provider : Option String) (schemas : List Schema.Table)
    (hreplies : desk.replies = some replies)
    (hplain : ∀ o ∈ desk.database.outcomes, o.IsPlain)
    (hrange : ∀ o ∈ (afterSamples schemas desk.database).outcomes, o.InRange)
    (hchart : ∀ v, chart settings.limits (replies.headD "") = .ok v → v.inRange = true) :
    ((∃ reply after, (ask settings question mode.name provider (some schemas)).outcome desk =
        (.ok reply, after)) ↔ mode = .summary ∨
          ∃ v, chart settings.limits (replies.headD "") = .ok v ∧ Presentable settings v) ∧
      ∀ reply after, (ask settings question mode.name provider (some schemas)).outcome desk =
        (.ok reply, after) → ∃ h : History,
          h.Explains settings question mode provider schemas desk after replies reply := by
  refine ⟨⟨?_, fun hread => ?_⟩, fun reply after hask => ?_⟩
  · rintro ⟨reply, after, hask⟩
    exact presentable_of_ask hreplies hask
  · obtain ⟨reply, after, hask, -⟩ := exists_answer hreplies hplain hrange hchart hread
    exact ⟨reply, after, hask⟩
  · obtain ⟨reply', after', hask', h, hexplains⟩ :=
      exists_answer hreplies hplain hrange hchart (presentable_of_ask hreplies hask)
    obtain ⟨hreply, rfl⟩ := Prod.mk.inj (hask.symm.trans hask')
    obtain rfl := Except.ok.inj hreply
    exact ⟨h, hexplains⟩

end

/-- An engine that rejects a statement before it answers another. -/
def strictEngine : Database where
  outcomes := [.rejected "no such column", .table ["total"] [[.float 2.0]]]

/-- A statement and its correction. -/
def corrected : List String := ["[SQL]SELECT tota[/SQL]", "[SQL]SELECT total[/SQL]"]

theorem ask_explained_corrected : ∃ reply after,
    (ask {} "How many?" Mode.auto.name none (some [])).outcome ⟨strictEngine, some corrected, []⟩ =
        (.ok reply, after) ∧
      ∃ h : History,
        h.Explains {} "How many?" .auto none [] ⟨strictEngine, some corrected, []⟩ after corrected
          reply := by
  have hnull : chart ({} : Settings).limits (corrected.headD "") = .ok .null := by
    have htagged : tagged? "chart" (corrected.headD "").toList = none := by decide
    have hfenced : fenced? "json".toList (corrected.headD "").toList = none := by decide
    rw [chart, htagged, hfenced]
  have hplain : ∀ o ∈ strictEngine.outcomes, o.IsPlain := by
    refine List.forall_mem_cons.mpr ⟨⟨by simp, [], rfl⟩, List.forall_mem_singleton.mpr ⟨by simp, ?_⟩⟩
    exact ⟨[[("total", .float 2.0)]], rfl⟩
  have hrange : ∀ o ∈ (afterSamples [] strictEngine).outcomes, o.InRange := by
    refine List.forall_mem_cons.mpr ⟨fun rows hrows => ?_,
      List.forall_mem_singleton.mpr fun rows hrows => ?_⟩
    · obtain rfl := Except.ok.inj hrows
      simp
    · obtain rfl : [[("total", Datum.float 2.0)]] = rows := Except.ok.inj hrows
      simp
  have hchart : ∀ v, chart ({} : Settings).limits (corrected.headD "") = .ok v →
      v.inRange = true := fun v hv => by
    obtain rfl := Except.ok.inj (hnull.symm.trans hv)
    rfl
  have hreplies : (⟨strictEngine, some corrected, []⟩ : Desk).replies = some corrected := rfl
  obtain ⟨hanswered, hexplained⟩ :=
    ask_explained {} "How many?" .auto none [] hreplies hplain hrange hchart
  obtain ⟨reply, after, hask⟩ := hanswered.mpr (.inr ⟨.null, hnull, presentable_of_not_object {} rfl⟩)
  exact ⟨reply, after, hask, hexplained reply after hask⟩

/-- An answer of the model after which a question about no tables has no answer. -/
def EndsQuestion (answer : String) : Prop :=
  ∀ reply after, (ask {} "How many?" Mode.auto.name none (some [])).outcome ⟨{}, some [answer], []⟩ ≠
    (.ok reply, after)

theorem endsQuestion_of_unread {answer : String} {fault : Fault}
    (h : chart ({} : Settings).limits answer = .error fault) : EndsQuestion answer := by
  intro reply after hask
  have hreplies : (⟨{}, some [answer], []⟩ : Desk).replies = some [answer] := rfl
  rcases presentable_of_ask hreplies hask with hsummary | ⟨v, hv, -⟩
  · cases hsummary
  · cases h.symm.trans hv

/-- A fence around a number with too many digits. -/
def longNumber : String :=
  String.ofList (fencedLine (List.replicate (Number.mostDigits + 1) '1'))

/-- A fence around lists that nest too deep. -/
def deepLists : String := String.ofList (fencedLine (Json.nested 100000))

/-- A fence ends a question although it holds no chart, be it for the digits of a number or for the
depth of lists in which there is no number at all. -/
theorem not_answered : EndsQuestion longNumber ∧ EndsQuestion deepLists ∧
    ∀ c ∈ deepLists.toList, c.isDigit = false := by
  refine ⟨endsQuestion_of_unread (chart_longNumber (Nat.lt_succ_self _)),
    endsQuestion_of_unread (chart_nested (by decide)), ?_⟩
  rw [deepLists, String.toList_ofList]
  exact forall_mem_fencedLine (by decide) (by decide)
    (Json.forall_mem_nested (by decide) (by decide) _)

end ChartBoard.Assistant
