import ChartBoard.Kpi.Schedule
import ChartBoard.Proofs.Keyed
import ChartBoard.Proofs.Task
import Mathlib.Data.List.Infix

/-!
# Only the latest request counts

Requests for key figures overtake each other: the engine answers them in any order.  Whatever the
order, a key figure comes only of a request that no later one for the same widget had superseded
when its answer came in.

* `Numbered` is the invariant: the versions of a widget count its requests.
* `isCurrent_iff` says that by it a call is current as long as it is not superseded.
* `outcome_of_answer` and `exists_answer` say where the outcome of a call comes from.
* `run_delivers_latest` is the result for every run, `alone_run` its part about other widgets.
* `answer_eq_recompute` says that a call comes to what the task of its request comes to.
-/

namespace ChartBoard.Kpi

/-! ## Versions -/

namespace Versions

theorem get?_next (v : Versions) (widget other : String) :
    Keyed.get? (v.next widget).latest other =
      if widget = other then some (v.version widget + 1) else Keyed.get? v.latest other :=
  Keyed.get?_set v.latest widget _ other

theorem version_next (v : Versions) (widget other : String) :
    (v.next widget).version other = v.version other + if widget = other then 1 else 0 := by
  unfold version
  rw [get?_next]
  by_cases h : widget = other
  · simp [h, version]
  · simp [h]

theorem isCurrent_natCast {v : Versions} {widget : String} {n : Nat} (hn : 0 < n) :
    v.isCurrent widget n = true ↔ v.version widget = n := by
  unfold isCurrent version
  cases Keyed.get? v.latest widget with
  | none => simp [hn.ne]
  | some m =>
    rw [beq_iff_eq, Option.getD_some]
    exact Int.natCast_inj

end Versions

namespace Office

variable {settings : Settings} {o : Office} {events : List Event} {k : Nat} {c : Call}

/-! ## Calls under way -/

/-- What was begun at an office, in the order in which it came. -/
def begun (o : Office) : List Started := o.calls.map (·.started)

theorem started_opened (s : Started) : (opened s).started = s := by
  unfold opened
  split <;> rfl

theorem started_answered (v : Versions) (rows : Except Fault (List Record)) (c : Call) :
    (answered v rows c).started = c.started := by
  unfold answered
  split <;> rfl

theorem calls_request (o : Office) (q : Request) :
    (handle settings o (.request q)).calls =
      o.calls ++ [opened (start settings o.versions q).2] := rfl

theorem calls_answer (o : Office) (call : Nat) (rows : Except Fault (List Record)) :
    (handle settings o (.answer call rows)).calls =
      o.calls.modify call (answered o.versions rows) := rfl

theorem begun_request (o : Office) (q : Request) :
    (handle settings o (.request q)).begun = o.begun ++ [(start settings o.versions q).2] := by
  simp [begun, calls_request, started_opened]

theorem begun_answer (settings : Settings) (o : Office) (call : Nat)
    (rows : Except Fault (List Record)) :
    (handle settings o (.answer call rows)).begun = o.begun := by
  apply List.ext_getElem?
  intro j
  simp only [begun, calls_answer, List.getElem?_map, List.getElem?_modify]
  cases o.calls[j]? with
  | none => rfl
  | some c =>
    simp only [Option.map_eq_map, Option.map_some]
    split
    · rw [started_answered]
    · rfl

theorem run_append (o : Office) (before after : List Event) :
    run settings o (before ++ after) = run settings (run settings o before) after :=
  List.foldl_append

theorem run_concat (o : Office) (before : List Event) (e : Event) :
    run settings o (before ++ [e]) = handle settings (run settings o before) e :=
  run_append o before [e]

/-- What was begun stays begun, in its place. -/
theorem begun_prefix_run (settings : Settings) (o : Office) (events : List Event) :
    o.begun <+: (run settings o events).begun := by
  induction events generalizing o with
  | nil => exact List.prefix_refl _
  | cons e events ih =>
    have hstep : o.begun <+: (handle settings o e).begun := by
      cases e with
      | request q =>
        rw [begun_request]
        exact List.prefix_append _ _
      | answer call rows =>
        rw [begun_answer]
    exact hstep.trans (ih _)

theorem getElem?_begun_run {s : Started} (h : o.begun[k]? = some s) (events : List Event) :
    (run settings o events).begun[k]? = some s := by
  obtain ⟨later, hlater⟩ := begun_prefix_run settings o events
  rw [← hlater, List.getElem?_append_left (List.getElem?_eq_some_iff.mp h).1, h]

/-! ## Versions count requests -/

/-- The number of requests for a widget. -/
def countFor (widget : String) (begun : List Started) : Nat :=
  begun.countP fun s => s.widget = widget

/-- The version of a widget is the number of its requests, and each request has the number that it
was when it came. -/
structure Numbered (o : Office) : Prop where
  latest : ∀ widget, o.versions.version widget = countFor widget o.begun
  own : ∀ k s, o.begun[k]? = some s → s.version = countFor s.widget (o.begun.take (k + 1))

theorem numbered_empty : Numbered {} := by
  refine ⟨fun widget => rfl, fun k s hs => ?_⟩
  simp [begun] at hs

theorem Numbered.handle (h : Numbered o) (e : Event) : Numbered (handle settings o e) := by
  cases e with
  | answer call rows =>
    constructor
    · intro widget
      rw [begun_answer]
      exact h.latest widget
    · rw [begun_answer]
      exact h.own
  | request q =>
    have hversions : (Office.handle settings o (.request q)).versions =
        o.versions.next q.widget := rfl
    constructor
    · intro widget
      rw [hversions, Versions.version_next, h.latest, begun_request]
      simp [countFor, start]
    · intro k s hs
      rw [begun_request] at hs ⊢
      rcases Nat.lt_or_ge k o.begun.length with hk | hk
      · rw [List.getElem?_append_left hk] at hs
        rw [List.take_append_of_le_length (by omega)]
        exact h.own k s hs
      · -- the request itself is the last one
        have hlast : k = o.begun.length := by
          have := (List.getElem?_eq_some_iff.mp hs).1
          simp only [List.length_append, List.length_singleton] at this
          omega
        subst hlast
        obtain rfl : (start settings o.versions q).2 = s := by simpa using hs
        rw [List.take_of_length_le (by simp)]
        simp only [start, Versions.version_next, h.latest]
        simp [countFor]

theorem numbered_run (events : List Event) : Numbered (run settings {} events) := by
  induction events using List.reverseRecOn with
  | nil => exact numbered_empty
  | append_singleton events e ih =>
    rw [run_concat]
    exact ih.handle e

/-- A later request for the widget of a call has come in. -/
def Superseded (o : Office) (k : Nat) : Prop :=
  ∃ s j later, o.begun[k]? = some s ∧ k < j ∧ o.begun[j]? = some later ∧ later.widget = s.widget

theorem isCurrent_iff (h : Numbered o) {s : Started} (hs : o.begun[k]? = some s) :
    o.versions.isCurrent s.widget s.version = true ↔ ¬ o.Superseded k := by
  have hk : k < o.begun.length := (List.getElem?_eq_some_iff.mp hs).1
  have hpositive : 0 < s.version := by
    rw [h.own k s hs, countFor, List.countP_pos_iff]
    have htake : (o.begun.take (k + 1))[k]? = some s := by
      rw [List.getElem?_take_of_lt (Nat.lt_succ_self k), hs]
    exact ⟨s, List.mem_of_getElem? htake, by simp⟩
  -- the requests up to the call are as many as its version, so the others come after it
  have hsplit : o.versions.version s.widget =
      s.version + countFor s.widget (o.begun.drop (k + 1)) := by
    rw [h.latest, h.own k s hs, countFor, countFor, countFor, ← List.countP_append,
      List.take_append_drop]
  rw [Versions.isCurrent_natCast hpositive, hsplit, Nat.add_eq_left, countFor, List.countP_eq_zero]
  constructor
  · rintro hnone ⟨s', j, later, hs', hj, hlater, hwidget⟩
    obtain rfl : s = s' := Option.some.inj (hs.symm.trans hs')
    refine hnone later ?_ (by simpa using hwidget)
    refine List.mem_of_getElem? (i := j - (k + 1)) ?_
    rw [List.getElem?_drop, Nat.add_sub_cancel' hj]
    exact hlater
  · intro hnot later hlater hwidget
    obtain ⟨i, hi⟩ := List.getElem?_of_mem hlater
    rw [List.getElem?_drop] at hi
    exact hnot ⟨s, k + 1 + i, later, hs, by omega, hi, by simpa using hwidget⟩

/-! ## Outcomes -/

/-- The office waits for the answer to a call. -/
def Waits (o : Office) (k : Nat) (s : Started) : Prop := o.calls[k]? = some ⟨s, none⟩

/-- What a superseded call comes to: nothing, whatever rows the engine has for it. -/
def dropped (answer : Except Fault (List Record)) : Except Fault (Option Record) :=
  match answer with
  | .ok _ => .ok none
  | .error fault => if fault.isShown then .ok none else .error fault

theorem finish_of_not_isCurrent {v : Versions} {s : Started}
    (h : ¬ v.isCurrent s.widget s.version = true) (answer : Except Fault (List Record)) :
    finish v s answer = dropped answer := by
  cases answer with
  | ok rows => rw [finish, if_neg h, dropped]
  | error fault => rfl

/-- A key figure comes of rows for a call that is current. -/
theorem finish_eq_some {v : Versions} {s : Started} {answer : Except Fault (List Record)}
    {figure : Record} (h : finish v s answer = .ok (some figure)) :
    ∃ rows, answer = .ok rows ∧ v.isCurrent s.widget s.version = true ∧
      keyFigureOf s.base rows = .ok (some figure) := by
  unfold finish at h
  split at h
  · rename_i rows
    split at h
    · rename_i hcurrent
      exact ⟨rows, rfl, hcurrent, h⟩
    · cases h
  · split at h <;> cases h

theorem opened_ne_figure (s : Started) (figure : Record) :
    (opened s).outcome ≠ some (.ok (some figure)) := by
  unfold opened
  split <;> simp

theorem getElem?_begun (h : o.calls[k]? = some c) : o.begun[k]? = some c.started := by
  rw [begun, List.getElem?_map, h, Option.map_some]

/-- An event either leaves a call alone, or the call waited and the event is its answer. -/
theorem getElem?_calls_handle (settings : Settings) (h : o.calls[k]? = some c) (e : Event) :
    (handle settings o e).calls[k]? = some c ∨
      ∃ rows, e = .answer k rows ∧
        (handle settings o e).calls[k]? = some (answered o.versions rows c) := by
  cases e with
  | request q =>
    refine Or.inl ?_
    rw [calls_request, List.getElem?_append_left (List.getElem?_eq_some_iff.mp h).1, h]
  | answer call rows =>
    rw [calls_answer, List.getElem?_modify, h]
    by_cases hcall : call = k
    · subst hcall
      exact Or.inr ⟨rows, rfl, by simp⟩
    · exact Or.inl (by simp [hcall])

/-- A call that has its outcome keeps it. -/
theorem getElem?_calls_run (h : o.calls[k]? = some c) {x : Except Fault (Option Record)}
    (hx : c.outcome = some x) (events : List Event) :
    (run settings o events).calls[k]? = some c := by
  induction events generalizing o with
  | nil => exact h
  | cons e events ih =>
    refine ih ?_
    rcases getElem?_calls_handle settings h e with hsame | ⟨rows, -, hanswered⟩
    · exact hsame
    · rwa [answered, hx] at hanswered

theorem outcome_of_answer (settings : Settings) {s : Started} (h : Waits o k s)
    (answer : Except Fault (List Record)) (after : List Event) :
    (run settings o (.answer k answer :: after)).calls[k]? =
      some ⟨s, some (finish o.versions s answer)⟩ := by
  have hcall : (handle settings o (.answer k answer)).calls[k]? =
      some ⟨s, some (finish o.versions s answer)⟩ := by
    rw [calls_answer, List.getElem?_modify, h]
    simp [answered]
  exact getElem?_calls_run hcall rfl after

/-- In a run, a call waits after some of the events, and the next one is its answer. -/
def Answered (settings : Settings) (events before : List Event) (k : Nat)
    (answer : Except Fault (List Record)) : Prop :=
  ∃ after s, events = before ++ .answer k answer :: after ∧ Waits (run settings {} before) k s

theorem Answered.concat {before : List Event} {answer : Except Fault (List Record)}
    (h : Answered settings events before k answer) (e : Event) :
    Answered settings (events ++ [e]) before k answer := by
  obtain ⟨after, s, rfl, hwaits⟩ := h
  exact ⟨after ++ [e], s, by simp, hwaits⟩

/-- A call with an outcome has had it since it came, or has been answered. -/
theorem exists_answer {x : Except Fault (Option Record)}
    (h : (run settings {} events).calls[k]? = some c) (hx : c.outcome = some x) :
    c = opened c.started ∨ ∃ before answer, Answered settings events before k answer := by
  induction events using List.reverseRecOn with
  | nil => simp [run] at h
  | append_singleton events e ih =>
    rw [run_concat] at h
    cases hbefore : (run settings {} events).calls[k]? with
    | none =>
      -- the call has just come
      cases e with
      | request q =>
        rw [calls_request, List.getElem?_append_right (List.getElem?_eq_none_iff.mp hbefore)] at h
        obtain rfl := List.mem_singleton.mp (List.mem_of_getElem? h)
        exact Or.inl (by rw [started_opened])
      | answer call rows => simp [calls_answer, List.getElem?_modify, hbefore] at h
    | some c₀ =>
      obtain ⟨s, outcome⟩ := c₀
      rcases getElem?_calls_handle settings hbefore e with hsame | ⟨rows, rfl, hnew⟩
      · rw [hsame] at h
        obtain rfl := Option.some.inj h
        exact (ih hbefore).imp_right fun ⟨before, answer, hanswered⟩ =>
          ⟨before, answer, hanswered.concat e⟩
      · cases outcome with
        | none => exact Or.inr ⟨events, rows, [], s, rfl, hbefore⟩
        | some y =>
          obtain rfl : ⟨s, some y⟩ = c := Option.some.inj (hnew.symm.trans h)
          exact (ih hbefore).imp_right fun ⟨before, answer, hanswered⟩ =>
            ⟨before, answer, hanswered.concat (.answer k rows)⟩

theorem Answered.waits {before : List Event} {answer : Except Fault (List Record)}
    (h : Answered settings events before k answer)
    (hc : (run settings {} events).calls[k]? = some c) :
    Waits (run settings {} before) k c.started ∧
      c.outcome = some (finish (run settings {} before).versions c.started answer) := by
  obtain ⟨after, s, rfl, hwaits⟩ := h
  rw [run_append, outcome_of_answer settings hwaits] at hc
  obtain rfl := Option.some.inj hc
  exact ⟨hwaits, rfl⟩

/-- A call is judged by whether it was superseded when its answer came. -/
theorem Answered.outcome {before : List Event} {answer : Except Fault (List Record)}
    (h : Answered settings events before k answer)
    (hc : (run settings {} events).calls[k]? = some c) :
    ((run settings {} before).Superseded k → c.outcome = some (dropped answer)) ∧
      (¬ (run settings {} before).Superseded k → ∀ rows, answer = .ok rows →
        c.outcome = some (keyFigureOf c.started.base rows)) := by
  obtain ⟨hwaits, houtcome⟩ := h.waits hc
  have hcurrent := isCurrent_iff (numbered_run before) (getElem?_begun hwaits)
  constructor
  · intro hsuperseded
    rw [houtcome, finish_of_not_isCurrent fun hyes => hcurrent.mp hyes hsuperseded]
  · rintro hnot rows rfl
    rw [houtcome, finish, if_pos (hcurrent.mpr hnot)]

/-- A key figure comes of an answer to a call that was not superseded. -/
theorem exists_answer_of_figure {figure : Record}
    (hc : (run settings {} events).calls[k]? = some c)
    (hfigure : c.outcome = some (.ok (some figure))) :
    ∃ before rows, Answered settings events before k (.ok rows) ∧
      ¬ (run settings {} before).Superseded k ∧
      keyFigureOf c.started.base rows = .ok (some figure) := by
  rcases exists_answer hc hfigure with hopened | ⟨before, answer, h⟩
  · rw [hopened] at hfigure
    exact absurd hfigure (opened_ne_figure _ _)
  · obtain ⟨hwaits, houtcome⟩ := h.waits hc
    have hfinish := Option.some.inj (houtcome.symm.trans hfigure)
    obtain ⟨rows, rfl, hcurrent, hrows⟩ := finish_eq_some hfinish
    exact ⟨before, rows, h,
      (isCurrent_iff (numbered_run before) (getElem?_begun hwaits)).mp hcurrent, hrows⟩

/-- Of two calls for a widget, the earlier one is superseded by the time the later one waits, and
remains so. -/
theorem superseded_of_le {j : Nat} {before before' : List Event} {s : Started}
    (hle : before <+: before') (hjk : j < k) (hs : (run settings {} before').begun[j]? = some s)
    (hlater : Waits (run settings {} before) k c.started) (hwidget : c.started.widget = s.widget) :
    (run settings {} before').Superseded j := by
  obtain ⟨between, rfl⟩ := hle
  rw [run_append] at hs ⊢
  exact ⟨s, k, c.started, hs, hjk, getElem?_begun_run (getElem?_begun hlater) between, hwidget⟩

/-! ## The task of a request -/

theorem outcome_recompute (meanwhile : Versions → Versions) {q : Request} {sql : String}
    (hsql : q.statement? settings = .ok (some sql)) (d : Desk) :
    ((recompute settings meanwhile q).outcome d).1 =
      finish (meanwhile (d.versions.next q.widget)) (start settings d.versions q).2
        ((Engine.execute sql).outcome d.database).1 := by
  have hstatement : (start settings d.versions q).2.statement = .ok (some sql) := hsql
  simp only [recompute, Task.outcome_bind, Task.outcome_get, Task.outcome_modify,
    Task.outcome_ofExcept, Task.outcome_attempt, hstatement]
  rfl

/-- The task of a request comes to what the call comes to, when the engine answers after others have
come in. -/
theorem answer_eq_recompute {q : Request} {sql : String}
    (hsql : q.statement? settings = .ok (some sql)) (db : Engine.Database) {later : Office}
    (hlater : later = run settings (handle settings o (.request q)) events) {s : Started}
    (hwaits : Waits later o.calls.length s) :
    (handle settings later
        (.answer o.calls.length ((Engine.execute sql).outcome db).1)).calls[o.calls.length]? =
      some ⟨s, some
        ((recompute settings (fun _ => later.versions) q).outcome ⟨o.versions, db⟩).1⟩ := by
  have hbegun : (handle settings o (.request q)).begun[o.calls.length]? =
      some (start settings o.versions q).2 := by
    rw [begun_request, List.getElem?_append_right (by simp [begun])]
    simp [begun]
  obtain rfl : s = (start settings o.versions q).2 := by
    have hsame := (getElem?_begun hwaits).symm.trans
      (hlater ▸ getElem?_begun_run hbegun events)
    exact Option.some.inj hsame
  rw [outcome_recompute _ hsql]
  exact outcome_of_answer settings hwaits _ []

/-! ## Other widgets -/

/-- The widgets of the calls so far. -/
def widgets (o : Office) : List String := o.calls.map (·.started.widget)

/-- The calls for a widget. -/
def callsFor (widget : String) (calls : List Call) : List Call :=
  calls.filter fun c => c.started.widget = widget

/-- The events that concern a widget, its calls numbered among themselves; `widgets` are those of
the calls so far. -/
def eventsFor (widget : String) : (widgets : List String) → List Event → List Event
  | _, [] => []
  | widgets, .request q :: rest =>
    let later := eventsFor widget (widgets ++ [q.widget]) rest
    if q.widget = widget then .request q :: later else later
  | widgets, .answer call rows :: rest =>
    let later := eventsFor widget widgets rest
    if widgets[call]? = some widget then
      .answer ((widgets.take call).count widget) rows :: later
    else later

theorem callsFor_append (widget : String) (xs ys : List Call) :
    callsFor widget (xs ++ ys) = callsFor widget xs ++ callsFor widget ys :=
  List.filter_append ..

/-- Changing a call changes the call of the same widget at its place among these. -/
theorem callsFor_modify (widget : String) {f : Call → Call}
    (hf : ∀ c, (f c).started = c.started) (calls : List Call) (call : Nat) :
    callsFor widget (calls.modify call f) =
      if (calls.map (·.started.widget))[call]? = some widget then
        (callsFor widget calls).modify (((calls.map (·.started.widget)).take call).count widget) f
      else callsFor widget calls := by
  induction calls generalizing call with
  | nil => simp [callsFor]
  | cons c calls ih =>
    cases call with
    | zero =>
      by_cases hc : c.started.widget = widget
      · simp [callsFor, hc, hf]
      · simp [callsFor, hc, hf]
    | succ call =>
      unfold callsFor at ih
      by_cases hc : c.started.widget = widget
      · simp only [callsFor, List.modify_succ_cons, List.filter_cons, hc, decide_true, if_true, ih,
          List.map_cons, List.getElem?_cons_succ, List.take_succ_cons, List.count_cons_self]
        split <;> rfl
      · simp only [callsFor, List.modify_succ_cons, List.filter_cons, hc, decide_false,
          Bool.false_eq_true, if_false, ih, List.map_cons, List.getElem?_cons_succ,
          List.take_succ_cons, List.count_cons_of_ne hc]

/-- The office of a widget alone has its calls and its version. -/
structure Alone (widget : String) (o alone : Office) : Prop where
  calls : alone.calls = callsFor widget o.calls
  version : Keyed.get? alone.versions.latest widget = Keyed.get? o.versions.latest widget

theorem Alone.version_eq {widget : String} {o alone : Office} (h : Alone widget o alone) :
    alone.versions.version widget = o.versions.version widget := by
  rw [Versions.version, Versions.version, h.version]

theorem Alone.request {widget : String} {o alone : Office} (h : Alone widget o alone)
    (q : Request) (hq : q.widget = widget) :
    Alone widget (handle settings o (.request q)) (handle settings alone (.request q)) := by
  have hversions (o : Office) :
      (handle settings o (.request q)).versions = o.versions.next q.widget := rfl
  have hstarted : (start settings alone.versions q).2 = (start settings o.versions q).2 := by
    simp only [start, Versions.version_next, hq, h.version_eq]
  constructor
  · rw [calls_request, calls_request, callsFor_append, h.calls, hstarted]
    simp [callsFor, started_opened, start, hq]
  · rw [hversions, hversions, Versions.get?_next, Versions.get?_next, hq, if_pos rfl, if_pos rfl,
      h.version_eq]

theorem Alone.other {widget : String} {o alone : Office} (h : Alone widget o alone)
    (q : Request) (hq : q.widget ≠ widget) :
    Alone widget (handle settings o (.request q)) alone := by
  have hversions : (handle settings o (.request q)).versions = o.versions.next q.widget := rfl
  constructor
  · rw [calls_request, callsFor_append, h.calls]
    simp [callsFor, started_opened, start, hq]
  · rw [hversions, Versions.get?_next, if_neg hq, h.version]

theorem Alone.answer (settings : Settings) {widget : String} {o alone : Office}
    (h : Alone widget o alone) (call : Nat) (rows : Except Fault (List Record)) :
    Alone widget (handle settings o (.answer call rows))
      (if o.widgets[call]? = some widget then
        handle settings alone (.answer ((o.widgets.take call).count widget) rows)
      else alone) := by
  -- both offices judge the calls of the widget by the same version
  have hsame : ∀ c ∈ callsFor widget o.calls,
      answered o.versions rows c = answered alone.versions rows c := by
    intro c hc
    have hwidget : c.started.widget = widget := by simpa using (List.mem_filter.mp hc).2
    simp only [answered, finish, Versions.isCurrent, hwidget, h.version]
  constructor
  · rw [calls_answer, callsFor_modify widget (started_answered o.versions rows)]
    change _ = if o.widgets[call]? = some widget then _ else _
    split
    · rw [calls_answer, h.calls]
      refine List.ext_getElem? fun j => ?_
      rw [List.getElem?_modify, List.getElem?_modify]
      cases hj : (callsFor widget o.calls)[j]? with
      | none => rfl
      | some c =>
        rw [Option.map_eq_map, Option.map_some, Option.map_eq_map, Option.map_some,
          hsame c (List.mem_of_getElem? hj)]
        rfl
    · exact h.calls
  · split
    · exact h.version
    · exact h.version

theorem widgets_request (settings : Settings) (o : Office) (q : Request) :
    (handle settings o (.request q)).widgets = o.widgets ++ [q.widget] := by
  simp [widgets, calls_request, started_opened, start]

theorem widgets_answer (o : Office) (call : Nat) (rows : Except Fault (List Record)) :
    (handle settings o (.answer call rows)).widgets = o.widgets := by
  have hbegun := congrArg (List.map (·.widget)) (begun_answer settings o call rows)
  simpa [begun, widgets, Function.comp_def] using hbegun

/-- The calls of a widget fare as they would without all others. -/
theorem alone_run {widget : String} {o alone : Office} (h : Alone widget o alone)
    (events : List Event) :
    Alone widget (run settings o events)
      (run settings alone (eventsFor widget o.widgets events)) := by
  induction events generalizing o alone with
  | nil => exact h
  | cons e events ih =>
    cases e with
    | request q =>
      simp only [eventsFor]
      rw [← widgets_request settings]
      split
      · rename_i hq
        exact ih (h.request q hq)
      · rename_i hq
        exact ih (h.other q hq)
    | answer call rows =>
      have hnext := ih (h.answer settings call rows)
      rw [widgets_answer] at hnext
      simp only [eventsFor]
      split
      · rename_i hcall
        rw [if_pos hcall] at hnext
        exact hnext
      · rename_i hcall
        rw [if_neg hcall] at hnext
        exact hnext

/-! ## Runs -/

/-- Key figures come of the latest requests alone.  In every run of requests and answers:

* a key figure comes of the rows for a call that no later one for its widget had superseded when
  they came in;
* a call that was superseded when its answer came in comes to nothing, any other to the key figure
  in its rows;
* of two calls for one widget that come to key figures, the earlier was answered first;
* the calls for a widget fare as in the run without all other widgets. -/
theorem run_delivers_latest (settings : Settings) (events : List Event) :
    (∀ k c figure, (run settings {} events).calls[k]? = some c →
      c.outcome = some (.ok (some figure)) →
      ∃ before rows, Answered settings events before k (.ok rows) ∧
        ¬ (run settings {} before).Superseded k ∧
        keyFigureOf c.started.base rows = .ok (some figure)) ∧
    (∀ k c before answer, (run settings {} events).calls[k]? = some c →
      Answered settings events before k answer →
      ((run settings {} before).Superseded k → c.outcome = some (dropped answer)) ∧
      (¬ (run settings {} before).Superseded k → ∀ rows, answer = .ok rows →
        c.outcome = some (keyFigureOf c.started.base rows))) ∧
    (∀ j k c d figure figure' before before' answer answer',
      (run settings {} events).calls[j]? = some c → (run settings {} events).calls[k]? = some d →
      j < k → c.started.widget = d.started.widget →
      c.outcome = some (.ok (some figure)) → d.outcome = some (.ok (some figure')) →
      Answered settings events before j answer → Answered settings events before' k answer' →
      before.length < before'.length) ∧
    (∀ widget, callsFor widget (run settings {} events).calls =
      (run settings {} (eventsFor widget [] events)).calls) := by
  refine ⟨fun k c figure => exists_answer_of_figure, fun k c before answer hc h => h.outcome hc,
    ?_, fun widget => ((alone_run ⟨rfl, rfl⟩ events).calls).symm⟩
  intro j k c d figure figure' before before' answer answer' hc hd hjk hwidget hfigure _ hj hk
  by_contra hlength
  have hle : before' <+: before := by
    obtain ⟨after, s, hevents, -⟩ := hj
    obtain ⟨after', s', hevents', -⟩ := hk
    exact List.prefix_of_prefix_length_le ⟨_, hevents'.symm⟩ ⟨_, hevents.symm⟩ (by omega)
  have hsuperseded := superseded_of_le hle hjk (getElem?_begun (hj.waits hc).1) (hk.waits hd).1
    hwidget.symm
  have hdropped := ((hj.outcome hc).1 hsuperseded).symm.trans hfigure
  cases answer with
  | ok rows => simp [dropped] at hdropped
  | error fault =>
    simp only [dropped, Option.some.injEq] at hdropped
    split at hdropped <;> cases hdropped

/-- The amounts of the orders from Rome, for a widget. -/
def amountsFromRome (widget : String) : Request where
  widget := widget
  source :=
    { tableName := "orders"
      xAxis := none
      yAxis := some (.one "amount")
      chartType := "kpi"
      options := Widget.Options.none }
  filters := .ok [⟨"orders", "city", [.text "Rome"]⟩]
  edges := []
  schemas := []
  base := .null

/-- Two requests for one widget and one for another; the older one is answered first. -/
def overtaken : List Event :=
  [.request (amountsFromRome "left"), .request (amountsFromRome "right"),
    .request (amountsFromRome "left"), .answer 0 (.ok [[("current_value", .int 1)]]),
    .answer 2 (.ok [[("current_value", .int 2)]]), .answer 1 (.ok [[("current_value", .int 3)]])]

theorem run_delivers_latest_overtaken :
    ((run {} {} overtaken).calls.map fun c => c.outcome.bind fun x => x.toOption.map (·.isSome)) =
        [some false, some true, some true] ∧
      ∃ before rows, Answered {} overtaken before 2 (.ok rows) ∧
        ¬ (run {} {} before).Superseded 2 := by
  refine ⟨by decide +kernel, ?_⟩
  have hfigure : ((run {} {} overtaken).calls[2]?.bind fun c =>
      c.outcome.bind fun x => x.toOption.join).isSome = true := by
    decide +kernel
  obtain ⟨figure, hfigure⟩ := Option.isSome_iff_exists.mp hfigure
  obtain ⟨c, hc, hfigure⟩ := Option.bind_eq_some_iff.mp hfigure
  obtain ⟨x, hx, hfigure⟩ := Option.bind_eq_some_iff.mp hfigure
  cases x with
  | error fault => cases hfigure
  | ok y =>
    obtain rfl : y = some figure := hfigure
    obtain ⟨before, rows, hanswered, hlatest, -⟩ :=
      (run_delivers_latest {} overtaken).1 2 c figure hc hx
    exact ⟨before, rows, hanswered, hlatest⟩

end Office

end ChartBoard.Kpi
