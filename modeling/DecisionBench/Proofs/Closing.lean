import DecisionBench.Proofs.Stages

/-!
# How commands end

A command works on its session, closes it, and only then writes its report.  The
session is closed once, wherever the work stopped, and the fault of the work goes
before a fault of closing (`session_closes_once`).  The work itself runs through
its stages in turn, and a stage that fails ends the command (`stages_in_turn`).
-/

namespace DecisionBench

/-! ### The report -/

/-- The request that delivers a report, with its reply, and the outcome of
writing the report. -/
inductive Report.Delivers (results : List QueryResult) :
    Option String → Event → Except Fault Unit → Prop where
  | filed (path : String) (reply : Except String Unit) :
      Delivers results (some path) ⟨.writeFile path (render results), reply⟩
        (reply.mapError (unwritten path))
  | printed (reply : Except String Unit) :
      Delivers results none ⟨.print (render results), reply⟩
        (reply.mapError unprinted)

/-- The report is delivered by one request, and the outcome is that of the
delivery.  Nothing else is asked of the world. -/
def Report.Delivered (output : Option String) (results : List QueryResult)
    (events : List Event) (outcome : Except Fault Unit) : Prop :=
  ∃ before event after, events = before ++ event :: after ∧
    Delivers results output event outcome ∧
    requests before = [] ∧ requests after = []

theorem Report.runs_write {results : List QueryResult} {output : Option String}
    {events : List Event} {outcome : Except Fault Unit}
    (run : (write results output).outcome.Runs events outcome) :
    ∃ event, events = [event] ∧ Delivers results output event outcome := by
  cases output with
  | some path =>
      obtain ⟨reply, written, rfl⟩ := Procedure.runs_orFault_iff.mp run
      exact ⟨_, Program.runs_request_iff.mp written, .filed path reply⟩
  | none =>
      obtain ⟨reply, printed, rfl⟩ := Procedure.runs_orFault_iff.mp run
      exact ⟨_, Program.runs_request_iff.mp printed, .printed reply⟩

namespace Command

theorem delivered_of_runs {results : List QueryResult} {output : Option String}
    {events : List Event} {outcome : Except Fault Unit}
    (run : (finishReport results output).outcome.Runs events outcome) :
    Report.Delivered output results events outcome := by
  obtain ⟨telling, _, rest, rfl, tellRun, restRun⟩ := Procedure.runs_lift_bind_iff.mp run
  have told := Program.Asks.tell _ _ _ telling _ tellRun
  rcases Procedure.runs_bind_iff.mp restRun with
    ⟨fault, writeRun, rfl⟩ | ⟨writing, _, ending, rfl, writeRun, endRun⟩
  · obtain ⟨event, rfl, delivers⟩ := Report.runs_write writeRun
    exact ⟨telling, event, [], rfl, delivers, told, rfl⟩
  · obtain ⟨event, rfl, delivers⟩ := Report.runs_write writeRun
    have ended : requests ending = [] ∧ outcome = .ok () := by
      cases output with
      | some path =>
          obtain ⟨_, rfl, lastRun⟩ := Procedure.runs_lift_iff.mp endRun
          exact ⟨Program.Asks.tell _ _ _ ending _ lastRun, rfl⟩
      | none =>
          obtain ⟨rfl, rfl⟩ := Procedure.runs_pure_iff.mp endRun
          exact ⟨rfl, rfl⟩
    obtain ⟨quiet, rfl⟩ := ended
    exact ⟨telling, event, ending, rfl, delivers, told, quiet⟩

end Command

/-! ### Closing the session -/

/-- Whether a request is made of the session. -/
def Effect.isOfSession : Effect → Bool
  | .connect _ | .execute _ | .countRows _ | .closeSession => true
  | _ => false

theorem Effect.isOutward_of_isOfSession (effect : Effect)
    (ofSession : effect.isOfSession = true) : effect.isOutward = true := by
  cases effect with
  | clock | pause _ | readStatus _ _ | note _ => cases ofSession
  | _ => rfl

theorem isOfSession_of_requests_eq_nil {events : List Event} (quiet : requests events = []) :
    ∀ event ∈ events, event.effect.isOfSession = false := by
  have keeps : (requests events).Sublist [] := by rw [quiet]
  exact eq_false_of_sublist Effect.isOutward_of_isOfSession keeps (by simp)

theorem Report.Delivered.isOfSession_of_mem {output : Option String}
    {results : List QueryResult} {events : List Event} {outcome : Except Fault Unit}
    (delivered : Delivered output results events outcome) :
    ∀ event ∈ events, event.effect.isOfSession = false := by
  obtain ⟨before, delivery, after, rfl, delivers, quietBefore, quietAfter⟩ := delivered
  intro event member
  rcases List.mem_append.mp member with first | later
  · exact isOfSession_of_requests_eq_nil quietBefore event first
  · rcases List.mem_cons.mp later with rfl | last
    · cases delivers with
      | filed => rfl
      | printed => rfl
    · exact isOfSession_of_requests_eq_nil quietAfter event last

namespace Command

variable {α : Type}

/-- How a command ends whose work and whose closing had these outcomes, with the
events behind the closing.  The fault of the work goes before a fault of closing;
without a fault the command concludes in its own way. -/
inductive Ends {β : Type} (concludes : α → List Event → Except Fault β → Prop) :
    Except Fault α → Except Fault Unit → List Event → Except Fault β → Prop where
  | stopped {fault : Fault} {closed : Except Fault Unit} {after : List Event} :
      requests after = [] →
      Ends concludes (.error fault) closed after (.error fault)
  | unclosed {value : α} {fault : Fault} :
      Ends concludes (.ok value) (.error fault) [] (.error fault)
  | concluded {value : α} {after : List Event} {outcome : Except Fault β} :
      concludes value after outcome →
      Ends concludes (.ok value) (.ok ()) after outcome

namespace Ends

variable {β : Type} {concludes further : α → List Event → Except Fault β → Prop}
  {worked : Except Fault α} {closed : Except Fault Unit} {after : List Event}
  {ended : Except Fault β}

theorem imp (ends : Ends concludes worked closed after ended)
    (implied : ∀ value after ended, concludes value after ended →
      further value after ended) :
    Ends further worked closed after ended := by
  cases ends with
  | stopped quiet => exact .stopped quiet
  | unclosed => exact .unclosed
  | concluded concludes => exact .concluded (implied _ _ _ concludes)

theorem isOfSession_of_mem (ends : Ends concludes worked closed after ended)
    (spared : ∀ value after ended, concludes value after ended →
      ∀ event ∈ after, event.effect.isOfSession = false) :
    ∀ event ∈ after, event.effect.isOfSession = false := by
  cases ends with
  | stopped quiet => exact isOfSession_of_requests_eq_nil quiet
  | unclosed => simp
  | concluded concludes => exact spared _ _ _ concludes

end Ends

/-- What is left to do when the session was closed with this reply. -/
def settle (outcome : Except Fault α) (closed : Except Fault Unit) :
    Program (Except Fault α) :=
  match outcome, closed with
  | .ok value, .ok _ => pure (.ok value)
  | .ok _, .error fault => pure (.error fault)
  | .error fault, .ok _ => pure (.error fault)
  | .error fault, .error closing => do
      Journal.tell .warning .session
        ("Failed to close connection after error: " ++ closing.display)
      pure (.error fault)

theorem ends_of_settle {β : Type} {next : α → Procedure β} {outcome : Except Fault α}
    {closed : Except Fault Unit} {after : List Event} {ended : Except Fault β}
    (run : (settle outcome closed >>= ExceptT.bindCont next).Runs after ended) :
    Ends (fun value => (next value).outcome.Runs) outcome closed after ended := by
  cases outcome with
  | ok value =>
      cases closed with
      | ok _ => exact .concluded run
      | error unclosed =>
          obtain ⟨rfl, rfl⟩ := Program.runs_done_iff.mp run
          exact .unclosed
  | error fault =>
      cases closed with
      | ok _ =>
          obtain ⟨rfl, rfl⟩ := Program.runs_done_iff.mp run
          exact .stopped rfl
      | error unclosed =>
          obtain ⟨_, warned, rfl, warnedRun⟩ := Program.runs_ask_iff.mp run
          obtain ⟨rfl, rfl⟩ := Program.runs_done_iff.mp warnedRun
          exact .stopped rfl

theorem play_onSession_bind {σ β : Type} (environment : Environment σ) (state : σ)
    (work : Procedure α) (next : α → Procedure β) :
    let worked := work.outcome.play environment state
    let closing := environment.answer .closeSession worked.state
    let played := (onSession work >>= next).outcome.play environment state
    ∃ after, played.events = worked.events ++ ⟨.closeSession, closing.1⟩ :: after ∧
      Ends (fun value => (next value).outcome.Runs) worked.value closing.1 after
        played.value := by
  intro worked closing played
  have played_eq : played =
      let settled := (settle worked.value closing.1 >>= ExceptT.bindCont next).play
        environment closing.2
      ⟨settled.value, worked.events ++ ⟨.closeSession, closing.1⟩ :: settled.events,
        settled.state⟩ := by
    have sequence : (onSession work >>= next).outcome =
        work.outcome.bind fun outcome =>
          (Lease.held.finish outcome).bind (ExceptT.bindCont next) :=
      Program.bind_assoc work.outcome _ _
    change (onSession work >>= next).outcome.play environment state = _
    -- Finishing is closing, and then settling with the reply.
    rw [sequence, Program.play_bind]
    rfl
  rw [played_eq]
  exact ⟨_, rfl, ends_of_settle (Program.runs_play environment _ closing.2)⟩

/-- In this environment the command does its work and then closes the session,
once and for all, and ends so. -/
def ClosesBehind {σ : Type} (environment : Environment σ) (state : σ)
    (command : Procedure Unit) (work : Procedure α)
    (concludes : α → List Event → Except Fault Unit → Prop) : Prop :=
  let worked := work.outcome.play environment state
  let closing := environment.answer .closeSession worked.state
  let played := command.outcome.play environment state
  ∃ after, played.events = worked.events ++ ⟨.closeSession, closing.1⟩ :: after ∧
    (∀ event ∈ worked.events, event.effect ≠ .closeSession) ∧
    (∀ event ∈ after, event.effect.isOfSession = false) ∧
    Ends concludes worked.value closing.1 after played.value

/-- A command without a report has nothing more to do. -/
def Finished (_ : Unit) (after : List Event) (ended : Except Fault Unit) : Prop :=
  after = [] ∧ ended = .ok ()

section

variable {σ : Type} (environment : Environment σ) (state : σ) {task : Task}
  {stages : List Stage}

theorem closesBehind_bind {work : Procedure α} {result : Handed → α}
    (performs : Performs task stages .nothing work result)
    {next : α → Procedure Unit} {concludes : α → List Event → Except Fault Unit → Prop}
    (concluding : ∀ value after ended, (next value).outcome.Runs after ended →
      concludes value after ended ∧ ∀ event ∈ after, event.effect.isOfSession = false) :
    ClosesBehind environment state (onSession work >>= next) work concludes := by
  obtain ⟨after, events_eq, ends⟩ := play_onSession_bind environment state work next
  have once : ∀ event ∈ (work.outcome.play environment state).events,
      event.effect ≠ .closeSession := by
    obtain ⟨_, inTurn, -⟩ :=
      performs _ _ (Program.runs_play environment work.outcome state)
    intro event member same
    have conclusion := inTurn.isConclusion_of_mem event member
    rw [same] at conclusion
    cases conclusion
  exact ⟨after, events_eq, once,
    ends.isOfSession_of_mem fun value after ended run => (concluding value after ended run).2,
    ends.imp fun value after ended run => (concluding value after ended run).1⟩

theorem closesBehind_onSession {work : Procedure Unit} {result : Handed → Unit}
    (performs : Performs task stages .nothing work result) :
    ClosesBehind environment state (onSession work) work Finished := by
  have concluding : ∀ value after ended,
      (pure value : Procedure Unit).outcome.Runs after ended →
        Finished value after ended ∧ ∀ event ∈ after, event.effect.isOfSession = false := by
    intro value after ended run
    obtain ⟨rfl, rfl⟩ := Procedure.runs_pure_iff.mp run
    exact ⟨⟨rfl, rfl⟩, by simp⟩
  rw [← bind_pure (onSession work)]
  exact closesBehind_bind environment state performs concluding

theorem closesBehind_report {work : Procedure (List QueryResult)}
    {result : Handed → List QueryResult}
    (performs : Performs task stages .nothing work result) (output : Option String) :
    ClosesBehind environment state
      (onSession work >>= fun results => finishReport results output) work
      (Report.Delivered output) := by
  refine closesBehind_bind environment state performs fun results after ended run => ?_
  have delivered := delivered_of_runs run
  exact ⟨delivered, delivered.isOfSession_of_mem⟩

variable (task)

theorem closesBehind_setup :
    ClosesBehind environment state (all task.request task.load)
      (setup task.request task.load) Finished :=
  closesBehind_onSession environment state (performs_setup task .nothing)

theorem closesBehind_run :
    ClosesBehind environment state (run task.catalog task.options)
      (runQueries task.catalog task.options) (Report.Delivered task.options.output) :=
  closesBehind_report environment state (performs_runQueries task .nothing) _

theorem closesBehind_bench :
    ClosesBehind environment state
      (bench task.catalog task.request task.load task.options)
      (benchWork task.catalog task.request task.load task.options)
      (Report.Delivered task.options.output) :=
  closesBehind_report environment state (performs_benchWork task .nothing) _

end

/-- Every command closes its session once, behind the last statement, wherever
its work stopped.  If the work failed its fault is returned, even if closing
fails too; if only closing failed, that fault is returned; and otherwise the
command succeeds or, if it reports, ends as the delivery of its report does. -/
theorem session_closes_once {σ : Type} (environment : Environment σ) (state : σ)
    (task : Task) :
    ClosesBehind environment state schema Schema.create Finished ∧
      ClosesBehind environment state (load task.load) (Load.run task.load) Finished ∧
      ClosesBehind environment state (all task.request task.load)
        (setup task.request task.load) Finished ∧
      ClosesBehind environment state (run task.catalog task.options)
        (runQueries task.catalog task.options) (Report.Delivered task.options.output) ∧
      ClosesBehind environment state
        (bench task.catalog task.request task.load task.options)
        (benchWork task.catalog task.request task.load task.options)
        (Report.Delivered task.options.output) := by
  have created := closesBehind_onSession environment state (performs_create task .nothing)
  have loaded := closesBehind_onSession environment state (performs_load task .nothing)
  exact ⟨created, loaded, closesBehind_setup environment state task,
    closesBehind_run environment state task, closesBehind_bench environment state task⟩

/-! ### The stages of a command -/

/-- In this environment the command goes through the stages in turn, then closes
the session, and ends with the fault of the stage that failed.  It concludes with
what the stages handed on, and only if all of them passed. -/
def GoesInTurn {σ : Type} (environment : Environment σ) (state : σ) (task : Task)
    (stages : List Stage) (command : Procedure Unit) (result : Handed → α)
    (concludes : α → List Event → Except Fault Unit → Prop) : Prop :=
  let played := command.outcome.play environment state
  ∃ working ended closed after,
    played.events = working ++ ⟨.closeSession, closed⟩ :: after ∧
    InTurn task stages .nothing working ended ∧
    (∀ event ∈ working, event.effect.isConclusion = false) ∧
    Ends concludes (ended.map result) closed after played.value

theorem goesInTurn_of_closesBehind {σ : Type} {environment : Environment σ} {state : σ}
    {task : Task} {stages : List Stage} {command : Procedure Unit} {work : Procedure α}
    {result : Handed → α} {concludes : α → List Event → Except Fault Unit → Prop}
    (closes : ClosesBehind environment state command work concludes)
    (performs : Performs task stages .nothing work result) :
    GoesInTurn environment state task stages command result concludes := by
  obtain ⟨after, events_eq, -, -, ends⟩ := closes
  obtain ⟨ended, inTurn, worked⟩ :=
    performs _ _ (Program.runs_play environment work.outcome state)
  rw [worked] at ends
  exact ⟨_, ended, _, after, events_eq, inTurn, inTurn.isConclusion_of_mem, ends⟩

/-- The timed queries fail as a stage only if an id is unknown.  A query that
fails has its result like the others. -/
theorem results_of_ran_timing {task : Task} {handed : Handed} {events : List Event}
    {ended : Except Fault Handed} (ran : Stage.timing.Ran task handed events ended) :
    ((∃ id ∈ task.options.ids, task.catalog.get? id = none) ∧ events = [] ∧
        ended = .error (task.catalog.refusal task.options.ids)) ∨
      ∃ results, ended = .ok { handed with results } ∧
        List.Forall₂ (fun id result => ∃ query, task.catalog.get? id = some query ∧
          ∃ sent, Batch.QueryRun task.options.timeout query sent result)
          task.options.ids results := by
  cases ran with
  | timing run =>
      rcases Catalog.unknown_or_known task.catalog task.options.ids with
        unknown | ⟨queries, known⟩
      · obtain ⟨rfl, rfl⟩ := Batch.runs_of_unknown unknown run
        exact .inl ⟨unknown, rfl, rfl⟩
      · obtain ⟨runs, -, rfl, related⟩ := Batch.queryRuns_of_known known run
        refine .inr ⟨_, rfl, Catalog.forall₂_of_known known ?_⟩
        exact List.forall₂_map_right_iff.mpr
          (related.imp fun query run queryRun => ⟨run.1, queryRun⟩)

/-- The stages of a benchmark, and of the setup alone, follow each other, and no
stage begins unless every earlier one passed.  Only a fault of a stage ends the
command early, and then no report is written; a query that failed is no fault of
the timed queries. -/
theorem stages_in_turn {σ : Type} (environment : Environment σ) (state : σ)
    (task : Task) :
    GoesInTurn environment state task Stage.setup (all task.request task.load)
        (fun _ => ()) Finished ∧
      GoesInTurn environment state task Stage.all
        (bench task.catalog task.request task.load task.options) Handed.results
        (Report.Delivered task.options.output) ∧
      ∀ handed events ended, Stage.timing.Ran task handed events ended →
        ((∃ id ∈ task.options.ids, task.catalog.get? id = none) ∧ events = [] ∧
            ended = .error (task.catalog.refusal task.options.ids)) ∨
          ∃ results, ended = .ok { handed with results } ∧
            List.Forall₂ (fun id result => ∃ query, task.catalog.get? id = some query ∧
              ∃ sent, Batch.QueryRun task.options.timeout query sent result)
              task.options.ids results := by
  refine ⟨?_, ?_, ?_⟩
  · exact goesInTurn_of_closesBehind (closesBehind_setup environment state task)
      (performs_setup task .nothing)
  · exact goesInTurn_of_closesBehind (closesBehind_bench environment state task)
      (performs_benchWork task .nothing)
  · intro handed events ended ran
    exact results_of_ran_timing ran

end Command

end DecisionBench
