import DecisionBench.Proofs.Conversation
import DecisionBench.Proofs.Forecast
import DecisionBench.Proofs.Route

/-!
# Watching a process changes nothing

Queries are run twice against the same session, once with one process watched and
once with another, or none.  Whatever is read from the processes, and when, the
session sees the same calls in both runs and the results differ in seconds and
memory figures alone (`monitoring_changes_nothing`).  The memory figures of a query
come from the readings that were taken while it ran (`Memory.Accounts`).
-/

namespace DecisionBench

/-- What a result says of the query itself: not how long it took, nor what it used. -/
def QueryResult.verdict (result : QueryResult) : Nat × String × Ended :=
  (result.id, result.title, result.ended)

/-! ### What is said to the session -/

open Program

theorem Session.talk_limit (timeout : Timeout) : (limit timeout).KeepsTo Effect.isTalk := by
  cases timeout with
  | disabled => exact .pure false
  | after millis =>
      refine (KeepsTo.request rfl).bind fun answer => ?_
      cases answer with
      | ok count => exact .pure true
      | error fault => exact (KeepsTo.request rfl).bind fun _ => .pure false

namespace Precheck

theorem talk_dropTables (tables : List Table) : (dropTables tables).KeepsTo Effect.isTalk := by
  induction tables with
  | nil => exact .pure ()
  | cons table tables induction =>
      exact (Procedure.KeepsTo.rewording (.request rfl) _).bind fun _ => induction

theorem talk_dropAll : dropAll.KeepsTo Effect.isTalk :=
  talk_dropTables Table.all

theorem talk_defineAll (definitions : List String) :
    (defineAll definitions).KeepsTo Effect.isTalk := by
  induction definitions with
  | nil => exact .pure ()
  | cons definition definitions induction =>
      exact (Procedure.KeepsTo.rewording (.request rfl) _).bind fun _ => induction

theorem talk_send (statement : String) : (send statement).KeepsTo Effect.isTalk := by
  unfold send
  split
  · exact .request rfl
  · exact .request rfl

theorem talk_tryStatements (query : Query) (timeout : Timeout) (index : Nat)
    (statements : List String) :
    (tryStatements query timeout index statements).KeepsTo Effect.isTalk := by
  induction statements generalizing index with
  | nil => exact .pure ()
  | cons statement statements induction =>
      refine (Procedure.KeepsTo.lift (Session.talk_limit timeout)).bind fun _ => ?_
      exact (Procedure.KeepsTo.rewording (talk_send _) _).bind
        fun _ => induction (index + 1)

theorem talk_tryQueries (timeout : Timeout) (queries : List Query) :
    (tryQueries timeout queries).KeepsTo Effect.isTalk := by
  induction queries with
  | nil => exact .pure ()
  | cons query queries induction =>
      unfold tryQueries
      split
      · exact (Procedure.KeepsTo.lift (.request rfl)).bind fun _ => induction
      · exact (talk_tryStatements query timeout 0 query.statements).bind
          fun _ => induction

theorem talk_tryAndDrop (timeout : Timeout) (queries : List Query) :
    (tryAndDrop timeout queries).KeepsTo Effect.isTalk := by
  refine KeepsTo.bind (talk_tryQueries timeout queries) fun tried => ?_
  cases tried with
  | error fault =>
      refine KeepsTo.bind talk_dropAll fun dropped => ?_
      cases dropped with
      | ok _ => exact .pure _
      | error dropping => exact (KeepsTo.request rfl).bind fun _ => .pure _
  | ok _ =>
      refine KeepsTo.bind talk_dropAll fun dropped => ?_
      cases dropped with
      | ok _ => exact (KeepsTo.request rfl).bind fun _ => .pure _
      | error dropping => exact .pure _

theorem talk_install : install.KeepsTo Effect.isTalk :=
  Procedure.KeepsTo.bind talk_dropAll fun _ => talk_defineAll definitions

theorem talk_run (catalog : Catalog) (ids : List Nat) (timeout : Timeout) :
    (run catalog ids timeout).KeepsTo Effect.isTalk := by
  refine (Procedure.KeepsTo.ofOutcome _).bind fun queries => ?_
  refine KeepsTo.bind talk_install fun installed => ?_
  cases installed with
  | ok _ => exact talk_tryAndDrop timeout queries
  | error fault =>
      dsimp only
      split
      · exact (KeepsTo.request rfl).bind fun _ => .pure _
      · exact .pure _

end Precheck

namespace Batch

theorem talk_countFrom (timeout : Timeout) (total : Nat) (statements : List String) :
    (countFrom timeout total statements).KeepsTo Effect.isTalk := by
  induction statements generalizing total with
  | nil => exact .pure total
  | cons statement statements induction =>
      rw [countFrom_cons]
      split
      · exact Procedure.KeepsTo.bind (.request rfl) fun count => induction (total + count)
      · exact Procedure.KeepsTo.bind (.request rfl) fun _ => induction total

/-! ### Two runs -/

variable {options others : Options}

theorem agree_runQuery (timeouts : options.timeout = others.timeout) (query : Query) :
    (runQuery options query).Agree (runQuery others query)
      fun result other => result.verdict = other.verdict := by
  unfold runQuery
  rw [← timeouts]
  -- Only the limit and the statements are sent.  Whatever the clock and the status
  -- file say in between, both runs go on alike.
  refine (Session.talk_limit options.timeout).agree.bind fun _ _ _ => ?_
  refine (Agree.of_silent (asks_startWatch _ _).silent
    (asks_startWatch _ _).silent).bind fun _ _ _ => ?_
  refine (Agree.of_silent asks_now.silent asks_now.silent).bind fun _ _ _ => ?_
  refine (talk_countFrom options.timeout 0 query.statements).agree.bind
    fun outcome otherOutcome sameOutcome => ?_
  refine (Agree.of_silent asks_now.silent asks_now.silent).bind fun _ _ _ => ?_
  refine (Agree.of_silent (asks_stopWatch _ _ _).silent
    (asks_stopWatch _ _ _).silent).bind fun _ _ _ => ?_
  subst sameOutcome
  exact .pure rfl

theorem agree_runQueries (timeouts : options.timeout = others.timeout)
    (queries : List Query) :
    (runQueries options queries).Agree (runQueries others queries)
      fun results otherResults =>
        results.map QueryResult.verdict = otherResults.map QueryResult.verdict := by
  induction queries with
  | nil => exact .pure rfl
  | cons query queries induction =>
      refine (agree_runQuery timeouts query).bind fun result other verdicts => ?_
      refine (Agree.of_silent (asks_tellResult result).silent
        (asks_tellResult other).silent).bind fun _ _ _ => ?_
      refine induction.bind fun results otherResults later => ?_
      exact .pure (by simp only [List.map_cons, verdicts, later])

/-- Outcomes of batches that differ in seconds and memory figures alone. -/
def SameVerdicts (outcome other : Except Fault (List QueryResult)) : Prop :=
  outcome.map (List.map QueryResult.verdict) = other.map (List.map QueryResult.verdict)

theorem agree_run (timeouts : options.timeout = others.timeout) (catalog : Catalog)
    (ids : List Nat) :
    (run catalog options ids).outcome.Agree (run catalog others ids).outcome
      SameVerdicts := by
  unfold run
  rw [timeouts]
  refine Procedure.agree_bind (.ofOutcome _) (fun _ => rfl) fun queries => ?_
  refine Procedure.agree_bind (.lift (.request rfl)) (fun _ => rfl) fun _ => ?_
  refine (agree_runQueries timeouts queries).bind fun results otherResults verdicts => ?_
  exact .pure (congrArg Except.ok verdicts)

end Batch

/-! ### What was read -/

namespace Memory

/-- What the readings of status files came to, in their order. -/
def readings (events : List Event) : List (Nat × Except String Nat) :=
  events.filterMap fun event =>
    match event with
    | ⟨.readStatus pid _, reply⟩ => some (pid, reading reply)
    | _ => none

@[simp] theorem readings_append (first later : List Event) :
    readings (first ++ later) = readings first ++ readings later :=
  List.filterMap_append

/-- The figures of a query go with the readings that were taken while it ran: none
without a process to watch; nothing but the error if the first reading failed; and
otherwise figures that begin with it. -/
inductive Accounts :
    Option Nat → List (Nat × Except String Nat) → Option Figures → Prop where
  | unwatched : Accounts none [] none
  | unreadable (pid : Nat) (text : String) :
      Accounts (some pid) [(pid, .error text)]
        (some ⟨pid, 0, 0, 0, 0, some ("read /proc/" ++ toString pid ++ "/status: " ++ text)⟩)
  | readable (pid kib : Nat) (later : List (Nat × Except String Nat))
      (figures : Figures) :
      figures.pid = pid → figures.first = kib → 0 < figures.samples →
      Accounts (some pid) ((pid, .ok kib) :: later) (some figures)

theorem readings_of_talk {α : Type} {program : Program α}
    (keeps : program.KeepsTo Effect.isTalk) {events : List Event} {value : α}
    (run : program.Runs events value) : readings events = [] := by
  refine List.filterMap_eq_nil_iff.mpr fun event member => ?_
  have talk := keeps.of_mem run event member
  obtain ⟨effect, reply⟩ := event
  cases effect with
  | readStatus pid time => cases talk
  | _ => rfl

theorem runs_read {pid : Nat} {time : Option Nat} {events : List Event}
    {answer : Except String Nat} (run : (read pid time).Runs events answer) :
    readings events = [(pid, answer)] := by
  obtain ⟨reply, requestRun, rfl⟩ :=
    (runs_bind_done_iff fun _ => rfl).mp run
  rw [runs_request_iff.mp requestRun]
  rfl

theorem Figures.kept_of_sample {figures last : Figures} {times : List Nat}
    {events : List Event} (run : (sample figures times).Runs events last) :
    last.pid = figures.pid ∧ last.first = figures.first ∧
      figures.samples ≤ last.samples := by
  induction times generalizing figures events with
  | nil =>
      obtain ⟨-, rfl⟩ := runs_pure_iff.mp run
      exact ⟨rfl, rfl, Nat.le_refl _⟩
  | cons time times induction =>
      obtain ⟨_, answer, later, -, -, laterRun⟩ := runs_bind_iff.mp run
      cases answer with
      | ok kib =>
          obtain ⟨pid, first, samples⟩ := induction laterRun
          exact ⟨pid, first, Nat.le_of_succ_le samples⟩
      | error text =>
          obtain ⟨-, rfl⟩ := runs_pure_iff.mp laterRun
          exact ⟨rfl, rfl, Nat.le_refl _⟩

end Memory

namespace Batch

open Memory

theorem readings_of_now {events : List Event} {time : Nat}
    (run : Program.now.Runs events time) : readings events = [] := by
  rw [runs_request_iff.mp run]
  rfl

theorem talk_tellResult (result : QueryResult) : (tellResult result).KeepsTo Effect.isTalk := by
  unfold tellResult
  split
  · exact .request rfl
  · exact .request rfl

/-- The figures that a watch ends with go with its readings, from the first on. -/
theorem accounts_of_watch {id start stop : Nat} {watched : Option Nat}
    {watch : Option Watch} {memory : Option Figures} {starting stopping : List Event}
    (startRun : (startWatch id watched).Runs starting watch)
    (stopRun : (stopWatch start stop watch).Runs stopping memory) :
    Accounts watched (readings starting ++ readings stopping) memory := by
  cases watched with
  | none =>
      obtain ⟨rfl, rfl⟩ := runs_pure_iff.mp startRun
      obtain ⟨rfl, rfl⟩ := runs_pure_iff.mp stopRun
      exact .unwatched
  | some pid =>
      obtain ⟨opening, opened, telling, rfl, openRun, tellRun⟩ :=
        runs_bind_iff.mp startRun
      obtain ⟨first, answer, ending, rfl, readRun, endRun⟩ := runs_bind_iff.mp openRun
      cases answer with
      | ok kib =>
          -- The watch has begun, and ends with the last of its samples.
          obtain ⟨rfl, rfl⟩ := runs_pure_iff.mp endRun
          obtain ⟨rfl, rfl⟩ := runs_pure_iff.mp tellRun
          obtain ⟨last, sampleRun, rfl⟩ :=
            (runs_bind_done_iff fun _ => rfl).mp stopRun
          obtain ⟨samePid, sameFirst, samples⟩ := Figures.kept_of_sample sampleRun
          have read := runs_read readRun
          simp only [readings_append, read]
          exact .readable pid kib _ last samePid sameFirst samples
      | error text =>
          -- There is nothing to watch; the failure is noted and no more is read.
          obtain ⟨rfl, rfl⟩ := runs_pure_iff.mp endRun
          obtain ⟨noted, _, rest, rfl, noteRun, restRun⟩ := runs_bind_iff.mp tellRun
          obtain ⟨rfl, rfl⟩ := runs_pure_iff.mp restRun
          obtain ⟨rfl, rfl⟩ := runs_pure_iff.mp stopRun
          have read := runs_read readRun
          have quiet := readings_of_talk (.request rfl) noteRun
          simp only [readings_append, read, quiet]
          exact .unreadable pid text

theorem accounts_of_runs {options : Options} {query : Query} {events : List Event}
    {result : QueryResult} (run : (runQuery options query).Runs events result) :
    Accounts options.watched (readings events) result.memory := by
  obtain ⟨limiting, _, rest₁, rfl, limitRun, run₁⟩ := runs_bind_iff.mp run
  obtain ⟨starting, watch, rest₂, rfl, startRun, run₂⟩ := runs_bind_iff.mp run₁
  obtain ⟨beginning, start, rest₃, rfl, beginRun, run₃⟩ := runs_bind_iff.mp run₂
  obtain ⟨stating, outcome, rest₄, rfl, stateRun, run₄⟩ := runs_bind_iff.mp run₃
  obtain ⟨finishing, stop, rest₅, rfl, finishRun, run₅⟩ := runs_bind_iff.mp run₄
  obtain ⟨stopping, memory, ending, rfl, stopRun, endRun⟩ := runs_bind_iff.mp run₅
  obtain ⟨rfl, rfl⟩ := runs_pure_iff.mp endRun
  -- All readings are those of the watch, in front of the statements and behind them.
  have limited := readings_of_talk (Session.talk_limit _) limitRun
  have stated := readings_of_talk (talk_countFrom _ _ _) stateRun
  have taken : readings (limiting ++ (starting ++ (beginning ++ (stating ++
      (finishing ++ (stopping ++ [])))))) = readings starting ++ readings stopping := by
    simp only [readings_append, limited, stated, readings_of_now beginRun,
      readings_of_now finishRun, List.nil_append, List.append_nil]
  rw [taken]
  exact accounts_of_watch startRun stopRun

/-- The events of a batch are those of its queries, one after the other; each
query has its statements and its readings there, and the result that they give. -/
theorem accountedRuns_of_runs {options : Options} {queries : List Query}
    {events : List Event} {results : List QueryResult}
    (run : (runQueries options queries).Runs events results) :
    ∃ runs : List (List Event × QueryResult),
      events = (runs.map Prod.fst).flatten ∧ results = runs.map Prod.snd ∧
      List.Forall₂ (fun query run =>
        QueryRun options.timeout query (exchanges run.1) run.2 ∧
          Accounts options.watched (readings run.1) run.2.memory) queries runs := by
  induction queries generalizing events results with
  | nil =>
      obtain ⟨rfl, rfl⟩ := runs_pure_iff.mp run
      exact ⟨[], rfl, rfl, .nil⟩
  | cons query queries induction =>
      obtain ⟨asking, result, rest₁, rfl, queryRun, run₁⟩ := runs_bind_iff.mp run
      obtain ⟨telling, _, rest₂, rfl, tellRun, run₂⟩ := runs_bind_iff.mp run₁
      obtain ⟨later, laterResults, ending, rfl, laterRun, endRun⟩ :=
        runs_bind_iff.mp run₂
      obtain ⟨rfl, rfl⟩ := runs_pure_iff.mp endRun
      obtain ⟨runs, rfl, rfl, related⟩ := induction laterRun
      have unsent := (asks_tellResult result).silent telling _ tellRun
      have unread := readings_of_talk (talk_tellResult result) tellRun
      have sent := queryRun_of_runs queryRun
      have accounts := accounts_of_runs queryRun
      -- The entry in the journal counts as the last event of its query.
      refine ⟨(asking ++ telling, result) :: runs, by simp, rfl, .cons ⟨?_, ?_⟩ related⟩
      · simpa [unsent] using sent
      · simpa [unread] using accounts

/-- The results of a batch come from the events of its queries, which end the run;
in front of them no process is read. -/
def Accounted (catalog : Catalog) (options : Options) (ids : List Nat)
    (events : List Event) (results : List QueryResult) : Prop :=
  ∃ (before : List Event) (runs : List (List Event × QueryResult)),
    events = before ++ (runs.map Prod.fst).flatten ∧
    readings before = [] ∧ results = runs.map Prod.snd ∧
    List.Forall₂ (fun id run => ∃ query, catalog.get? id = some query ∧
      QueryRun options.timeout query (exchanges run.1) run.2 ∧
      Accounts options.watched (readings run.1) run.2.memory) ids runs

theorem accounted_of_runs {catalog : Catalog} {options : Options} {ids : List Nat}
    {events : List Event} {results : List QueryResult}
    (running : (run catalog options ids).outcome.Runs events (.ok results)) :
    Accounted catalog options ids events results := by
  rcases Catalog.unknown_or_known catalog ids with unknown | ⟨queries, known⟩
  · obtain ⟨-, impossible⟩ := runs_of_unknown unknown running
    cases impossible
  · rw [run, Catalog.resolve_eq_ok_iff.mpr known,
      Procedure.runs_ofOutcome_ok_bind_iff] at running
    obtain ⟨telling, _, later, rfl, tellRun, laterRun⟩ :=
      Procedure.runs_lift_bind_iff.mp running
    obtain ⟨_, same, queriesRun⟩ := Procedure.runs_lift_iff.mp laterRun
    cases same
    obtain ⟨runs, rfl, rfl, related⟩ := accountedRuns_of_runs queriesRun
    exact ⟨telling, runs, rfl, readings_of_talk (.request rfl) tellRun, rfl,
      Catalog.forall₂_of_known known related⟩

theorem Accounted.behind {catalog : Catalog} {options : Options} {ids : List Nat}
    {events : List Event} {results : List QueryResult}
    (accounted : Accounted catalog options ids events results) {earlier : List Event}
    (unread : readings earlier = []) :
    Accounted catalog options ids (earlier ++ events) results := by
  obtain ⟨before, runs, rfl, quiet, same, related⟩ := accounted
  exact ⟨earlier ++ before, runs, by simp, by simp [unread, quiet], same, related⟩

end Batch

namespace Command

open Batch Memory

theorem agree_runQueries (catalog : Catalog) (options : RunOptions)
    (watched other : Option Nat) :
    (runQueries catalog { options with watched }).outcome.Agree
      (runQueries catalog { options with watched := other }).outcome SameVerdicts := by
  obtain ⟨ids, timeout, precheck, _, output⟩ := options
  let timing : Options := ⟨timeout, watched⟩
  let otherTiming : Options := ⟨timeout, other⟩
  have timeouts : timing.timeout = otherTiming.timeout := rfl
  have timed := agree_run timeouts catalog ids
  cases precheck with
  | false => simpa only [runQueries_of_unchecked] using timed
  | true =>
      simp only [runQueries_of_precheck]
      exact Procedure.agree_bind (Precheck.talk_run catalog ids timeout)
        (fun _ => rfl) fun _ => timed

/-- Queries ask for nothing but calls of the world around them. -/
theorem calls_of_runQueries {catalog : Catalog} {options : RunOptions}
    {events : List Event} {outcome : Except Fault (List QueryResult)}
    (run : (runQueries catalog options).outcome.Runs events outcome) :
    ∀ effect ∈ requests events, ∃ call : Call, effect = call.effect := by
  obtain ⟨plan, stays⟩ := exists_staysOn_runQueries catalog options
  intro effect member
  obtain ⟨step, -, rfl⟩ := List.mem_map.mp ((stays events outcome run).subset member)
  exact ⟨step.call, rfl⟩

theorem accounted_of_runQueries {catalog : Catalog} {options : RunOptions}
    {events : List Event} {results : List QueryResult}
    (running : (runQueries catalog options).outcome.Runs events (.ok results)) :
    Accounted catalog ⟨options.timeout, options.watched⟩ options.ids events results := by
  cases precheck : options.precheck with
  | false =>
      rw [runQueries_of_unchecked precheck] at running
      exact accounted_of_runs running
  | true =>
      rw [runQueries_of_precheck precheck] at running
      rcases Procedure.runs_bind_iff.mp running with
        ⟨fault, -, impossible⟩ | ⟨trying, _, later, rfl, tryRun, laterRun⟩
      · cases impossible
      · exact (accounted_of_runs laterRun).behind
          (readings_of_talk (Precheck.talk_run _ _ _) tryRun)

/-- Two runs of the same queries against the same session, which differ in the
process that is watched and in whatever its status file holds, send the same calls
in the same order, and end with the same fault or with the same results up to
seconds and memory figures.  The figures of each query are those of the readings
that were taken while it ran: none without a process to watch, and nothing but an
error if the first reading failed. -/
theorem monitoring_changes_nothing {σ τ κ : Type} {environment : Environment σ}
    {otherEnvironment : Environment τ} {respondent : Respondent κ} {seen : σ → κ}
    {otherSeen : τ → κ} (reaches : environment.Reaches respondent seen)
    (otherReaches : otherEnvironment.Reaches respondent otherSeen)
    (catalog : Catalog) (options : RunOptions) (watched otherWatched : Option Nat)
    (state : σ) (otherState : τ) (same : seen state = otherSeen otherState) :
    let played := (runQueries catalog { options with watched }).outcome.play
      environment state
    let other := (runQueries catalog { options with watched := otherWatched }).outcome.play
      otherEnvironment otherState
    exchanges played.events = exchanges other.events ∧
      SameVerdicts played.value other.value ∧
      (∀ results, played.value = .ok results →
        Accounted catalog ⟨options.timeout, watched⟩ options.ids played.events results) ∧
      ∀ results, other.value = .ok results →
        Accounted catalog ⟨options.timeout, otherWatched⟩ options.ids other.events
          results := by
  intro played other
  have running : (runQueries catalog { options with watched }).outcome.Runs
      played.events played.value := runs_play environment _ state
  have otherRunning :
      (runQueries catalog { options with watched := otherWatched }).outcome.Runs
        other.events other.value := runs_play otherEnvironment _ otherState
  have answers := reaches.answers_play _ state (calls_of_runQueries running)
  have otherAnswers := otherReaches.answers_play _ otherState
    (calls_of_runQueries otherRunning)
  rw [← same] at otherAnswers
  obtain ⟨calls, verdicts⟩ := agree_runQueries catalog options watched otherWatched κ
    respondent (seen state) _ _ _ _ running otherRunning answers otherAnswers
  refine ⟨calls, verdicts, fun results ended => ?_, fun results ended => ?_⟩
  · rw [ended] at running
    exact accounted_of_runQueries running
  · rw [ended] at otherRunning
    exact accounted_of_runQueries otherRunning

/-- A session whose second answer is a fault, with a living process beside it and
without: the second of three queries fails in both runs. -/
theorem same_failure_watched_and_unwatched :
    let session : Respondent Nat :=
      ⟨fun _ calls => (if calls = 1 then .error .sessionClosed else .ok calls, calls + 1)⟩
    let options : RunOptions := ⟨[1, 1, 1], .disabled, false, none, none⟩
    let played := (runQueries .single { options with watched := some 7 }).outcome.play
      (.beside session (.ok "VmRSS:\t 42 kB")) 0
    let other := (runQueries .single { options with watched := none }).outcome.play
      (.beside session (.error "No such file or directory")) 0
    exchanges played.events = exchanges other.events ∧
      SameVerdicts played.value other.value ∧
      (other.value.map (List.map QueryResult.rows?)).toOption =
        some [some 0, none, some 2] ∧
      (played.value.map (List.map QueryResult.memory)).toOption =
        some (List.replicate 3 (some ⟨7, 42, 42, 42, 1, none⟩)) := by
  intro session options played other
  obtain ⟨calls, verdicts, -⟩ := monitoring_changes_nothing
    (Environment.reaches_beside session _) (Environment.reaches_beside session _)
    .single options (some 7) none 0 0 rfl
  exact ⟨calls, verdicts, by decide +kernel, by decide +kernel⟩

end Command

end DecisionBench
