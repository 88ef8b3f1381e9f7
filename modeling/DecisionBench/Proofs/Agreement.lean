import DecisionBench.Proofs.DryRun
import DecisionBench.Proofs.Forecast
import DecisionBench.Proofs.TimedBatch

/-!
# The dry run and the timed run agree

The dry run and the timed run send the same calls for a query.  A session that
answers each call always in the same way therefore lets a query pass in both or
in neither, and the dry run stops at the first query that the timed run reports
as failed, with the same message (`dryRun_agrees`).
-/

namespace DecisionBench.Precheck

open Batch

/-- Trying the statements of a query comes to what sending them comes to, and
the report of a fault carries its message. -/
theorem forecast_statements (answers : Call → Except Fault Nat)
    (timeout : Timeout) (query : Query) (index : Nat) (statements : List String) :
    match forecast answers (statements.map (countStep timeout)) with
    | .ok _ => forecast answers
        ((statements.zipIdx index).flatMap (statementPlan timeout query)) = .ok ()
    | .error fault => ∃ position, forecast answers
        ((statements.zipIdx index).flatMap (statementPlan timeout query)) =
          .error (queryFailed query position fault.message) := by
  induction statements generalizing index with
  | nil => rfl
  | cons statement statements induction =>
      have unfolded : forecast answers (((statement :: statements).zipIdx index).flatMap
          (statementPlan timeout query)) =
          forecast answers (.binding (.hinted timeout statement)
            (fun fault => queryFailed query index fault.message) ::
              (statements.zipIdx (index + 1)).flatMap (statementPlan timeout query)) := by
        simp [statementPlan, queryFailed, forecast_limitPlan_append]
      rw [unfolded, List.map_cons, countStep]
      cases answered : answers (.hinted timeout statement) with
      | ok count => simpa [forecast, answered] using induction (index + 1)
      | error fault =>
          simp only [forecast, answered]
          exact ⟨index, rfl⟩

/-- A query has the result that its statements deserve. -/
def Deserved (answers : Call → Except Fault Nat) (timeout : Timeout)
    (query : Query) (result : QueryResult) : Prop :=
  result.id = query.id ∧
    match forecast answers (countPlan timeout query) with
    | .ok _ => result.isOk = true
    | .error fault => result.ended = .failure fault.message

theorem deserved_of_queryRun {answers : Call → Except Fault Nat}
    {timeout : Timeout} {query : Query} {sent : List Exchange}
    {result : QueryResult} (queryRun : QueryRun timeout query sent result)
    (answered : AnsweredBy answers sent) :
    Deserved answers timeout query result := by
  obtain ⟨limiting, stated, outcome, rfl, -, follows, ended, -⟩ := queryRun.sends
  have outcomeEquality := follows.outcome_eq_forecast fun exchange member =>
    answered exchange (List.mem_append_right _ member)
  refine ⟨queryRun.id_eq, ?_⟩
  rw [← outcomeEquality]
  cases outcome with
  | ok _ => simp [QueryResult.isOk, ended, endedAfter]
  | error fault => exact ended

theorem deserved_of_queryRuns {answers : Call → Except Fault Nat}
    {timeout : Timeout} {queries : List Query}
    {runs : List (List Exchange × QueryResult)}
    (related : List.Forall₂ (fun query run => QueryRun timeout query run.1 run.2)
      queries runs)
    (answered : AnsweredBy answers (runs.map Prod.fst).flatten) :
    List.Forall₂ (Deserved answers timeout) queries (runs.map Prod.snd) := by
  induction related with
  | nil => exact .nil
  | @cons query run queries runs here _ induction =>
      have answeredHere : AnsweredBy answers run.1 := fun exchange member =>
        answered exchange (by simp [member])
      have answeredLater : AnsweredBy answers (runs.map Prod.fst).flatten :=
        fun exchange member => answered exchange
          (List.mem_append_right run.1 member)
      exact .cons (deserved_of_queryRun here answeredHere) (induction answeredLater)

/-- In a session that answers each call always in the same way, a batch of known
queries has the results that they deserve. -/
theorem deserved_of_play {σ : Type} {environment : Environment σ}
    {answers : Call → Except Fault Nat} (same : environment.AnswersBy answers)
    {catalog : Catalog} {ids : List Nat} {queries : List Query}
    (known : ids.map catalog.get? = queries.map some) (options : Options)
    (state : σ) :
    ∃ results,
      ((Batch.run catalog options ids).outcome.play environment state).value =
        .ok results ∧
      List.Forall₂ (Deserved answers options.timeout) queries results := by
  have running := Program.runs_play environment
    (Batch.run catalog options ids).outcome state
  have answered := answeredBy_play same (Batch.run catalog options ids).outcome state
  obtain ⟨runs, flattened, value, related⟩ := queryRuns_of_known known running
  rw [flattened] at answered
  exact ⟨_, value, deserved_of_queryRuns related answered⟩

theorem queriesPlan_cons (timeout : Timeout) (query : Query)
    (queries : List Query) :
    queriesPlan timeout (query :: queries) =
      (if definesView query then [] else tryPlan timeout query) ++
        queriesPlan timeout queries := by
  by_cases view : definesView query = true <;> simp [queriesPlan, view]

theorem forecast_tryPlan_of_deserved {answers : Call → Except Fault Nat}
    {timeout : Timeout} {query : Query} {result : QueryResult}
    (deserved : Deserved answers timeout query result) :
    (forecast answers (tryPlan timeout query) = .ok () ∧ result.isOk = true) ∨
      ∃ position message, result.ended = .failure message ∧
        forecast answers (tryPlan timeout query) =
          .error (queryFailed query position message) := by
  have tried := forecast_statements answers timeout query 0 query.statements
  have reported := deserved.2
  rw [countPlan] at reported
  cases counted : forecast answers (query.statements.map (countStep timeout)) with
  | ok _ =>
      rw [counted] at tried reported
      exact .inl ⟨tried, reported⟩
  | error fault =>
      rw [counted] at tried reported
      obtain ⟨position, stopped⟩ := tried
      exact .inr ⟨position, fault.message, reported, stopped⟩

/-- If trying the queries reports nothing, each query that was tried has a good
result. -/
theorem results_of_forecast_ok {answers : Call → Except Fault Nat}
    {timeout : Timeout} {queries : List Query} {results : List QueryResult}
    (deserved : List.Forall₂ (Deserved answers timeout) queries results)
    (clean : forecast answers (queriesPlan timeout queries) = .ok ()) :
    List.Forall₂ (fun query result => result.id = query.id ∧
      (definesView query = false → result.isOk = true)) queries results := by
  induction deserved with
  | nil => exact .nil
  | @cons query result queries results here _ induction =>
      rw [queriesPlan_cons, forecast_append] at clean
      by_cases view : definesView query = true
      · simp only [view, if_true, forecast] at clean
        exact .cons ⟨here.1, by simp [view]⟩ (induction clean)
      · simp only [view] at clean
        rcases forecast_tryPlan_of_deserved here with
          ⟨passed, good⟩ | ⟨position, message, -, stopped⟩
        · rw [if_neg (by simp), passed] at clean
          exact .cons ⟨here.1, fun _ => good⟩ (induction clean)
        · rw [if_neg (by simp), stopped] at clean
          cases clean

/-- Trying the queries stops at the first that was tried and has a failure for
its result, and reports its message. -/
theorem forecast_of_first_failure {answers : Call → Except Fault Nat}
    {timeout : Timeout} {queries : List Query} {results : List QueryResult}
    {query : Query} {result : QueryResult}
    (deserved : List.Forall₂ (Deserved answers timeout) queries results)
    (first : (queries.zip results).find?
      (fun pair => !definesView pair.1 && !pair.2.isOk) = some (query, result)) :
    ∃ position message, result.ended = .failure message ∧
      forecast answers (queriesPlan timeout queries) =
        .error (queryFailed query position message) := by
  induction deserved with
  | nil => cases first
  | @cons head headResult queries results here _ induction =>
      rw [queriesPlan_cons, forecast_append]
      rw [List.zip_cons_cons, List.find?_cons] at first
      by_cases view : definesView head = true
      · simp only [view, Bool.not_true, Bool.false_and] at first
        simpa only [view, if_true, forecast] using induction first
      · rcases forecast_tryPlan_of_deserved here with
          ⟨passed, good⟩ | ⟨position, message, failed, stopped⟩
        · simp only [good, Bool.not_true, Bool.and_false] at first
          rw [if_neg view, passed]
          exact induction first
        · have notOk : headResult.isOk = false := by
            simp [QueryResult.isOk, failed]
          simp only [view, notOk, Bool.not_false, Bool.and_self, Option.some.injEq,
            Prod.mk.injEq] at first
          obtain ⟨rfl, rfl⟩ := first
          exact ⟨position, message, failed, by rw [if_neg view, stopped]⟩

/-- A precheck that passes has tried its queries without a report. -/
theorem Course.forecast_of_passed {answers : Call → Except Fault Nat}
    {timeout : Timeout} {queries : List Query} {sent : List Exchange}
    {outcome : Except Fault Verdict} (course : Course timeout queries sent outcome)
    (answered : AnsweredBy answers sent) (passed : outcome = .ok .passed) :
    forecast answers (queriesPlan timeout queries) = .ok () := by
  cases course with
  | stopped installs => split at passed <;> cases passed
  | @tried installed asked dropped tried cleared installs asks drops =>
      have expected := asks.outcome_eq_forecast fun exchange member =>
        answered exchange (by simp [member])
      cases tried with
      | ok _ => exact expected.symm
      | error fault => cases passed

/-- If nothing fails in the installation, the report of the first query that
fails is the outcome of the precheck. -/
theorem Course.outcome_of_report {answers : Call → Except Fault Nat}
    {timeout : Timeout} {queries : List Query} {sent : List Exchange}
    {outcome : Except Fault Verdict} {fault : Fault}
    (course : Course timeout queries sent outcome)
    (answered : AnsweredBy answers sent)
    (installable : forecast answers installPlan = .ok ())
    (report : forecast answers (queriesPlan timeout queries) = .error fault) :
    outcome = .error fault := by
  cases course with
  | stopped installs =>
      have expected := installs.outcome_eq_forecast answered
      rw [installable] at expected
      cases expected
  | @tried installed asked dropped tried cleared installs asks drops =>
      have expected := asks.outcome_eq_forecast fun exchange member =>
        answered exchange (by simp [member])
      rw [expected, report]
      rfl

/-- A precheck of known queries passes if every call is answered with a count. -/
theorem passed_of_counted {σ : Type} {environment : Environment σ}
    {answers : Call → Except Fault Nat} (same : environment.AnswersBy answers)
    (counted : ∀ call, ∃ count, answers call = .ok count)
    {catalog : Catalog} {ids : List Nat} {queries : List Query}
    (known : ids.map catalog.get? = queries.map some) (timeout : Timeout) (state : σ) :
    ((run catalog ids timeout).outcome.play environment state).value = .ok .passed := by
  have course := course_of_runs known
    (Program.runs_play environment (run catalog ids timeout).outcome state)
  have answered := answeredBy_play same (run catalog ids timeout).outcome state
  refine course.eq_passed_iff.mpr fun pair member _ => ?_
  obtain ⟨count, counts⟩ := counted pair.2.call
  rw [Exchange.succeeded, answered pair.2 (List.of_mem_zip member).2, counts]

/-- In a session that answers each call always in the same way, the dry run
and the timed run of a selection agree.  If the precheck passes, the timed run
reports a good result for every query that defines no view.  If the shadows can
be installed and the timed run reports a failure of such a query, the precheck
ends with the fault of a query that names the first of them and ends in the message
of its result. -/
theorem dryRun_agrees {σ : Type} (environment : Environment σ)
    (answers : Call → Except Fault Nat) (same : environment.AnswersBy answers)
    (catalog : Catalog) (ids : List Nat) (timeout : Timeout)
    (watched : Option Nat) (before later : σ) :
    let tried := ((run catalog ids timeout).outcome.play environment before).value
    let timed :=
      ((Batch.run catalog ⟨timeout, watched⟩ ids).outcome.play environment later).value
    (tried = .ok .passed →
        ∃ (queries : List Query) (results : List QueryResult),
          ids.map catalog.get? = queries.map some ∧ timed = .ok results ∧
          List.Forall₂ (fun query result => result.id = query.id ∧
            (definesView query = false → result.isOk = true)) queries results) ∧
      ((∀ step ∈ installPlan, ∃ count, answers step.call = .ok count) →
        ∀ (queries : List Query) (results : List QueryResult) (query : Query)
          (result : QueryResult),
          ids.map catalog.get? = queries.map some → timed = .ok results →
          (queries.zip results).find?
            (fun pair => !definesView pair.1 && !pair.2.isOk) = some (query, result) →
          ∃ (position : Nat) (message : String), result.ended = .failure message ∧
            tried = .error ⟨.query, "precheck failed (Q" ++ toString query.id ++ " - " ++
              query.title ++ ") stmt#" ++ toString position ++ ": " ++ message⟩) := by
  intro tried timed
  have trying := Program.runs_play environment (run catalog ids timeout).outcome before
  have answered := answeredBy_play same (run catalog ids timeout).outcome before
  constructor
  · intro passed
    rcases Catalog.unknown_or_known catalog ids with unknown | ⟨queries, known⟩
    · have refused := (runs_of_unknown unknown trying).2
      have both := passed.symm.trans refused
      cases both
    · have clean := (course_of_runs known trying).forecast_of_passed answered passed
      obtain ⟨results, value, deserved⟩ :=
        deserved_of_play same known ⟨timeout, watched⟩ later
      exact ⟨queries, results, known, value, results_of_forecast_ok deserved clean⟩
  · intro installable queries results query result known value first
    obtain ⟨given, givenValue, deserved⟩ :=
      deserved_of_play same known ⟨timeout, watched⟩ later
    have equal := givenValue.symm.trans value
    cases equal
    obtain ⟨position, message, failed, report⟩ :=
      forecast_of_first_failure deserved first
    exact ⟨position, message, failed, (course_of_runs known trying).outcome_of_report
      answered (forecast_eq_ok installable) report⟩

/-- The answers of a session that executes everything and reads nothing. -/
def unreading : Call → Except Fault Nat
  | .execute _ => .ok 0
  | .countRows _ => .error ⟨.query, "Unknown column"⟩

theorem agreement_of_sessions :
    (∃ (queries : List Query) (results : List QueryResult),
      [1].map Catalog.single.get? = queries.map some ∧
        ((Batch.run .single ⟨.disabled, none⟩ [1]).outcome.play
          (.answering fun _ => .ok 0) ()).value = .ok results ∧
        List.Forall₂ (fun query result => result.id = query.id ∧
          (definesView query = false → result.isOk = true)) queries results) ∧
      ∃ position : Nat,
        ((run .single [1] .disabled).outcome.play (.answering unreading) ()).value =
          .error ⟨.query, "precheck failed (Q1 - Plain) stmt#" ++ toString position ++
            ": " ++ "Unknown column"⟩ := by
  have known : [1].map Catalog.single.get? = Catalog.single.queries.map some := rfl
  have passed := passed_of_counted
    (Environment.answersBy_answering fun _ => .ok 0) (fun _ => ⟨0, rfl⟩) known .disabled ()
  refine ⟨(dryRun_agrees (.answering fun _ => .ok 0) _
    (Environment.answersBy_answering _) .single [1] .disabled none () ()).1 passed, ?_⟩
  have installable : ∀ step ∈ installPlan, ∃ count, unreading step.call = .ok count := by
    intro step member
    rcases List.mem_append.mp member with drop | define
    · obtain ⟨name, -, rfl⟩ := List.mem_map.mp drop
      exact ⟨0, rfl⟩
    · obtain ⟨definition, -, rfl⟩ := List.mem_map.mp define
      exact ⟨0, rfl⟩
  obtain ⟨position, message, ended, refused⟩ := (dryRun_agrees (.answering unreading) _
    (Environment.answersBy_answering _) .single [1] .disabled none () ()).2 installable
    Catalog.single.queries
    [⟨1, "Plain", .ofThousandths 0, .failure "Unknown column", none⟩] _ _ known rfl rfl
  cases ended
  have naming : "precheck failed (Q" ++ toString 1 ++ " - " ++ "Plain" ++ ") stmt#" =
      "precheck failed (Q1 - Plain) stmt#" := by decide
  exact ⟨position, naming ▸ refused⟩

end DecisionBench.Precheck
