import DecisionBench.Catalog.Benchmark
import DecisionBench.Proofs.Agreement
import DecisionBench.Proofs.Reference
import DecisionBench.Proofs.Shadow

/-!
# Statements that no shadow can serve

A session that refuses exactly the statements that open a table twice accepts
the whole installation, so that the precheck comes down to the statements of the
queries that define no view.  `passed_iff_no_reopening` says when it passes, and
with which fault it ends otherwise: such a query is tried and reported, and only
a query that defines a view is passed over.
-/

namespace DecisionBench

theorem Call.statement_hinted (timeout : Timeout) (statement : String) :
    (Call.hinted timeout statement).statement = Statement.hinted timeout statement := by
  unfold Call.hinted
  split <;> rfl

namespace Precheck

open Reference

/-- The session refuses the statements that open a table at two places or more,
and no others. -/
def RejectsReopening (answers : Call → Except Fault Nat) : Prop :=
  ∀ call, (∃ fault, answers call = .error fault) ↔
    reopens call.statement.toList = true

/-- The statements that a precheck tries, each with its query and its position
there. -/
def attempts (queries : List Query) : List (Query × String × Nat) :=
  (queries.filter (! definesView ·)).flatMap
    fun query => query.statements.zipIdx.map (Prod.mk query)

def isReopening (timeout : Timeout) (attempt : Query × String × Nat) : Bool :=
  reopens (Statement.hinted timeout attempt.2.1).toList

theorem queriesPlan_eq (timeout : Timeout) (queries : List Query) :
    queriesPlan timeout queries = (attempts queries).flatMap
      fun attempt => statementPlan timeout attempt.1 attempt.2 := by
  simp only [queriesPlan, attempts, List.flatMap_assoc, List.flatMap_map]
  rfl

theorem mem_attempts_iff {queries : List Query} {query : Query} {statement : String} :
    (∃ position, (query, statement, position) ∈ attempts queries) ↔
      query ∈ queries ∧ definesView query = false ∧ statement ∈ query.statements := by
  simp [attempts, List.mem_zipIdx_iff_getElem?, and_assoc,
    List.mem_iff_getElem? (l := query.statements)]

/-- The fault that a statement is reported with, if the session refuses it. -/
def report? (answers : Call → Except Fault Nat) (timeout : Timeout)
    (attempt : Query × String × Nat) : Option Fault :=
  match answers (.hinted timeout attempt.2.1) with
  | .ok _ => none
  | .error fault => some (queryFailed attempt.1 attempt.2.2 fault.message)

theorem forecast_attempts (answers : Call → Except Fault Nat) (timeout : Timeout)
    (tried : List (Query × String × Nat)) :
    forecast answers
        (tried.flatMap fun attempt => statementPlan timeout attempt.1 attempt.2) =
      match tried.findSome? (report? answers timeout) with
      | none => .ok ()
      | some fault => .error fault := by
  induction tried with
  | nil => rfl
  | cons attempt tried induction =>
      simp only [List.flatMap_cons, statementPlan, List.append_assoc,
        forecast_limitPlan_append, List.singleton_append, forecast,
        List.findSome?_cons, report?]
      cases answers (.hinted timeout attempt.2.1) with
      | ok count => exact induction
      | error fault => rfl

section Reports

variable {answers : Call → Except Fault Nat} {timeout : Timeout}
  {attempt : Query × String × Nat} {tried : List (Query × String × Nat)}

theorem report?_eq_none_iff (rejects : RejectsReopening answers) :
    report? answers timeout attempt = none ↔ isReopening timeout attempt = false := by
  have refused := rejects (.hinted timeout attempt.2.1)
  rw [Call.statement_hinted, ← isReopening] at refused
  cases answered : answers (.hinted timeout attempt.2.1) with
  | ok count =>
      have closed : ¬ isReopening timeout attempt = true := by simp [← refused, answered]
      simp [report?, answered, closed]
  | error fault =>
      have reopened : isReopening timeout attempt = true := refused.mp ⟨fault, answered⟩
      simp [report?, answered, reopened]

/-- The first statement that opens a table twice is the one that is reported. -/
theorem findSome?_report? (rejects : RejectsReopening answers)
    (first : tried.find? (isReopening timeout) = some attempt) :
    ∃ refusal, answers (.hinted timeout attempt.2.1) = .error refusal ∧
      tried.findSome? (report? answers timeout) =
        some (queryFailed attempt.1 attempt.2.2 refusal.message) := by
  obtain ⟨reopened, before, later, rfl, closed⟩ := List.find?_eq_some_iff_append.mp first
  have silent : before.findSome? (report? answers timeout) = none := by
    refine List.findSome?_eq_none_iff.mpr fun earlier member => ?_
    exact (report?_eq_none_iff rejects).mpr (by simpa using closed earlier member)
  obtain ⟨refusal, answered⟩ := (rejects (.hinted timeout attempt.2.1)).mpr
    (by rwa [Call.statement_hinted])
  refine ⟨refusal, answered, ?_⟩
  simp [List.findSome?_append, silent, report?, answered]

end Reports

theorem Course.passed_of_forecast {answers : Call → Except Fault Nat}
    {timeout : Timeout} {queries : List Query} {sent : List Exchange}
    {outcome : Except Fault Verdict} (course : Course timeout queries sent outcome)
    (answered : AnsweredBy answers sent)
    (installable : forecast answers installPlan = .ok ())
    (clean : forecast answers (queriesPlan timeout queries) = .ok ()) :
    outcome = .ok .passed := by
  have droppable : forecast answers dropPlan = .ok () := by
    rw [installPlan, forecast_append] at installable
    cases cleared : forecast answers dropPlan with
    | ok _ => rfl
    | error fault =>
        rw [cleared] at installable
        cases installable
  cases course with
  | stopped installs =>
      have expected := installs.outcome_eq_forecast answered
      rw [installable] at expected
      cases expected
  | @tried installed asked dropped tried cleared installs asks drops =>
      have expected := asks.outcome_eq_forecast fun exchange member =>
        answered exchange (by simp [member])
      have expectedDrops := drops.outcome_eq_forecast fun exchange member =>
        answered exchange (by simp [member])
      rw [expected, expectedDrops, clean, droppable]
      rfl

section Installation

set_option maxRecDepth 20000 in
theorem script_opens :
    ∃ text, Schema.script = String.ofList text ∧
      ((Script.fragments text).map temporaryText).all (! reopens ·) = true :=
  ⟨_, rfl, by decide +kernel⟩

theorem reopens_definition :
    ∀ definition ∈ definitions, reopens definition.toList = false := by
  obtain ⟨text, script, closed⟩ := script_opens
  rw [definitions, Script.statements, script, String.toList_ofList]
  intro definition member
  simp only [List.mem_map] at member
  obtain ⟨_, ⟨fragment, inText, rfl⟩, rfl⟩ := member
  rw [toList_temporaryDefinition, String.toList_ofList]
  simpa using List.all_eq_true.mp closed _ (List.mem_map_of_mem inText)

theorem reopens_dropStatement (table : Table) :
    reopens (dropStatement table).toList = false := by
  cases table <;> decide +kernel

theorem exists_count_of_closed {answers : Call → Except Fault Nat}
    (rejects : RejectsReopening answers) {call : Call}
    (closed : reopens call.statement.toList = false) :
    ∃ count, answers call = .ok count := by
  cases answered : answers call with
  | ok count => exact ⟨count, rfl⟩
  | error fault =>
      rw [(rejects call).mp ⟨fault, answered⟩] at closed
      cases closed

theorem forecast_installPlan {answers : Call → Except Fault Nat}
    (rejects : RejectsReopening answers) :
    forecast answers installPlan = .ok () := by
  refine forecast_eq_ok fun step member => exists_count_of_closed rejects ?_
  rcases List.mem_append.mp member with drop | define
  · obtain ⟨table, rfl⟩ := mem_dropPlan_iff.mp drop
    exact reopens_dropStatement table
  · obtain ⟨definition, inScript, rfl⟩ := List.mem_map.mp define
    exact reopens_definition definition inScript

end Installation

section Courses

variable {answers : Call → Except Fault Nat} {timeout : Timeout} {queries : List Query}
  {sent : List Exchange} {outcome : Except Fault Verdict}

theorem Course.eq_passed_iff_attempts (course : Course timeout queries sent outcome)
    (answered : AnsweredBy answers sent) (rejects : RejectsReopening answers) :
    outcome = .ok .passed ↔
      ∀ attempt ∈ attempts queries, isReopening timeout attempt = false := by
  have forecasted := forecast_attempts answers timeout (attempts queries)
  rw [← queriesPlan_eq] at forecasted
  have silent : (attempts queries).findSome? (report? answers timeout) = none ↔
      ∀ attempt ∈ attempts queries, isReopening timeout attempt = false := by
    simp only [List.findSome?_eq_none_iff, report?_eq_none_iff rejects]
  rw [← silent]
  constructor
  · intro passed
    rw [course.forecast_of_passed answered passed] at forecasted
    cases found : (attempts queries).findSome? (report? answers timeout) with
    | none => rfl
    | some fault =>
        rw [found] at forecasted
        cases forecasted
  · intro none
    rw [none] at forecasted
    exact course.passed_of_forecast answered (forecast_installPlan rejects) forecasted

theorem Course.eq_passed_iff_closed (course : Course timeout queries sent outcome)
    (answered : AnsweredBy answers sent) (rejects : RejectsReopening answers) :
    outcome = .ok .passed ↔
      ∀ query ∈ queries, definesView query = false →
        ∀ statement ∈ query.statements,
          reopens (Statement.hinted timeout statement).toList = false := by
  rw [course.eq_passed_iff_attempts answered rejects]
  constructor
  · intro closed query member notView statement inQuery
    obtain ⟨position, attempted⟩ := mem_attempts_iff.mpr ⟨member, notView, inQuery⟩
    have here := closed (query, statement, position) attempted
    rwa [isReopening] at here
  · intro closed ⟨query, statement, position⟩ attempted
    obtain ⟨member, notView, inQuery⟩ := mem_attempts_iff.mp ⟨position, attempted⟩
    rw [isReopening]
    exact closed query member notView statement inQuery

theorem Course.eq_report (course : Course timeout queries sent outcome)
    (answered : AnsweredBy answers sent) (rejects : RejectsReopening answers)
    {query : Query} {statement : String} {position : Nat}
    (first : (attempts queries).find? (isReopening timeout) =
      some (query, statement, position)) :
    ∃ refusal, answers (.hinted timeout statement) = .error refusal ∧
      outcome = .error (queryFailed query position refusal.message) := by
  obtain ⟨refusal, refused, reported⟩ := findSome?_report? rejects first
  refine ⟨refusal, refused, ?_⟩
  apply course.outcome_of_report answered (forecast_installPlan rejects)
  rw [queriesPlan_eq, forecast_attempts, reported]

end Courses

section Benchmark

/-- The ids of the benchmark queries that open a table twice in one statement. -/
def reopeningIds : List Nat :=
  [2, 7, 8, 11, 17, 18, 21, 22]

def agreesWithId (id : Nat) (texts : List (List Char)) : Bool :=
  texts.all opensWithWord &&
    (!texts.any opensViewText && texts.any reopens) == reopeningIds.contains id

set_option maxRecDepth 20000 in
theorem benchmark_texts : ∀ query ∈ Catalog.benchmark.queries,
    ∃ texts, query.statements = texts.map String.ofList ∧
      agreesWithId query.id texts = true := by
  simp only [Catalog.benchmark, Catalog.benchmarkQueries, List.forall_mem_cons,
    List.not_mem_nil, false_implies, implies_true, and_true]
  and_intros
  -- Unification finds the characters of each statement; only the fifteenth query
  -- has more than one.
  any_goals exact ⟨[_], rfl, by decide +kernel⟩
  exact ⟨[_, _, _, _], rfl, by decide +kernel⟩

theorem opensView_ofList (text : List Char) :
    opensView (String.ofList text) = opensViewText text := by
  rw [opensView, String.toList_ofList]

theorem definesView_of_texts {query : Query} {texts : List (List Char)}
    (same : query.statements = texts.map String.ofList) :
    definesView query = texts.any opensViewText := by
  simp only [definesView, same, List.any_map, Function.comp_def, opensView_ofList]

theorem benchmark_reopens_iff {query : Query}
    (member : query ∈ Catalog.benchmark.queries) (timeout : Timeout) :
    (definesView query = false ∧ ∃ statement ∈ query.statements,
        reopens (Statement.hinted timeout statement).toList = true) ↔
      query.id ∈ reopeningIds := by
  obtain ⟨texts, same, sorted⟩ := benchmark_texts query member
  rw [agreesWithId, Bool.and_eq_true, List.all_eq_true, beq_iff_eq] at sorted
  obtain ⟨words, decides⟩ := sorted
  have hinted : ∀ text ∈ texts,
      reopens (Statement.hinted timeout (String.ofList text)).toList = reopens text := by
    intro text inTexts
    rw [reopens_hinted timeout, String.toList_ofList]
    rw [String.toList_ofList]
    exact words text inTexts
  have anyReopens : (∃ statement ∈ query.statements,
      reopens (Statement.hinted timeout statement).toList = true) ↔
        texts.any reopens = true := by
    rw [same, List.any_eq_true]
    constructor
    · rintro ⟨_, inStatements, reopened⟩
      obtain ⟨text, inTexts, rfl⟩ := List.mem_map.mp inStatements
      exact ⟨text, inTexts, hinted text inTexts ▸ reopened⟩
    · rintro ⟨text, inTexts, reopened⟩
      refine ⟨_, List.mem_map_of_mem inTexts, ?_⟩
      rw [hinted text inTexts, reopened]
  rw [anyReopens, definesView_of_texts same, ← List.contains_iff_mem, ← decides]
  simp

theorem benchmark_closed_iff {ids : List Nat} {queries : List Query}
    (known : ids.map Catalog.benchmark.get? = queries.map some) (timeout : Timeout) :
    (∀ query ∈ queries, definesView query = false →
        ∀ statement ∈ query.statements,
          reopens (Statement.hinted timeout statement).toList = false) ↔
      ∀ id ∈ ids, id ∉ reopeningIds := by
  constructor
  · intro closed id selected reopening
    obtain ⟨query, member, rfl⟩ := Catalog.exists_query_of_known known selected
    obtain ⟨notView, statement, inQuery, reopened⟩ :=
      (benchmark_reopens_iff (Catalog.mem_of_known known member).1 timeout).mpr reopening
    rw [closed query member notView statement inQuery] at reopened
    cases reopened
  · intro closed query member notView statement inQuery
    obtain ⟨inCatalog, selected⟩ := Catalog.mem_of_known known member
    refine Bool.eq_false_iff.mpr fun reopened => ?_
    exact closed query.id selected ((benchmark_reopens_iff inCatalog timeout).mp
      ⟨notView, statement, inQuery, reopened⟩)

end Benchmark

/-- A precheck against a session that refuses exactly the statements that open a
table twice passes if and only if no such statement stands in a query that
defines no view.  Otherwise the first one in the order of the selection is the
outcome, as a fault of its query.  Of the queries of the benchmark, these are
the ones of `reopeningIds`. -/
theorem passed_iff_no_reopening {σ : Type} (environment : Environment σ) (state : σ)
    (answers : Call → Except Fault Nat) (same : environment.AnswersBy answers)
    (rejects : RejectsReopening answers) (catalog : Catalog) (ids : List Nat)
    (queries : List Query) (timeout : Timeout)
    (known : ids.map catalog.get? = queries.map some) :
    let played := (run catalog ids timeout).outcome.play environment state
    (played.value = .ok .passed ↔
        ∀ query ∈ queries, definesView query = false →
          ∀ statement ∈ query.statements,
            reopens (Statement.hinted timeout statement).toList = false) ∧
      (∀ query statement position,
        (attempts queries).find? (isReopening timeout) =
            some (query, statement, position) →
          ∃ refusal, answers (.hinted timeout statement) = .error refusal ∧
            played.value = .error (queryFailed query position refusal.message)) ∧
      (catalog = .benchmark →
        (played.value = .ok .passed ↔ ∀ id ∈ ids, id ∉ reopeningIds)) := by
  intro played
  have course : Course timeout queries (exchanges played.events) played.value :=
    course_of_runs known
      (Program.runs_play environment (run catalog ids timeout).outcome state)
  have answered : AnsweredBy answers (exchanges played.events) :=
    answeredBy_play same (run catalog ids timeout).outcome state
  have passes := course.eq_passed_iff_closed answered rejects
  refine ⟨passes, fun _ _ _ first => course.eq_report answered rejects first, ?_⟩
  rintro rfl
  exact passes.trans (benchmark_closed_iff known timeout)

/-- A session that refuses the statements that open a table twice. -/
def refusingReopening (call : Call) : Except Fault Nat :=
  if reopens call.statement.toList then
    .error ⟨.query, "ERROR 1137 (HY000): Can't reopen table: 'partsupp'"⟩
  else .ok 0

theorem rejectsReopening_refusingReopening : RejectsReopening refusingReopening := by
  intro call
  by_cases reopened : reopens call.statement.toList = true <;>
    simp [refusingReopening, reopened]

theorem passed_past_view_and_subquery :
    RejectsReopening refusingReopening ∧
      [1, 15, 20].map Catalog.benchmark.get? =
        [Catalog.queryOne, Catalog.queryFifteen, Catalog.queryTwenty].map some ∧
      ((run .benchmark [1, 15, 20] (.after 30000)).outcome.play
        (.answering refusingReopening) ()).value = .ok .passed := by
  have known : [1, 15, 20].map Catalog.benchmark.get? =
      [Catalog.queryOne, Catalog.queryFifteen, Catalog.queryTwenty].map some := rfl
  refine ⟨rejectsReopening_refusingReopening, known, ?_⟩
  have stated := passed_iff_no_reopening (.answering refusingReopening) ()
    refusingReopening (Environment.answersBy_answering _)
    rejectsReopening_refusingReopening .benchmark [1, 15, 20] _ (.after 30000) known
  exact (stated.2.2 rfl).mpr (by decide)

/-- The second query of the benchmark defines no view and fails the precheck. -/
theorem reopening_query_not_skipped :
    RejectsReopening refusingReopening ∧
      [2].map Catalog.benchmark.get? = [Catalog.queryTwo].map some ∧
      definesView Catalog.queryTwo = false ∧
      ((run .benchmark [2] .disabled).outcome.play
        (.answering refusingReopening) ()).value ≠ .ok .passed := by
  have known : [2].map Catalog.benchmark.get? = [Catalog.queryTwo].map some := rfl
  have inCatalog : Catalog.queryTwo ∈ Catalog.benchmark.queries :=
    (Catalog.mem_of_known known List.mem_cons_self).1
  have notView := ((benchmark_reopens_iff inCatalog .disabled).mpr (by decide)).1
  have course := course_of_runs known (Program.runs_play
    (.answering refusingReopening) (run .benchmark [2] .disabled).outcome ())
  have answered := answeredBy_play
    (Environment.answersBy_answering refusingReopening)
    (run .benchmark [2] .disabled).outcome ()
  refine ⟨rejectsReopening_refusingReopening, known, notView, ?_⟩
  rw [Ne, course.eq_passed_iff_closed answered rejectsReopening_refusingReopening,
    benchmark_closed_iff known]
  decide

end Precheck

end DecisionBench
