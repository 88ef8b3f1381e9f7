import DecisionBench.Proofs.Plan
import DecisionBench.Proofs.Selection

/-!
# The dry run

The plans of the precheck: dropping the shadows, creating them, and trying the
queries of a selection.  Each part of the precheck carries out its plan.  The
precheck as a whole takes one of two courses (`Course`), and its main statement
gives every statement that it sends and what it comes to, for every session
(`run_course`).

A plan has the texts of its statements and of its reports.  The definitions of the
shadows are those of the schema, table by table, and differ from them in their
opening words alone (`definitions_eq`).
-/

namespace DecisionBench

namespace Precheck

/-- The tables in the order in which their shadows are dropped and created. -/
def tableNames : List String :=
  ["nation", "region", "part", "supplier", "partsupp", "customer", "orders", "lineitem"]

def dropStep (name : String) : Step :=
  .binding (.execute ("DROP TEMPORARY TABLE IF EXISTS `" ++ name ++ "`")) fun fault =>
    ⟨.query, "precheck: drop temporary table `" ++ name ++ "`: " ++ fault.message⟩

def dropPlan : List Step :=
  tableNames.map dropStep

def defineStep (definition : String) : Step :=
  .binding (.execute definition) fun fault =>
    ⟨.query, "precheck: install temporary schema: " ++ fault.message⟩

/-- Dropping what may be left of the shadows, and creating them. -/
def installPlan : List Step :=
  dropPlan ++ ((Script.statements Schema.script).map temporaryDefinition).map defineStep

/-- Trying one statement of a query: the time limit, which may fail, and the
statement with its hint. -/
def statementPlan (timeout : Timeout) (query : Query)
    (numbered : String × Nat) : List Step :=
  limitPlan timeout ++
    [.binding (.hinted timeout numbered.1) fun fault =>
      ⟨.query, "precheck failed (Q" ++ toString query.id ++ " - " ++ query.title ++
        ") stmt#" ++ toString numbered.2 ++ ": " ++ fault.message⟩]

/-- Trying the statements of a query in their order. -/
def tryPlan (timeout : Timeout) (query : Query) : List Step :=
  query.statements.zipIdx.flatMap (statementPlan timeout query)

/-- Trying the queries that define no view, in their order. -/
def queriesPlan (timeout : Timeout) (queries : List Query) : List Step :=
  (queries.filter (! definesView ·)).flatMap (tryPlan timeout)

/-- Everything that a precheck sends if nothing fails. -/
def wholePlan (timeout : Timeout) (queries : List Query) : List Step :=
  installPlan ++ queriesPlan timeout queries ++ dropPlan

/-! ### The definitions of the shadows -/

/-- What stands in front of the columns in a definition that opens with some words. -/
def opening (words name : String) : String :=
  words ++ " IF NOT EXISTS " ++ name ++ " "

/-- Definitions of the tables that open with some words, given their columns. -/
def openedWith (words : String) (columns : List String) : List String :=
  tableNames.zipWith (fun name column => opening words name ++ column) columns

def openedWithText (words : String) (columns : List (List Char)) : List (List Char) :=
  tableNames.zipWith (fun name column => (opening words name).toList ++ column) columns

/-- What stands behind the opening of each definition of a script. -/
def columnsOf (script : List Char) : List (List Char) :=
  tableNames.zipWith (fun name fragment => fragment.drop (opening "CREATE TABLE" name).length)
    (Script.fragments script)

set_option maxRecDepth 20000 in
theorem script_columns :
    ∃ text, Schema.script = String.ofList text ∧ (columnsOf text).length = 8 ∧
      Script.fragments text = openedWithText "CREATE TABLE" (columnsOf text) ∧
      (Script.fragments text).map temporaryText =
        openedWithText "CREATE TEMPORARY TABLE" (columnsOf text) :=
  ⟨_, rfl, by decide +kernel⟩

theorem openedWith_map_ofList (words : String) (columns : List (List Char)) :
    openedWith words (columns.map String.ofList) =
      (openedWithText words columns).map String.ofList := by
  simp only [openedWith, openedWithText, List.zipWith_map_right, List.map_zipWith,
    String.ofList_append, String.ofList_toList]

/-- The schema defines the tables in their order, and the definitions of the shadows
are the same up to the words that they open with. -/
theorem definitions_eq :
    ∃ columns : List String, columns.length = 8 ∧
      Script.statements Schema.script = openedWith "CREATE TABLE" columns ∧
      (Script.statements Schema.script).map temporaryDefinition =
        openedWith "CREATE TEMPORARY TABLE" columns := by
  obtain ⟨text, script, count, defined, temporary⟩ := script_columns
  refine ⟨(columnsOf text).map String.ofList, by simpa using count, ?_, ?_⟩
  · rw [script, Script.statements, String.toList_ofList, defined, openedWith_map_ofList]
  · rw [script, Script.statements, String.toList_ofList, openedWith_map_ofList, ← temporary,
      List.map_map, List.map_map]
    simp [temporaryDefinition, Function.comp_def]

/-! ### Carrying out the plans -/

@[simp] theorem call_dropStep (table : Table) :
    (dropStep table.name).call = .execute (dropStatement table) := rfl

theorem mem_dropPlan_iff {step : Step} :
    step ∈ dropPlan ↔ ∃ table : Table, step = dropStep table.name := by
  have all : dropPlan = Table.all.map fun table => dropStep table.name := rfl
  rw [all, List.mem_map]
  refine exists_congr fun table => ?_
  have listed : table ∈ Table.all := by cases table <;> decide
  simp [listed, eq_comm]

theorem carriesOut_dropTables (tables : List Table) :
    (dropTables tables).CarriesOut (tables.map fun table => dropStep table.name) := by
  induction tables with
  | nil => exact .pure ()
  | cons table tables induction =>
      exact (Procedure.CarriesOut.rewording (Program.sends_execute _) _).bind
        fun _ => induction

theorem carriesOut_dropAll : dropAll.CarriesOut dropPlan :=
  carriesOut_dropTables Table.all

theorem carriesOut_defineAll (definitions : List String) :
    (defineAll definitions).CarriesOut (definitions.map defineStep) := by
  induction definitions with
  | nil => exact .pure ()
  | cons definition definitions induction =>
      exact (Procedure.CarriesOut.rewording (Program.sends_execute _) _).bind
        fun _ => induction

theorem carriesOut_install : install.CarriesOut installPlan :=
  carriesOut_dropAll.bind fun _ => carriesOut_defineAll definitions

theorem carriesOut_tryStatements (timeout : Timeout) (query : Query)
    (index : Nat) (statements : List String) :
    (tryStatements query timeout index statements).CarriesOut
      ((statements.zipIdx index).flatMap (statementPlan timeout query)) := by
  induction statements generalizing index with
  | nil => exact .pure ()
  | cons statement statements induction =>
      have tried :=
        (Procedure.CarriesOut.rewording (Program.sends_hinted timeout statement)
          (queryFailed query index)).bind fun _ => induction (index + 1)
      have limited := (Procedure.CarriesOut.limit timeout).bind fun _ => tried
      simpa [tryStatements, statementPlan, queryFailed] using limited

theorem carriesOut_tryQueries (timeout : Timeout) (queries : List Query) :
    (tryQueries timeout queries).CarriesOut (queriesPlan timeout queries) := by
  induction queries with
  | nil => exact .pure ()
  | cons query queries induction =>
      by_cases view : definesView query = true
      · have passedOver :=
          (Procedure.CarriesOut.lift (Program.silent_tell .information .precheck
            ("Precheck: Q" ++ toString query.id ++ " defines a view, skipped"))).bind
            fun _ => induction
        simpa [tryQueries, queriesPlan, view] using passedOver
      · have tried :=
          (carriesOut_tryStatements timeout query 0 query.statements).bind
            fun _ => induction
        simpa [tryQueries, queriesPlan, view, tryPlan] using tried

/-- What trying the queries and then dropping the shadows comes to: the fault
of a query goes before a fault of dropping. -/
def verdict : Except Fault Unit → Except Fault Unit → Except Fault Verdict
  | .error fault, _ => .error fault
  | .ok _, .error fault => .error fault
  | .ok _, .ok _ => .ok .passed

/-- A text has the number of a syntax error in it, and the word `temporary` in either
case. -/
def DeniesTemporary (text : String) : Prop :=
  "1064".toList <:+: text.toList ∧ "TEMPORARY".toList <:+: text.toList.map Char.toUpper

instance (text : String) : Decidable (DeniesTemporary text) :=
  inferInstanceAs (Decidable (_ ∧ _))

theorem isUnsupported_iff {fault : Fault} :
    isUnsupported fault = true ↔ DeniesTemporary fault.message := by
  rw [isUnsupported, Text.contains, Bool.and_eq_true, Text.occurs_iff, Text.occurs_iff]
  rfl

/-- The two courses of a precheck.  If a statement of the installation fails,
nothing is sent behind it, and the fault is the outcome unless it denies that there
are temporary tables.  Otherwise the queries are tried and the shadows are dropped, whether
or not a query failed. -/
inductive Course (timeout : Timeout) (queries : List Query) :
    List Exchange → Except Fault Verdict → Prop where
  | stopped {sent : List Exchange} {fault : Fault} :
      Follows installPlan sent (.error fault) →
      Course timeout queries sent
        (if DeniesTemporary fault.message then .ok .unsupported else .error fault)
  | tried {installed asked dropped : List Exchange}
      {answered cleared : Except Fault Unit} :
      Follows installPlan installed (.ok ()) →
      Follows (queriesPlan timeout queries) asked answered →
      Follows dropPlan dropped cleared →
      Course timeout queries (installed ++ asked ++ dropped)
        (verdict answered cleared)

theorem runs_dropAll_bind {next : Except Fault Unit → Program (Except Fault Verdict)}
    {value : Except Fault Unit → Except Fault Verdict}
    (returns : ∀ cleared, (next cleared).Returns (value cleared))
    {events : List Event} {outcome : Except Fault Verdict}
    (run : (dropAll.outcome >>= next).Runs events outcome) :
    ∃ cleared, Follows dropPlan (exchanges events) cleared ∧
      outcome = value cleared := by
  obtain ⟨dropping, cleared, rest, rfl, dropRun, restRun⟩ :=
    Program.runs_bind_iff.mp run
  obtain ⟨silent, rfl⟩ := returns cleared rest outcome restRun
  have drops := carriesOut_dropAll dropping cleared dropRun
  have same : cleared.map (fun _ => ()) = cleared := by cases cleared <;> rfl
  exact ⟨cleared, by simpa [silent, same] using drops, rfl⟩

theorem runs_tryAndDrop {timeout : Timeout} {queries : List Query}
    {events : List Event} {outcome : Except Fault Verdict}
    (run : (tryAndDrop timeout queries).outcome.Runs events outcome) :
    ∃ asked dropped answered cleared, exchanges events = asked ++ dropped ∧
      Follows (queriesPlan timeout queries) asked answered ∧
      Follows dropPlan dropped cleared ∧ outcome = verdict answered cleared := by
  obtain ⟨first, answered, later, rfl, firstRun, laterRun⟩ :=
    Program.runs_bind_iff.mp run
  have asked := carriesOut_tryQueries timeout queries first answered firstRun
  have dropped : ∃ cleared, Follows dropPlan (exchanges later) cleared ∧
      outcome = verdict (answered.map fun _ => ()) cleared := by
    cases answered with
    | error fault =>
        refine runs_dropAll_bind (fun cleared => ?_) laterRun
        cases cleared with
        | ok _ => exact Program.returns_pure _
        | error dropFault =>
            exact Program.returns_tell_bind _ _ _ (Program.returns_pure _)
    | ok _ =>
        refine runs_dropAll_bind (fun cleared => ?_) laterRun
        cases cleared with
        | ok _ => exact Program.returns_tell_bind _ _ _ (Program.returns_pure _)
        | error dropFault => exact Program.returns_pure _
  obtain ⟨cleared, drops, rfl⟩ := dropped
  exact ⟨_, _, _, cleared, exchanges_append first later, asked, drops, rfl⟩

theorem runs_of_unknown {catalog : Catalog} {ids : List Nat}
    {timeout : Timeout} {events : List Event} {outcome : Except Fault Verdict}
    (unknown : ∃ id ∈ ids, catalog.get? id = none)
    (running : (run catalog ids timeout).outcome.Runs events outcome) :
    events = [] ∧ outcome = .error (catalog.refusal ids) := by
  rw [run, Catalog.resolve_of_unknown unknown] at running
  exact Procedure.runs_ofOutcome_error_bind_iff.mp running

/-- A precheck of known queries takes one of the two courses. -/
theorem course_of_runs {catalog : Catalog} {ids : List Nat}
    {queries : List Query} {timeout : Timeout} {events : List Event}
    {outcome : Except Fault Verdict}
    (known : ids.map catalog.get? = queries.map some)
    (running : (run catalog ids timeout).outcome.Runs events outcome) :
    Course timeout queries (exchanges events) outcome := by
  rw [run, Catalog.resolve_eq_ok_iff.mpr known,
    Procedure.runs_ofOutcome_ok_bind_iff] at running
  obtain ⟨installing, installed, rest, rfl, installRun, restRun⟩ :=
    Program.runs_bind_iff.mp running
  have installs := carriesOut_install installing installed installRun
  cases installed with
  | ok _ =>
      obtain ⟨asked, dropped, answered, cleared, sent, asks, drops, rfl⟩ :=
        runs_tryAndDrop restRun
      have course := Course.tried installs asks drops
      simpa [sent] using course
  | error fault =>
      have course : Course timeout queries (exchanges installing) _ :=
        .stopped installs
      by_cases disabled : isUnsupported fault = true
      · rw [if_pos (isUnsupported_iff.mp disabled)] at course
        simp only [disabled, if_true] at restRun
        obtain ⟨silent, rfl⟩ := Program.returns_tell_bind _ _ _
          (Program.returns_pure _) rest outcome restRun
        simpa [silent] using course
      · rw [if_neg (mt isUnsupported_iff.mpr disabled)] at course
        simp only [disabled] at restRun
        obtain ⟨silent, rfl⟩ := Program.returns_pure _ rest outcome restRun
        simpa [silent] using course

/-- A precheck passes exactly if no binding call of it failed. -/
theorem Course.eq_passed_iff {timeout : Timeout} {queries : List Query}
    {sent : List Exchange} {outcome : Except Fault Verdict}
    (course : Course timeout queries sent outcome) :
    outcome = .ok .passed ↔
      ∀ pair ∈ (wholePlan timeout queries).zip sent,
        pair.1.isBinding = true → pair.2.succeeded = true := by
  have notAll {later : List Exchange}
      (failed : ∃ pair ∈ (wholePlan timeout queries).zip later,
        pair.1.isBinding = true ∧ pair.2.succeeded = false) :
      ¬ ∀ pair ∈ (wholePlan timeout queries).zip later,
        pair.1.isBinding = true → pair.2.succeeded = true := by
    intro all
    obtain ⟨pair, member, binding, failure⟩ := failed
    simp [all pair member binding] at failure
  cases course with
  | @stopped sent fault installs =>
      have failed := installs.exists_failed_of_error
        (queriesPlan timeout queries ++ dropPlan) []
      rw [List.append_nil, ← List.append_assoc] at failed
      refine iff_of_false ?_ (notAll failed)
      split <;> simp
  | @tried installed asked dropped answered cleared installs asks drops =>
      cases answered with
      | error fault =>
          have failed := (installs.append asks).exists_failed_of_error
            dropPlan dropped
          exact iff_of_false (by simp [verdict]) (notAll failed)
      | ok _ =>
          have whole := (installs.append asks).append drops
          cases cleared with
          | error fault =>
              have failed := whole.exists_failed_of_error [] []
              rw [List.append_nil, List.append_nil] at failed
              exact iff_of_false (by simp [verdict]) (notAll failed)
          | ok _ => exact iff_of_true rfl whole.succeeded_of_ok

/-- Every statement that a precheck sends and what it comes to, whatever the
session answers.  A selection with an unknown id sends nothing.  The definitions of
the shadows are those of the schema with other opening words. -/
theorem run_course {σ : Type} (environment : Environment σ) (state : σ)
    (catalog : Catalog) (ids : List Nat) (timeout : Timeout) :
    let played := (run catalog ids timeout).outcome.play environment state
    let sent := exchanges played.events
    (((∃ id ∈ ids, catalog.get? id = none) ∧ sent = [] ∧
        played.value = .error (catalog.refusal ids)) ∨
      ∃ queries, ids.map catalog.get? = queries.map some ∧
        Course timeout queries sent played.value ∧
        (played.value = .ok .passed ↔
          ∀ pair ∈ (wholePlan timeout queries).zip sent,
            pair.1.isBinding = true → pair.2.succeeded = true)) ∧
      ∃ columns : List String, columns.length = 8 ∧
        Script.statements Schema.script = openedWith "CREATE TABLE" columns ∧
        (Script.statements Schema.script).map temporaryDefinition =
          openedWith "CREATE TEMPORARY TABLE" columns := by
  intro played sent
  refine ⟨?_, definitions_eq⟩
  have running :=
    Program.runs_play environment (run catalog ids timeout).outcome state
  rcases Catalog.unknown_or_known catalog ids with unknown | ⟨queries, known⟩
  · obtain ⟨noEvents, refused⟩ := runs_of_unknown unknown running
    exact .inl ⟨unknown, by simp [sent, played, noEvents], refused⟩
  · have course := course_of_runs known running
    exact .inr ⟨queries, known, course, course.eq_passed_iff⟩

end Precheck

end DecisionBench
