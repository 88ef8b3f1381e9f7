import DecisionBench.Command
import DecisionBench.Proofs.DryRun
import DecisionBench.Proofs.Itinerary
import DecisionBench.Proofs.TimedBatch

/-!
# The itineraries of the commands' parts

Creating the schema, running the generator, finding the data files, emptying
tables and loading them: each of these travels along an itinerary that is known
beforehand, and so what it asks of the world is a first part of the itinerary.
Each of them is strict: none passes over a failure.

The precheck and the timed batch go on behind some of their faults.  They stay
on their itineraries, but may leave out statements of queries that failed.
-/

namespace DecisionBench

/-! ### The schema, the generator and the data files -/

theorem Script.travels_sendAll (statements : List String) :
    (sendAll statements).Travels (statements.map .execute) := by
  induction statements with
  | nil => exact .pure ()
  | cons statement statements induction =>
      have sent := (Procedure.Travels.rewording
        (.request (.execute statement)) (failed statement)).bind fun _ => induction
      exact (Procedure.Travels.tell _ _ _).bind fun _ => sent

theorem Script.strict_sendAll (statements : List String) : (sendAll statements).Strict := by
  induction statements with
  | nil => exact .pure ()
  | cons statement statements induction =>
      have sent := (Procedure.Strict.execute statement (failed statement)).bind
        fun _ => induction
      exact (Procedure.Strict.tell _ _ _).bind fun _ => sent

theorem Schema.travels_create :
    create.Travels ((Script.statements script).map .execute) := by
  have sent : (Script.run script).Travels ((Script.statements script).map .execute) :=
    Script.travels_sendAll (Script.statements script)
  rw [← List.append_nil (List.map _ _)]
  exact sent.bind fun _ => .tell _ _ _

theorem Schema.strict_create : create.Strict := by
  have sent : (Script.run script).Strict :=
    Script.strict_sendAll (Script.statements script)
  exact sent.bind fun _ => .tell _ _ _

namespace Generator

theorem asks_tellLines (command : String) (lines : List String) :
    (tellLines command lines).Asks [] := by
  induction lines with
  | nil => exact .pure ()
  | cons line lines induction => exact (Program.Asks.tell _ _ _).bind fun _ => induction

/-- The generator is given its directory and then started, once. -/
theorem travels_run (request : GeneratorRequest) :
    (run request).Travels
      [.makeDirectories request.outputDirectory,
        .spawn request.command request.arguments] := by
  refine (Procedure.Travels.ofOutcome _).bind fun _ => ?_
  refine (Procedure.Travels.orFault (.request (.makeDirectories _)) _).bind fun _ => ?_
  refine (Procedure.Travels.tell _ _ _).bind fun _ => ?_
  refine (Procedure.Travels.lift (.request .clock)).bind fun _ => ?_
  refine (Procedure.Travels.orFault (.request (.spawn _ _)) _).bind fun finished => ?_
  refine (Procedure.Travels.lift (asks_tellLines _ _)).bind fun _ => ?_
  split
  · refine (Procedure.Travels.lift (.request .clock)).bind fun _ => ?_
    exact Procedure.Travels.tell _ _ _
  · exact .throw _ _

/-- A generator that ends well had its directory and could be started. -/
theorem strict_run (request : GeneratorRequest) : (run request).Strict := by
  refine (Procedure.Strict.ofOutcome _).bind fun _ => ?_
  refine (Procedure.Strict.orFault ?_ _).bind fun _ => ?_
  · intro events _ made event member
    rw [Program.runs_request_iff.mp made] at member
    cases List.mem_singleton.mp member
    rfl
  refine (Procedure.Strict.tell _ _ _).bind fun _ => ?_
  refine (Procedure.Strict.lift (.request .clock)).bind fun start => ?_
  refine Procedure.Strict.bind_of_checked ?_ fun finished => ?_
  · intro first finished later _ spawnRun laterRun event member
    obtain ⟨told, requestRun, ended⟩ := Procedure.runs_orFault_iff.mp spawnRun
    rw [Program.runs_request_iff.mp requestRun] at member
    cases List.mem_singleton.mp member
    obtain ⟨_, _, rest, -, -, restRun⟩ := Procedure.runs_lift_bind_iff.mp laterRun
    split at restRun
    next endedWell =>
      cases told with
      | ok spawned =>
          cases ended
          simp [Event.failed, endedWell]
      | error text => cases ended
    next =>
      obtain ⟨-, impossible⟩ := Program.runs_done_iff.mp restRun
      cases impossible
  · refine (Procedure.Strict.lift (asks_tellLines _ _)).bind fun _ => ?_
    split
    · exact (Procedure.Strict.lift (.request .clock)).bind fun _ => .tell _ _ _
    · exact .throw _

end Generator

namespace Load

/-- Where the data file of a table is looked for. -/
def filePath (directory : String) (table : Table) : String :=
  if directory.isEmpty ∨ directory.toList.getLast? = some '/' then
    directory ++ (table.name ++ ".csv")
  else
    directory ++ "/" ++ (table.name ++ ".csv")

/-- Looking for the data file of a table, and for where it really is. -/
def fileRoute (directory : String) (table : Table) : List Effect :=
  [.isFile (filePath directory table), .resolvePath (filePath directory table)]

def truncateStatement (table : Table) : String :=
  "TRUNCATE TABLE `" ++ table.name ++ "`"

theorem travels_dataFile (directory : String) (table : Table) :
    (dataFile directory table).Travels (fileRoute directory table) := by
  refine (Procedure.Travels.lift (.request (.isFile _))).bind fun found => ?_
  split
  · exact .orFault (.request (.resolvePath _)) _
  · exact .throw _ _

theorem strict_dataFile (directory : String) (table : Table) :
    (dataFile directory table).Strict := by
  refine Procedure.Strict.bind_of_checked ?_ fun found => ?_
  · intro first found later _ askRun laterRun event member
    obtain ⟨given, same, requestRun⟩ := Procedure.runs_lift_iff.mp askRun
    cases same
    rw [Program.runs_request_iff.mp requestRun] at member
    cases List.mem_singleton.mp member
    cases found with
    | true => rfl
    | false =>
        obtain ⟨-, impossible⟩ := Program.runs_done_iff.mp laterRun
        cases impossible
  · split
    · refine .orFault ?_ _
      intro events _ resolved event member
      rw [Program.runs_request_iff.mp resolved] at member
      cases List.mem_singleton.mp member
      rfl
    · exact .throw _

theorem travels_dataFiles (directory : String) (tables : List Table) :
    (dataFiles directory tables).Travels (tables.flatMap (fileRoute directory)) := by
  induction tables with
  | nil => exact .pure []
  | cons table tables induction =>
      rw [List.flatMap_cons]
      refine (travels_dataFile directory table).bind fun path => ?_
      simpa only [List.append_nil] using
        induction.bind fun files => Procedure.Travels.pure ((table, path) :: files)

theorem strict_dataFiles (directory : String) (tables : List Table) :
    (dataFiles directory tables).Strict := by
  induction tables with
  | nil => exact .pure []
  | cons table tables induction =>
      refine (strict_dataFile directory table).bind fun path => ?_
      exact induction.bind fun files => .pure ((table, path) :: files)

theorem travels_truncateTables (tables : List Table) :
    (truncateTables tables).Travels
      (tables.map fun table => .execute (truncateStatement table)) := by
  induction tables with
  | nil => exact .pure ()
  | cons table tables induction =>
      exact (Procedure.Travels.rewording (.request (.execute (truncateStatement table)))
        (truncateFailed table)).bind fun _ => induction

theorem strict_truncateTables (tables : List Table) : (truncateTables tables).Strict := by
  induction tables with
  | nil => exact .pure ()
  | cons table tables induction =>
      exact (Procedure.Strict.execute (truncateStatement table) (truncateFailed table)).bind
        fun _ => induction

theorem travels_loadFiles (options : LoadOptions) (files : List (Table × String)) :
    (loadFiles options files).Travels
      (files.map fun file => .execute (statement file.1 file.2 options)) := by
  induction files with
  | nil => exact .pure ()
  | cons file files induction =>
      obtain ⟨table, path⟩ := file
      refine (Procedure.Travels.lift (.request .clock)).bind fun start => ?_
      refine (Procedure.Travels.rewording
        (.request (.execute (statement table path options))) _).bind fun rows => ?_
      refine (Procedure.Travels.lift (.request .clock)).bind fun stop => ?_
      exact (Procedure.Travels.tell _ _ _).bind fun _ => induction

theorem strict_loadFiles (options : LoadOptions) (files : List (Table × String)) :
    (loadFiles options files).Strict := by
  induction files with
  | nil => exact .pure ()
  | cons file files induction =>
      obtain ⟨table, path⟩ := file
      refine (Procedure.Strict.lift (.request .clock)).bind fun start => ?_
      refine (Procedure.Strict.execute (statement table path options) _).bind fun rows => ?_
      refine (Procedure.Strict.lift (.request .clock)).bind fun stop => ?_
      exact (Procedure.Strict.tell _ _ _).bind fun _ => induction

end Load

/-! ### The precheck -/

namespace Program

theorem asks_send (timeout : Timeout) (statement : String) :
    (Precheck.send (Statement.hinted timeout statement)).Asks
      [(Call.hinted timeout statement).effect] := by
  unfold Precheck.send Call.hinted
  rw [Statement.isReadOnly_hinted]
  split
  · exact .request (.countRows _)
  · exact .request (.execute _)

theorem asks_limit (timeout : Timeout) :
    (Session.limit timeout).Asks ((limitPlan timeout).map Step.effect) := by
  cases timeout with
  | disabled => exact .pure false
  | after millis =>
      refine (Asks.request (.execute _)).bind fun answer => ?_
      cases answer with
      | ok count => exact .pure true
      | error fault => exact (Asks.tell _ _ _).bind fun _ => .pure false

end Program

namespace Precheck

theorem travels_dropTables (tables : List Table) :
    (dropTables tables).Travels
      ((tables.map fun table => dropStep table.name).map Step.effect) := by
  induction tables with
  | nil => exact .pure ()
  | cons table tables induction =>
      exact (Procedure.Travels.rewording (.request (.execute (dropStatement table)))
        (dropFailed table)).bind fun _ => induction

theorem travels_defineAll (definitions : List String) :
    (defineAll definitions).Travels ((definitions.map defineStep).map Step.effect) := by
  induction definitions with
  | nil => exact .pure ()
  | cons definition definitions induction =>
      exact (Procedure.Travels.rewording (.request (.execute definition))
        installFailed).bind fun _ => induction

theorem travels_dropAll : dropAll.Travels (dropPlan.map Step.effect) :=
  travels_dropTables Table.all

theorem travels_install : install.Travels (installPlan.map Step.effect) := by
  rw [installPlan, List.map_append]
  exact travels_dropAll.bind fun _ => travels_defineAll definitions

theorem travels_tryStatements (timeout : Timeout) (query : Query) (index : Nat)
    (statements : List String) :
    (tryStatements query timeout index statements).Travels
      (((statements.zipIdx index).flatMap (statementPlan timeout query)).map
        Step.effect) := by
  induction statements generalizing index with
  | nil => exact .pure ()
  | cons statement statements induction =>
      rw [List.zipIdx_cons, List.flatMap_cons, List.map_append, statementPlan,
        List.map_append, List.append_assoc]
      refine (Procedure.Travels.lift (Program.asks_limit timeout)).bind fun _ => ?_
      exact (Procedure.Travels.rewording (Program.asks_send timeout statement)
        (queryFailed query index)).bind fun _ => induction (index + 1)

theorem travels_tryQueries (timeout : Timeout) (queries : List Query) :
    (tryQueries timeout queries).Travels
      ((queriesPlan timeout queries).map Step.effect) := by
  induction queries with
  | nil => exact .pure ()
  | cons query queries induction =>
      by_cases view : definesView query = true
      · have passedOver := (Procedure.Travels.tell .information .precheck
          ("Precheck: Q" ++ toString query.id ++ " defines a view, skipped")).bind
            fun _ => induction
        simpa [tryQueries, queriesPlan, view] using passedOver
      · have tried := (travels_tryStatements timeout query 0 query.statements).bind
          fun _ => induction
        simpa [tryQueries, queriesPlan, view, tryPlan] using tried

theorem staysOn_tryAndDrop (timeout : Timeout) (queries : List Query) :
    (tryAndDrop timeout queries).outcome.StaysOn
      ((queriesPlan timeout queries ++ dropPlan).map Step.effect) := by
  rw [List.map_append]
  refine (travels_tryQueries timeout queries).staysOn.bind fun tried => ?_
  rw [← List.append_nil (dropPlan.map _)]
  cases tried with
  | error fault =>
      refine travels_dropAll.staysOn.bind fun cleared => ?_
      cases cleared with
      | ok _ => exact (Program.Asks.pure _).staysOn
      | error dropping =>
          exact ((Program.Asks.tell _ _ _).bind fun _ => .pure _).staysOn
  | ok _ =>
      refine travels_dropAll.staysOn.bind fun cleared => ?_
      cases cleared with
      | ok _ => exact ((Program.Asks.tell _ _ _).bind fun _ => .pure _).staysOn
      | error dropping => exact (Program.Asks.pure _).staysOn

/-- A precheck sends statements of its whole plan alone, in their order. -/
theorem staysOn_run (catalog : Catalog) (ids : List Nat) (timeout : Timeout) :
    (run catalog ids timeout).outcome.StaysOn
      ((wholePlan timeout (ids.filterMap catalog.get?)).map Step.effect) := by
  unfold run Catalog.resolve
  split
  · rw [wholePlan, List.append_assoc, List.map_append]
    refine (travels_install.staysOn).bind fun installed => ?_
    cases installed with
    | ok _ => exact staysOn_tryAndDrop timeout _
    | error fault =>
        by_cases disabled : isUnsupported fault = true
        · simp only [disabled, if_true]
          exact (((Program.Asks.tell _ _ _).bind fun _ => .pure _).staysOn).mono
            (List.nil_sublist _)
        · simp only [disabled]
          exact ((Program.Asks.pure _).staysOn).mono (List.nil_sublist _)
  · exact ((Program.Asks.pure _).staysOn).mono (List.nil_sublist _)

end Precheck

/-! ### The timed batch -/

namespace Batch

theorem travels_countFrom (timeout : Timeout) (total : Nat) (statements : List String) :
    (countFrom timeout total statements).Travels
      ((statements.map (countStep timeout)).map Step.effect) := by
  induction statements generalizing total with
  | nil => exact .pure total
  | cons statement statements induction =>
      rw [countFrom_cons, List.map_cons, List.map_cons, countStep, Call.hinted]
      split
      · exact (Procedure.Travels.of_asks (.request (.countRows _))).bind
          fun count => induction (total + count)
      · exact (Procedure.Travels.of_asks (.request (.execute _))).bind
          fun _ => induction total

/-- The time limit of a query and then its statements. -/
def queryPlan (timeout : Timeout) (query : Query) : List Step :=
  limitPlan timeout ++ countPlan timeout query

theorem staysOn_runQuery (options : Options) (query : Query) :
    (runQuery options query).StaysOn ((queryPlan options.timeout query).map Step.effect) := by
  rw [queryPlan, List.map_append]
  refine (Program.asks_limit options.timeout).staysOn.bind fun _ => ?_
  refine (asks_startWatch query.id options.watched).staysOn.bind fun watch => ?_
  refine asks_now.staysOn.bind fun start => ?_
  rw [← List.append_nil (List.map _ _)]
  refine (travels_countFrom options.timeout 0 query.statements).staysOn.bind
    fun outcome => ?_
  refine asks_now.staysOn.bind fun stop => ?_
  refine (asks_stopWatch start stop watch).staysOn.bind fun memory => ?_
  exact (Program.Asks.pure _).staysOn

theorem staysOn_runQueries (options : Options) (queries : List Query) :
    (runQueries options queries).StaysOn
      ((queries.flatMap (queryPlan options.timeout)).map Step.effect) := by
  induction queries with
  | nil => exact (Program.Asks.pure []).staysOn
  | cons query queries induction =>
      rw [List.flatMap_cons, List.map_append]
      refine (staysOn_runQuery options query).bind fun result => ?_
      refine (asks_tellResult result).staysOn.bind fun _ => ?_
      rw [← List.append_nil (List.map _ _)]
      exact induction.bind fun results => (Program.Asks.pure _).staysOn

/-- A batch sends the time limits and the statements of its queries alone, in
their order. -/
theorem staysOn_run (catalog : Catalog) (options : Options) (ids : List Nat) :
    (run catalog options ids).outcome.StaysOn
      (((ids.filterMap catalog.get?).flatMap (queryPlan options.timeout)).map
        Step.effect) := by
  unfold run Catalog.resolve
  split
  · refine Procedure.staysOn_bind (Procedure.Travels.tell _ _ _).staysOn fun _ => ?_
    exact Procedure.staysOn_lift (staysOn_runQueries options _)
  · exact ((Program.Asks.pure _).staysOn).mono (List.nil_sublist _)

end Batch

/-! ### The precheck and the batch -/

namespace Command

variable {catalog : Catalog} {options : RunOptions}

theorem runQueries_of_precheck (precheck : options.precheck = true) :
    runQueries catalog options =
      Precheck.run catalog options.ids options.timeout >>= fun _ =>
        Batch.run catalog ⟨options.timeout, options.watched⟩ options.ids := by
  simp only [runQueries, precheck, if_true]

theorem runQueries_of_unchecked (unchecked : options.precheck = false) :
    runQueries catalog options =
      Batch.run catalog ⟨options.timeout, options.watched⟩ options.ids := by
  simp only [runQueries, unchecked]
  rfl

/-- Queries send statements alone. -/
theorem exists_staysOn_runQueries (catalog : Catalog) (options : RunOptions) :
    ∃ plan : List Step,
      (runQueries catalog options).outcome.StaysOn (plan.map Step.effect) := by
  have timed := Batch.staysOn_run catalog ⟨options.timeout, options.watched⟩ options.ids
  cases precheck : options.precheck with
  | false =>
      rw [runQueries_of_unchecked precheck]
      exact ⟨_, timed⟩
  | true =>
      have tried := Precheck.staysOn_run catalog options.ids options.timeout
      have both := Procedure.staysOn_bind tried fun _ => timed
      rw [← List.map_append] at both
      rw [runQueries_of_precheck precheck]
      exact ⟨_, both⟩

end Command

end DecisionBench
