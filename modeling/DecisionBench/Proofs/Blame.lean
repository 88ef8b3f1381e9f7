import DecisionBench.Connection.Driver
import DecisionBench.Invocation
import DecisionBench.Proofs.Forecast
import DecisionBench.Proofs.Planning

/-!
# Faults of the configuration come first

Whatever goes wrong while a checked plan is carried out is no fault of the
configuration (`Procedure.Spares`, `Plan.spares_perform`).  A run that ends with such a
fault has therefore stopped while it was planned, and has touched nothing
(`configuration_faults_touch_nothing`).
-/

namespace DecisionBench

open Procedure

/-- The fault is about something else than the configuration. -/
def Fault.isElsewhere (fault : Fault) : Bool :=
  fault.kind != .configuration

/-- The request is not one to close the session that was answered with a fault of
the configuration. -/
def Event.ClosesFairly (event : Event) : Prop :=
  ∀ fault, event = ⟨.closeSession, .error fault⟩ → fault.isElsewhere = true

namespace Procedure

variable {α β : Type} {procedure : Procedure α}

/-- No run ends with a fault of the configuration, unless the session reports one
when it is closed. -/
def Spares (procedure : Procedure α) : Prop :=
  ∀ events fault, procedure.outcome.Runs events (.error fault) →
    (∀ event ∈ events, event.ClosesFairly) → fault.isElsewhere = true

namespace Spares

theorem pure (value : α) : (Pure.pure value : Procedure α).Spares := by
  intro events fault run _
  obtain ⟨-, impossible⟩ := Procedure.runs_pure_iff.mp run
  cases impossible

theorem throw {fault : Fault} (other : fault.isElsewhere = true) :
    (throw fault : Procedure α).Spares := by
  intro events told run _
  obtain ⟨-, same⟩ := Program.runs_done_iff.mp run
  cases same
  exact other

theorem bind {next : α → Procedure β} (spares : procedure.Spares)
    (further : ∀ value, (next value).Spares) : (procedure >>= next).Spares := by
  intro events fault run fairly
  rcases runs_bind_iff.mp run with
    ⟨told, firstRun, same⟩ | ⟨first, value, later, rfl, firstRun, laterRun⟩
  · cases same
    exact spares events fault firstRun fairly
  · exact further value later fault laterRun fun event member =>
      fairly event (List.mem_append_right first member)

theorem lift (program : Program α) : (liftM program : Procedure α).Spares := by
  intro events fault run _
  obtain ⟨value, impossible, -⟩ := runs_lift_iff.mp run
  cases impossible

theorem rewording (program : Program (Except Fault α)) {words : String → Fault}
    (other : ∀ text, (words text).isElsewhere = true) :
    (Procedure.rewording program words).Spares := by
  intro events fault run _
  obtain ⟨told, -, ended⟩ := runs_rewording_iff.mp run
  cases told with
  | ok value => cases ended
  | error original =>
      cases ended
      exact other original.message

theorem orFault (program : Program (Except String α)) {words : String → Fault}
    (other : ∀ text, (words text).isElsewhere = true) :
    (Procedure.orFault program words).Spares := by
  intro events fault run _
  obtain ⟨told, -, ended⟩ := runs_orFault_iff.mp run
  cases told with
  | ok value => cases ended
  | error text =>
      cases ended
      exact other text

theorem ofOutcome {outcome : Except Fault α} {value : α} (passes : outcome = .ok value) :
    (Procedure.ofOutcome outcome).Spares := by
  subst passes
  exact .pure value

/-- Behind a program that cannot fail. -/
theorem after (program : Program β) {next : β → Program (Except Fault α)}
    (further : ∀ value, (ofProgram (next value)).Spares) :
    (ofProgram (program >>= next)).Spares := by
  intro events fault run fairly
  obtain ⟨first, value, later, rfl, -, laterRun⟩ := Program.runs_bind_iff.mp run
  exact further value later fault laterRun fun event member =>
    fairly event (List.mem_append_right first member)

/-- Behind a procedure whose fault, if it has one, is still at hand. -/
theorem afterOutcome {next : Except Fault α → Program (Except Fault β)}
    (spares : procedure.Spares)
    (succeeded : ∀ value, (ofProgram (next (.ok value))).Spares)
    (failed : ∀ fault, fault.isElsewhere = true →
      (ofProgram (next (.error fault))).Spares) :
    (ofProgram (procedure.outcome >>= next)).Spares := by
  intro events fault run fairly
  obtain ⟨first, outcome, later, rfl, firstRun, laterRun⟩ := Program.runs_bind_iff.mp run
  have fairlyLater : ∀ event ∈ later, event.ClosesFairly := fun event member =>
    fairly event (List.mem_append_right first member)
  cases outcome with
  | ok value => exact succeeded value later fault laterRun fairlyLater
  | error told =>
      have other := spares first told firstRun fun event member =>
        fairly event (List.mem_append_left later member)
      exact failed told other later fault laterRun fairlyLater

end Spares

end Procedure

theorem Opening.spares_attempt (address : Address) (left number delay : Nat) :
    (ofProgram (attempt address left number delay)).Spares := by
  have prepares : (ofProgram prepare.outcome).Spares :=
    Spares.bind (.rewording _ fun _ => rfl) fun _ => .pure ()
  -- By induction on the attempts that are left; the last one is not repeated.
  induction left generalizing number delay with
  | zero =>
      rw [attempt]
      refine Spares.after _ fun _ => Spares.after _ fun reply => ?_
      cases reply with
      | ok _ => exact .after _ fun _ => prepares
      | error refusal => exact .throw rfl
  | succ left induction =>
      rw [attempt]
      refine Spares.after _ fun _ => Spares.after _ fun reply => ?_
      cases reply with
      | ok _ => exact .after _ fun _ => prepares
      | error refusal =>
          dsimp only
          split
          · exact .after _ fun _ => .after _ fun _ => induction (number + 1) (2 * delay)
          · exact .throw rfl

theorem Opening.spares_run (address : Address) : (Opening.run address).Spares :=
  (Spares.lift _).bind fun _ => (spares_attempt _ _ _ _).bind fun _ => .pure _

theorem Script.spares_sendAll (statements : List String) :
    (sendAll statements).Spares := by
  induction statements with
  | nil => exact .pure ()
  | cons statement statements induction =>
      exact (Spares.lift _).bind fun _ =>
        (Spares.rewording _ fun _ => rfl).bind fun _ => induction

theorem Schema.spares_create : Schema.create.Spares := by
  have sends : (Script.run Schema.script).Spares := Script.spares_sendAll _
  exact sends.bind fun _ => .lift _

theorem Generator.spares_run {request : GeneratorRequest}
    (valid : request.validate = .ok ()) : (Generator.run request).Spares := by
  -- The request is checked once more, and passes again.
  refine (Spares.ofOutcome valid).bind fun _ => ?_
  refine (Spares.orFault _ fun _ => rfl).bind fun _ => ?_
  refine (Spares.lift _).bind fun _ => (Spares.lift _).bind fun start => ?_
  refine (Spares.orFault _ fun _ => rfl).bind fun finished => ?_
  refine (Spares.lift _).bind fun _ => ?_
  split
  · exact (Spares.lift _).bind fun _ => .lift _
  · exact .throw rfl

namespace Load

theorem spares_dataFiles (directory : String) (tables : List Table) :
    (dataFiles directory tables).Spares := by
  induction tables with
  | nil => exact .pure []
  | cons table tables induction =>
      have found : (dataFile directory table).Spares := by
        refine (Spares.lift _).bind fun found => ?_
        split
        · exact .orFault _ fun _ => rfl
        · exact .throw rfl
      exact found.bind fun _ => induction.bind fun _ => .pure _

theorem spares_truncateTables (tables : List Table) : (truncateTables tables).Spares := by
  induction tables with
  | nil => exact .pure ()
  | cons table tables induction =>
      exact (Spares.rewording _ fun _ => rfl).bind fun _ => induction

theorem spares_loadFiles (options : LoadOptions) (files : List (Table × String)) :
    (loadFiles options files).Spares := by
  induction files with
  | nil => exact .pure ()
  | cons file files induction =>
      obtain ⟨table, path⟩ := file
      refine (Spares.lift _).bind fun start => ?_
      refine (Spares.rewording _ fun _ => rfl).bind fun rows => ?_
      exact (Spares.lift _).bind fun stop => (Spares.lift _).bind fun _ => induction

theorem spares_run (options : LoadOptions) : (run options).Spares := by
  refine (spares_dataFiles options.directory options.tables).bind fun files => ?_
  split
  · exact (spares_truncateTables _).bind fun _ => spares_loadFiles options files
  · exact (Spares.pure ()).bind fun _ => spares_loadFiles options files

end Load

namespace Precheck

theorem spares_dropTables (tables : List Table) : (dropTables tables).Spares := by
  induction tables with
  | nil => exact .pure ()
  | cons table tables induction =>
      exact (Spares.rewording _ fun _ => rfl).bind fun _ => induction

theorem spares_defineAll (definitions : List String) :
    (defineAll definitions).Spares := by
  induction definitions with
  | nil => exact .pure ()
  | cons definition definitions induction =>
      exact (Spares.rewording _ fun _ => rfl).bind fun _ => induction

theorem spares_install : install.Spares :=
  Spares.bind (spares_dropTables Table.all) fun _ => spares_defineAll definitions

theorem spares_tryStatements (query : Query) (timeout : Timeout) (index : Nat)
    (statements : List String) :
    (tryStatements query timeout index statements).Spares := by
  induction statements generalizing index with
  | nil => exact .pure ()
  | cons statement statements induction =>
      refine (Spares.lift _).bind fun _ => ?_
      exact (Spares.rewording _ fun _ => rfl).bind fun _ => induction (index + 1)

theorem spares_tryQueries (timeout : Timeout) (queries : List Query) :
    (tryQueries timeout queries).Spares := by
  induction queries with
  | nil => exact .pure ()
  | cons query queries induction =>
      unfold tryQueries
      split
      · exact (Spares.lift _).bind fun _ => induction
      · exact (spares_tryStatements query timeout 0 query.statements).bind
          fun _ => induction

theorem spares_tryAndDrop (timeout : Timeout) (queries : List Query) :
    (tryAndDrop timeout queries).Spares := by
  have drops : dropAll.Spares := spares_dropTables Table.all
  refine Spares.afterOutcome (spares_tryQueries timeout queries) (fun _ => ?_)
    fun fault other => ?_
  · refine Spares.afterOutcome drops (fun _ => ?_) fun dropping other => ?_
    · exact .after _ fun _ => .pure _
    · exact .throw other
  · -- A query failed; that is told, even if dropping the tables fails too.
    refine Spares.afterOutcome drops (fun _ => ?_) fun dropping _ => ?_
    · exact .throw other
    · exact .after _ fun _ => .throw other

theorem spares_run {catalog : Catalog} {ids : List Nat} (knows : catalog.Knows ids)
    (timeout : Timeout) : (run catalog ids timeout).Spares := by
  obtain ⟨queries, resolved⟩ := knows
  refine (Spares.ofOutcome resolved).bind fun queries => ?_
  refine Spares.afterOutcome spares_install (fun _ => ?_) fun fault other => ?_
  · exact spares_tryAndDrop timeout queries
  · dsimp only
    split
    · exact .after _ fun _ => .pure _
    · exact .throw other

end Precheck

theorem Batch.spares_run {catalog : Catalog} {options : Options} {ids : List Nat}
    (knows : catalog.Knows ids) : (run catalog options ids).Spares := by
  obtain ⟨queries, resolved⟩ := knows
  exact (Spares.ofOutcome resolved).bind fun _ => (Spares.lift _).bind fun _ => .lift _

namespace Command

theorem spares_runQueries {catalog : Catalog} {options : RunOptions}
    (knows : catalog.Knows options.ids) : (runQueries catalog options).Spares := by
  have timed : (Batch.run catalog ⟨options.timeout, options.watched⟩ options.ids).Spares :=
    Batch.spares_run knows
  unfold runQueries
  split
  · exact (Precheck.spares_run knows options.timeout).bind fun _ => timed
  · exact timed

theorem spares_setup {request : GeneratorRequest} (valid : request.validate = .ok ())
    (load : LoadOptions) : (setup request load).Spares := by
  refine (Spares.lift _).bind fun _ => Schema.spares_create.bind fun _ => ?_
  refine (Spares.lift _).bind fun _ => (Generator.spares_run valid).bind fun _ => ?_
  exact (Spares.lift _).bind fun _ => Load.spares_run load

theorem spares_onSession {α : Type} {work : Procedure α} (spares : work.Spares) :
    (onSession work).Spares := by
  refine Spares.afterOutcome spares (fun value => ?_) fun fault other => ?_
  · -- The work went well: a fault is the one that closing the session ends with.
    intro events told run fairly
    obtain ⟨closed, later, rfl, laterRun⟩ := Program.runs_ask_iff.mp run
    cases closed with
    | ok _ =>
        obtain ⟨-, impossible⟩ := Program.runs_done_iff.mp laterRun
        cases impossible
    | error unclosed =>
        obtain ⟨-, same⟩ := Program.runs_done_iff.mp laterRun
        cases same
        exact fairly _ List.mem_cons_self told rfl
  · -- The fault of the work is told, whatever comes of closing.
    refine Spares.after (Program.request .closeSession) fun closed => ?_
    cases closed with
    | ok _ => exact .throw other
    | error closing => exact .after _ fun _ => .throw other

theorem spares_finishReport (results : List QueryResult) (output : Option String) :
    (finishReport results output).Spares := by
  have writes : (Report.write results output).Spares := by
    cases output with
    | some path => exact .orFault _ fun _ => rfl
    | none => exact .orFault _ fun _ => rfl
  refine (Spares.lift _).bind fun _ => writes.bind fun _ => ?_
  cases output with
  | some path => exact .lift _
  | none => exact .pure ()

theorem spares_onServer (address : Address) {command : Procedure Unit}
    (spares : command.Spares) : (onServer address command).Spares :=
  (Opening.spares_run address).bind fun _ => spares

end Command

/-- What was checked is carried out without another fault of the configuration. -/
theorem Plan.spares_perform {catalog : Catalog} {plan : Plan}
    (checked : plan.Checked catalog) : (plan.perform catalog).Spares := by
  cases plan with
  | schema address =>
      exact Command.spares_onServer address (Command.spares_onSession Schema.spares_create)
  | gen request => exact Generator.spares_run checked
  | load address load =>
      exact Command.spares_onServer address (Command.spares_onSession (Load.spares_run load))
  | run address options =>
      have works := Command.spares_onSession (Command.spares_runQueries checked)
      exact Command.spares_onServer address
        (works.bind fun _ => Command.spares_finishReport _ options.output)
  | all address request load =>
      exact Command.spares_onServer address
        (Command.spares_onSession (Command.spares_setup checked load))
  | bench address request load options =>
      obtain ⟨valid, knows⟩ := checked
      refine Command.spares_onServer address ?_
      refine Spares.bind (Command.spares_onSession ?_) fun _ =>
        Command.spares_finishReport _ options.output
      refine (Command.spares_setup valid load).bind fun _ => ?_
      exact (Spares.lift _).bind fun _ => Command.spares_runQueries knows

/-! ### A whole run -/

/-- A driver closes its session without blaming the configuration. -/
theorem Driver.closesFairly_of_mem {σ α : Type} (driver : Driver σ) (program : Program α)
    (state : σ × Bool) :
    ∀ event ∈ (program.play driver.environment state).events, event.ClosesFairly := by
  rintro event member fault rfl
  obtain ⟨⟨world, connected⟩, replied⟩ :=
    Program.reply_of_mem_play driver.environment program state _ member
  cases connected with
  | false => cases replied
  | true =>
      change Except.error fault = (driver.close world).1.mapError unclosed at replied
      cases told : (driver.close world).1 with
      | ok _ =>
          rw [told] at replied
          cases replied
      | error text =>
          rw [told] at replied
          cases replied
          rfl

/-- A fault of the configuration ends the procedure before it does more than enquire. -/
def Procedure.BlamesEarly {α : Type} (procedure : Procedure α) : Prop :=
  ∀ events fault, procedure.outcome.Runs events (.error fault) →
    (∀ event ∈ events, event.ClosesFairly) → fault.kind = .configuration →
    ∀ event ∈ events, event.effect.isEnquiry = true

namespace Procedure.BlamesEarly

variable {α β : Type} {procedure : Procedure α}

theorem of_spares (spares : procedure.Spares) : procedure.BlamesEarly := by
  intro events fault run fairly blamed
  have other := spares events fault run fairly
  simp [Fault.isElsewhere, blamed] at other

theorem bind {kind : α → Prop} {next : α → Procedure β}
    (enquires : procedure.KeepsTo Effect.isEnquiry) (yields : procedure.Yields kind)
    (further : ∀ value, kind value → (next value).BlamesEarly) :
    (procedure >>= next).BlamesEarly := by
  intro events fault run fairly blamed event member
  rcases runs_bind_iff.mp run with
    ⟨told, firstRun, same⟩ | ⟨first, value, later, rfl, firstRun, laterRun⟩
  · exact enquires.of_mem firstRun event member
  · rcases List.mem_append.mp member with here | there
    · exact enquires.of_mem firstRun event here
    · exact further value (yields first value firstRun) later fault laterRun
        (fun event member => fairly event (List.mem_append_right first member))
        blamed event there

end Procedure.BlamesEarly

theorem Job.blamesEarly_perform (catalog : Catalog) (config : Config)
    (lookup? : String → Option String) (job : Job) :
    (job.perform catalog config lookup?).BlamesEarly :=
  .bind (job.enquires_plan catalog config lookup?) (job.yields_plan catalog config lookup?)
    fun _ checked => .of_spares (Plan.spares_perform checked)

namespace Invocation

theorem blamesEarly_perform (known : Variables) (commandLine : CommandLine) :
    (perform known commandLine).BlamesEarly := by
  refine .bind (.lift (.request rfl)) (.anything _) fun _ _ => ?_
  refine .bind (Config.enquires_load _) (.anything _) fun config _ => ?_
  exact commandLine.job.blamesEarly_perform Catalog.benchmark config known.get?

/-- A run that ends with a fault of the configuration has only enquired: it has
opened no session, sent no statement, started no generator, made no directory and
written no report.  What is planned passes the checks that are made again later, and
carrying it out ends with no fault of the configuration. -/
theorem configuration_faults_touch_nothing {σ : Type} (driver : Driver σ)
    (state : σ × Bool) (known : Variables) (commandLine : CommandLine) :
    let played := (perform known commandLine).outcome.play driver.environment state
    (∀ fault, played.value = .error fault → fault.kind = .configuration →
        ∀ event ∈ played.events, event.effect.isEnquiry = true) ∧
      ∀ config events plan,
        (commandLine.job.plan Catalog.benchmark config known.get?).outcome.Runs events
          (.ok plan) →
        plan.Checked Catalog.benchmark ∧
          ∀ later fault, ((plan.perform Catalog.benchmark).outcome.play
            driver.environment later).value = .error fault →
              fault.kind ≠ .configuration := by
  intro played
  constructor
  · intro fault ended blamed
    have running : (perform known commandLine).outcome.Runs played.events played.value :=
      Program.runs_play driver.environment _ state
    rw [ended] at running
    exact blamesEarly_perform known commandLine played.events fault running
      (driver.closesFairly_of_mem _ state) blamed
  · intro config events plan planned
    have checked : plan.Checked Catalog.benchmark :=
      commandLine.job.yields_plan Catalog.benchmark config known.get? events plan planned
    refine ⟨checked, fun later fault ended blamed => ?_⟩
    have running := Program.runs_play driver.environment
      (plan.perform Catalog.benchmark).outcome later
    rw [ended] at running
    have other := Plan.spares_perform checked _ fault running
      (driver.closesFairly_of_mem _ later)
    simp [Fault.isElsewhere, blamed] at other

/-- A query that the benchmark does not have ends the run with a fault of the
configuration, behind an entry in the journal and a look for the file. -/
theorem unknown_query_touches_nothing :
    let driver : Driver Unit :=
      ⟨fun _ _ => (.ok 0, ()), fun _ _ => (.ok 0, ()), fun _ => (.ok (), ()),
        .answering fun _ => .ok 0⟩
    let job : Job := .run ⟨none, none, .unset⟩ (.listed ["99"]) ⟨0, true, none, none⟩
    let played := (perform ⟨[]⟩ ⟨some "bench.toml", job⟩).outcome.play
      driver.environment ((), false)
    played.value = .error (.unknownQueries [99]) ∧
      (∀ event ∈ played.events, event.effect.isEnquiry = true) ∧
      played.events.length = 2 := by
  intro driver job played
  have ended : played.value = .error (.unknownQueries [99]) := by rfl
  obtain ⟨early, -⟩ := configuration_faults_touch_nothing driver ((), false) ⟨[]⟩
    ⟨some "bench.toml", job⟩
  exact ⟨ended, early _ ended rfl, by rfl⟩

end Invocation

end DecisionBench
