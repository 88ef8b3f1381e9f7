import DecisionBench.Proofs.Route

/-!
# The stages of a benchmark

A benchmark has seven stages: the schema, the generator, the search for the data
files, emptying the tables, loading them, the precheck and the timed queries.
`InTurn` says that a run went through some stages in their order: each stage
began when the one before it had fully succeeded, and the first fault ended the
run.  On the way every stage kept to its itinerary (`Leg`).

The work of each command runs through its stages in turn (`performs_benchWork`
and the statements before it).
-/

namespace DecisionBench

/-- Whether a request has its place behind the work of a command: it closes the
session or delivers the report. -/
def Effect.isConclusion : Effect → Bool
  | .closeSession | .writeFile _ _ | .print _ => true
  | _ => false

theorem Effect.isOutward_of_isConclusion (effect : Effect)
    (conclusion : effect.isConclusion = true) : effect.isOutward = true := by
  cases effect with
  | closeSession | writeFile _ _ | print _ => rfl
  | _ => cases conclusion

theorem isConclusion_of_mem_map_effect (plan : List Step) :
    ∀ effect ∈ plan.map Step.effect, effect.isConclusion = false := by
  intro effect member
  obtain ⟨step, -, rfl⟩ := List.mem_map.mp member
  unfold Step.effect
  cases step.call <;> rfl

namespace Command

/-- What a benchmark is asked to do. -/
structure Task where
  catalog : Catalog
  request : GeneratorRequest
  load : LoadOptions
  options : RunOptions

inductive Stage where
  | schema
  | generation
  | files
  | truncation
  | loading
  | precheck
  | timing
  deriving DecidableEq, Repr

/-- What stages hand on: the data files that were found and the results of the
queries. -/
structure Handed where
  files : List (Table × String)
  results : List QueryResult

def Handed.nothing : Handed := ⟨[], []⟩

namespace Stage

/-- Finding the data files, emptying the tables and loading them. -/
def load : List Stage := [.files, .truncation, .loading]

def setup : List Stage := [.schema, .generation] ++ load

def queries : List Stage := [.precheck, .timing]

def all : List Stage := setup ++ queries

/-- A stage ran with these events and ended so.  A stage that was not asked for
has nothing to do. -/
inductive Ran (task : Task) (handed : Handed) :
    Stage → List Event → Except Fault Handed → Prop where
  | schema {events : List Event} {ended : Except Fault Unit} :
      Schema.create.outcome.Runs events ended →
      Ran task handed .schema events (ended.map fun _ => handed)
  | generation {events : List Event} {ended : Except Fault Unit} :
      (Generator.run task.request).outcome.Runs events ended →
      Ran task handed .generation events (ended.map fun _ => handed)
  | files {events : List Event} {ended : Except Fault (List (Table × String))} :
      (Load.dataFiles task.load.directory task.load.tables).outcome.Runs events ended →
      Ran task handed .files events (ended.map fun files => { handed with files })
  | kept : task.load.truncate = false → Ran task handed .truncation [] (.ok handed)
  | truncation {events : List Event} {ended : Except Fault Unit} :
      task.load.truncate = true →
      (Load.truncateTables task.load.tables).outcome.Runs events ended →
      Ran task handed .truncation events (ended.map fun _ => handed)
  | loading {events : List Event} {ended : Except Fault Unit} :
      (Load.loadFiles task.load handed.files).outcome.Runs events ended →
      Ran task handed .loading events (ended.map fun _ => handed)
  | unchecked : task.options.precheck = false →
      Ran task handed .precheck [] (.ok handed)
  | precheck {events : List Event} {ended : Except Fault Precheck.Verdict} :
      task.options.precheck = true →
      (Precheck.run task.catalog task.options.ids task.options.timeout).outcome.Runs
        events ended →
      Ran task handed .precheck events (ended.map fun _ => handed)
  | timing {events : List Event} {ended : Except Fault (List QueryResult)} :
      (Batch.run task.catalog ⟨task.options.timeout, task.options.watched⟩
        task.options.ids).outcome.Runs events ended →
      Ran task handed .timing events (ended.map fun results => { handed with results })

/-- What a stage asks of the world if nothing fails. -/
def route (task : Task) (handed : Handed) : Stage → List Effect
  | .schema => (Script.statements Schema.script).map .execute
  | .generation =>
      [.makeDirectories task.request.outputDirectory,
        .spawn task.request.command task.request.arguments]
  | .files => task.load.tables.flatMap (Load.fileRoute task.load.directory)
  | .truncation =>
      if task.load.truncate then
        task.load.tables.map fun table => .execute (Load.truncateStatement table)
      else []
  | .loading =>
      handed.files.map fun file => .execute (Load.statement file.1 file.2 task.load)
  | .precheck =>
      if task.options.precheck then
        (Precheck.wholePlan task.options.timeout
          (task.options.ids.filterMap task.catalog.get?)).map Step.effect
      else []
  | .timing =>
      ((task.options.ids.filterMap task.catalog.get?).flatMap
        (Batch.queryPlan task.options.timeout)).map Step.effect

end Stage

/-- A stage that ran and kept to its itinerary.  A stage of the setup stops at its
first fault; one that passed made all the requests of its itinerary, and none of
them failed. -/
structure Leg (task : Task) (stage : Stage) (handed : Handed) (events : List Event)
    (outcome : Except Fault Handed) : Prop where
  ran : stage.Ran task handed events outcome
  keeps : (requests events).Sublist (stage.route task handed)
  goes : stage ∈ Stage.setup →
    requests events <+: stage.route task handed ∧
      ∀ next, outcome = .ok next →
        requests events = stage.route task handed ∧
          ∀ event ∈ events, event.failed = false

/-- Stages ran one after the other, each from what the one before it handed on,
up to the first that failed.  Entries in the journal may stand between them. -/
inductive InTurn (task : Task) :
    List Stage → Handed → List Event → Except Fault Handed → Prop where
  | done (handed : Handed) : InTurn task [] handed [] (.ok handed)
  | noted {stages : List Stage} {handed : Handed} {events : List Event}
      {outcome : Except Fault Handed} (entry : Journal.Entry) :
      InTurn task stages handed events outcome →
      InTurn task stages handed (⟨.note entry, ()⟩ :: events) outcome
  | passed {stage : Stage} {rest : List Stage} {handed next : Handed}
      {first later : List Event} {outcome : Except Fault Handed} :
      Leg task stage handed first (.ok next) →
      InTurn task rest next later outcome →
      InTurn task (stage :: rest) handed (first ++ later) outcome
  | stopped {stage : Stage} {rest : List Stage} {handed : Handed}
      {events : List Event} {fault : Fault} :
      Leg task stage handed events (.error fault) →
      InTurn task (stage :: rest) handed events (.error fault)

namespace InTurn

variable {task : Task} {stages rest : List Stage} {handed next : Handed}
  {events later : List Event} {outcome : Except Fault Handed} {fault : Fault}

theorem append (passed : InTurn task stages handed events (.ok next))
    (further : InTurn task rest next later outcome) :
    InTurn task (stages ++ rest) handed (events ++ later) outcome := by
  generalize ended : (Except.ok next : Except Fault Handed) = finished at passed
  induction passed with
  | done handed =>
      cases ended
      exact further
  | noted entry _ induction => exact .noted entry (induction ended)
  | passed leg _ induction =>
      rw [List.append_assoc]
      exact .passed leg (induction ended)
  | stopped => cases ended

theorem append_of_error (stopped : InTurn task stages handed events (.error fault))
    (rest : List Stage) :
    InTurn task (stages ++ rest) handed events (.error fault) := by
  generalize ended : (Except.error fault : Except Fault Handed) = finished at stopped
  induction stopped with
  | done => cases ended
  | noted entry _ induction => exact .noted entry (induction ended)
  | passed leg _ induction => exact .passed leg (induction ended)
  | stopped leg =>
      cases ended
      exact .stopped leg

end InTurn

/-! ### No stage concludes a command -/

theorem Stage.isConclusion_route (task : Task) (handed : Handed) (stage : Stage) :
    ∀ effect ∈ stage.route task handed, effect.isConclusion = false := by
  cases stage with
  | schema => simp [route, Effect.isConclusion]
  | generation => simp [route, Effect.isConclusion]
  | files =>
      intro effect member
      obtain ⟨table, -, looked⟩ := List.mem_flatMap.mp member
      rcases List.mem_pair.mp looked with rfl | rfl <;> rfl
  | truncation =>
      by_cases truncate : task.load.truncate = true <;>
        simp [route, truncate, Effect.isConclusion]
  | loading =>
      intro effect member
      obtain ⟨file, -, rfl⟩ := List.mem_map.mp member
      rfl
  | precheck =>
      by_cases precheck : task.options.precheck = true
      · simpa [route, precheck] using isConclusion_of_mem_map_effect _
      · simp [route, precheck]
  | timing => exact isConclusion_of_mem_map_effect _

theorem Leg.isConclusion_of_mem {task : Task} {stage : Stage} {handed : Handed}
    {events : List Event} {outcome : Except Fault Handed}
    (leg : Leg task stage handed events outcome) :
    ∀ event ∈ events, event.effect.isConclusion = false :=
  eq_false_of_sublist Effect.isOutward_of_isConclusion leg.keeps
    (stage.isConclusion_route task handed)

theorem InTurn.isConclusion_of_mem {task : Task} {stages : List Stage}
    {handed : Handed} {events : List Event} {outcome : Except Fault Handed}
    (inTurn : InTurn task stages handed events outcome) :
    ∀ event ∈ events, event.effect.isConclusion = false := by
  induction inTurn with
  | done => simp
  | noted entry _ induction =>
      intro event member
      rcases List.mem_cons.mp member with rfl | later
      · rfl
      · exact induction event later
  | passed leg _ induction =>
      intro event member
      rcases List.mem_append.mp member with first | later
      · exact leg.isConclusion_of_mem event first
      · exact induction event later
  | stopped leg => exact leg.isConclusion_of_mem

/-! ### Each stage keeps to its itinerary -/

section Legs

variable {task : Task} {stage : Stage} {handed : Handed} {events : List Event}
  {α : Type} {procedure : Procedure α} {route : List Effect}
  {ended : Except Fault α} {hand : α → Handed}

theorem Leg.of_travels (ran : stage.Ran task handed events (ended.map hand))
    (travels : procedure.Travels (stage.route task handed)) (strict : procedure.Strict)
    (run : procedure.outcome.Runs events ended) :
    Leg task stage handed events (ended.map hand) := by
  obtain ⟨part, whole⟩ := travels events ended run
  refine ⟨ran, part.sublist, fun _ => ⟨part, ?_⟩⟩
  intro next passed
  cases ended with
  | ok value => exact ⟨whole value rfl, strict events value run⟩
  | error fault => cases passed

theorem Leg.of_staysOn (ran : stage.Ran task handed events (ended.map hand))
    (later : stage ∉ Stage.setup)
    (stays : procedure.outcome.StaysOn (stage.route task handed))
    (run : procedure.outcome.Runs events ended) :
    Leg task stage handed events (ended.map hand) :=
  ⟨ran, stays events ended run, fun member => (later member).elim⟩

theorem leg_of_kept (kept : task.load.truncate = false) :
    Leg task .truncation handed [] (.ok handed) := by
  have nothing : Stage.route task handed .truncation = [] := by
    simp [Stage.route, kept]
  refine ⟨.kept kept, ?_, fun _ => ⟨?_, fun _ _ => ?_⟩⟩ <;> simp [nothing]

theorem leg_of_unchecked (unchecked : task.options.precheck = false) :
    Leg task .precheck handed [] (.ok handed) :=
  ⟨.unchecked unchecked, List.nil_sublist _, fun member => by
    cases (by decide : Stage.precheck ∉ Stage.setup) member⟩

end Legs

/-! ### The work of the commands -/

/-- Every run of the procedure makes one leg of the stage, and hands its value
on. -/
def MakesLeg {α : Type} (task : Task) (stage : Stage) (handed : Handed)
    (procedure : Procedure α) (hand : α → Handed) : Prop :=
  ∀ events ended, procedure.outcome.Runs events ended →
    Leg task stage handed events (ended.map hand)

/-- Every run of the procedure goes through the stages in turn, and its value is
what came of them. -/
def Performs {α : Type} (task : Task) (stages : List Stage) (handed : Handed)
    (procedure : Procedure α) (result : Handed → α) : Prop :=
  ∀ events outcome, procedure.outcome.Runs events outcome →
    ∃ ended, InTurn task stages handed events ended ∧ outcome = ended.map result

namespace Performs

variable {α β : Type} {task : Task} {stage : Stage} {stages rest : List Stage}
  {handed : Handed} {procedure : Procedure α} {next : α → Procedure β}
  {hand : α → Handed} {result : Handed → α} {further : Handed → β}

theorem last (leg : MakesLeg task stage handed procedure hand)
    (same : ∀ value, result (hand value) = value) :
    Performs task [stage] handed procedure result := by
  intro events outcome run
  have made := leg events outcome run
  refine ⟨outcome.map hand, ?_, ?_⟩
  · cases outcome with
    | ok value =>
        have passed := InTurn.passed made (.done (hand value))
        rwa [List.append_nil] at passed
    | error fault => exact .stopped made
  · cases outcome with
    | ok value => simp [Except.map, same]
    | error fault => rfl

theorem bind (leg : MakesLeg task stage handed procedure hand)
    (performs : ∀ value, Performs task rest (hand value) (next value) further) :
    Performs task (stage :: rest) handed (procedure >>= next) further := by
  intro events outcome run
  rcases Procedure.runs_bind_iff.mp run with
    ⟨fault, firstRun, rfl⟩ | ⟨first, value, later, rfl, firstRun, laterRun⟩
  · exact ⟨.error fault, .stopped (leg events _ firstRun), rfl⟩
  · obtain ⟨ended, inTurn, told⟩ := performs value later outcome laterRun
    exact ⟨ended, .passed (leg first _ firstRun) inTurn, told⟩

theorem append (first : Performs task stages handed procedure result)
    (performs : ∀ value handed, Performs task rest handed (next value) further) :
    Performs task (stages ++ rest) handed (procedure >>= next) further := by
  intro events outcome run
  rcases Procedure.runs_bind_iff.mp run with
    ⟨fault, firstRun, rfl⟩ | ⟨begun, value, later, rfl, firstRun, laterRun⟩
  · obtain ⟨ended, inTurn, told⟩ := first events _ firstRun
    cases ended with
    | ok => cases told
    | error stop =>
        cases told
        exact ⟨.error fault, inTurn.append_of_error rest, rfl⟩
  · obtain ⟨ended, inTurn, told⟩ := first begun _ firstRun
    cases ended with
    | error => cases told
    | ok passed =>
        obtain ⟨finished, behind, told⟩ := performs value passed later outcome laterRun
        exact ⟨finished, inTurn.append behind, told⟩

theorem noted (performs : Performs task stages handed procedure result)
    (level : Journal.Level) (speaker : Journal.Speaker) (message : String) :
    Performs task stages handed
      (liftM (Journal.tell level speaker message) >>= fun _ => procedure) result := by
  intro events outcome run
  obtain ⟨note, _, later, rfl, noteRun, laterRun⟩ := Procedure.runs_lift_bind_iff.mp run
  obtain ⟨ended, inTurn, told⟩ := performs later outcome laterRun
  rw [Program.runs_request_iff.mp noteRun]
  exact ⟨ended, .noted ⟨level, speaker, message⟩ inTurn, told⟩

theorem skip (spared : Leg task stage handed [] (.ok handed))
    (performs : Performs task rest handed procedure result) :
    Performs task (stage :: rest) handed procedure result := by
  intro events outcome run
  obtain ⟨ended, inTurn, told⟩ := performs events outcome run
  exact ⟨ended, .passed spared inTurn, told⟩

end Performs

section Work

variable (task : Task) (handed : Handed)

theorem makesLeg_create :
    MakesLeg task .schema handed Schema.create fun _ => handed :=
  fun _ _ run => .of_travels (.schema run) Schema.travels_create Schema.strict_create run

theorem makesLeg_generator :
    MakesLeg task .generation handed (Generator.run task.request) fun _ => handed :=
  fun _ _ run =>
    .of_travels (.generation run) (Generator.travels_run task.request)
      (Generator.strict_run task.request) run

theorem makesLeg_dataFiles :
    MakesLeg task .files handed (Load.dataFiles task.load.directory task.load.tables)
      fun files => { handed with files } :=
  fun _ _ run =>
    .of_travels (.files run) (Load.travels_dataFiles _ _) (Load.strict_dataFiles _ _) run

theorem makesLeg_truncateTables (truncate : task.load.truncate = true) :
    MakesLeg task .truncation handed (Load.truncateTables task.load.tables)
      fun _ => handed := by
  intro events ended run
  refine .of_travels (.truncation truncate run) ?_ (Load.strict_truncateTables _) run
  simpa [Stage.route, truncate] using Load.travels_truncateTables task.load.tables

theorem makesLeg_loadFiles :
    MakesLeg task .loading handed (Load.loadFiles task.load handed.files)
      fun _ => handed :=
  fun _ _ run =>
    .of_travels (.loading run) (Load.travels_loadFiles _ _) (Load.strict_loadFiles _ _) run

theorem makesLeg_precheck (precheck : task.options.precheck = true) :
    MakesLeg task .precheck handed
      (Precheck.run task.catalog task.options.ids task.options.timeout)
      fun _ => handed := by
  intro events ended run
  refine .of_staysOn (.precheck precheck run) (by decide) ?_ run
  simpa [Stage.route, precheck] using
    Precheck.staysOn_run task.catalog task.options.ids task.options.timeout

theorem makesLeg_batch :
    MakesLeg task .timing handed
      (Batch.run task.catalog ⟨task.options.timeout, task.options.watched⟩
        task.options.ids)
      fun results => { handed with results } :=
  fun _ _ run =>
    .of_staysOn (.timing run) (by decide)
      (Batch.staysOn_run task.catalog ⟨task.options.timeout, task.options.watched⟩
        task.options.ids) run

theorem performs_create : Performs task [.schema] handed Schema.create fun _ => () :=
  .last (makesLeg_create task handed) fun _ => rfl

theorem performs_load :
    Performs task Stage.load handed (Load.run task.load) fun _ => () := by
  refine .bind (makesLeg_dataFiles task handed) fun files => ?_
  have loads : Performs task [.loading] { handed with files }
      (Load.loadFiles task.load files) fun _ => () :=
    .last (makesLeg_loadFiles task { handed with files }) fun _ => rfl
  by_cases truncate : task.load.truncate = true
  · simp only [truncate, if_true]
    exact .bind (makesLeg_truncateTables task _ truncate) fun _ => loads
  · simp only [truncate]
    exact .skip (leg_of_kept (Bool.eq_false_iff.mpr truncate)) loads

theorem performs_setup :
    Performs task Stage.setup handed (Command.setup task.request task.load)
      fun _ => () := by
  refine .noted ?_ _ _ _
  refine .bind (makesLeg_create task handed) fun _ => ?_
  refine .noted ?_ _ _ _
  refine .bind (makesLeg_generator task handed) fun _ => ?_
  exact .noted (performs_load task handed) _ _ _

theorem performs_runQueries :
    Performs task Stage.queries handed (Command.runQueries task.catalog task.options)
      Handed.results := by
  have times : Performs task [.timing] handed
      (Batch.run task.catalog ⟨task.options.timeout, task.options.watched⟩
        task.options.ids) Handed.results :=
    .last (makesLeg_batch task handed) fun _ => rfl
  cases precheck : task.options.precheck with
  | false =>
      rw [runQueries_of_unchecked precheck]
      exact .skip (leg_of_unchecked precheck) times
  | true =>
      rw [runQueries_of_precheck precheck]
      exact .bind (makesLeg_precheck task handed precheck) fun _ => times

theorem performs_benchWork :
    Performs task Stage.all handed
      (benchWork task.catalog task.request task.load task.options) Handed.results :=
  .append (performs_setup task handed) fun _ handed =>
    .noted (performs_runQueries task handed) _ _ _

end Work

end Command

end DecisionBench
