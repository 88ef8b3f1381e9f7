import DecisionBench.Job
import DecisionBench.Proofs.Scope
import DecisionBench.Proofs.Selection

/-!
# Planning

Before a job is done its configuration is read and its arguments are checked.  This
only enquires about the world (`Job.enquires_plan`), and what comes of it passes the
checks that are made again while the plan is carried out (`Job.yields_plan`).
-/

namespace DecisionBench

/-- Whether a request only enquires: it reads the clock, a status file or the
configuration file, or makes an entry in the journal. -/
def Effect.isEnquiry : Effect → Bool
  | .clock | .readStatus _ _ | .pathExists _ | .readFile _ | .note _ => true
  | _ => false

/-! ### Planning only enquires -/

open Procedure

theorem Config.enquires_load (path : String) :
    (Config.load path).KeepsTo Effect.isEnquiry := by
  refine (KeepsTo.lift (.request rfl)).bind fun found => ?_
  split
  · exact (KeepsTo.orFault (.request rfl) _).bind fun document => .ofOutcome _
  · exact .pure _

theorem Memory.enquires_check (pid : Nat) :
    (Memory.check pid).KeepsTo Effect.isEnquiry := by
  have reads : (Memory.read pid none).KeepsTo Effect.isEnquiry :=
    (Program.KeepsTo.request rfl).bind fun _ => .pure _
  exact (KeepsTo.orFault reads _).bind fun _ => .pure _

namespace RunArguments

variable (arguments : RunArguments) (catalog : Catalog)

theorem enquires_checkWatched : arguments.checkWatched.KeepsTo Effect.isEnquiry := by
  unfold checkWatched
  split
  · exact Memory.enquires_check _
  · exact .pure ()

theorem enquires_optionsFor (selection : Selection) :
    (arguments.optionsFor catalog selection).KeepsTo Effect.isEnquiry :=
  (KeepsTo.ofOutcome _).bind fun _ =>
    (enquires_checkWatched arguments).bind fun _ => .pure _

theorem enquires_optionsForAll :
    (arguments.optionsForAll catalog).KeepsTo Effect.isEnquiry :=
  (enquires_checkWatched arguments).bind fun _ => .pure _

end RunArguments

theorem Job.enquires_plan (catalog : Catalog) (config : Config)
    (lookup? : String → Option String) (job : Job) :
    (job.plan catalog config lookup?).KeepsTo Effect.isEnquiry := by
  cases job with
  | schema connection => exact (KeepsTo.ofOutcome _).bind fun _ => .pure _
  | gen generation => exact (KeepsTo.ofOutcome _).bind fun _ => .pure _
  | load connection options => exact (KeepsTo.ofOutcome _).bind fun _ => .pure _
  | run connection selection arguments =>
      exact (arguments.enquires_optionsFor catalog selection).bind fun _ =>
        (KeepsTo.ofOutcome _).bind fun _ => .pure _
  | all connection generation loading =>
      exact (KeepsTo.ofOutcome _).bind fun _ => (KeepsTo.ofOutcome _).bind fun _ =>
        (KeepsTo.ofOutcome _).bind fun _ => .pure _
  | bench connection generation loading arguments =>
      exact (KeepsTo.ofOutcome _).bind fun _ => (KeepsTo.ofOutcome _).bind fun _ =>
        (arguments.enquires_optionsForAll catalog).bind fun _ =>
          (KeepsTo.ofOutcome _).bind fun _ => .pure _

/-! ### What was checked passes later checks -/

/-- The catalog has all of some ids. -/
def Catalog.Knows (catalog : Catalog) (ids : List Nat) : Prop :=
  ∃ queries, catalog.resolve ids = .ok queries

theorem Catalog.knows_iff {catalog : Catalog} {ids : List Nat} :
    catalog.Knows ids ↔ ∀ id ∈ ids, ∃ query ∈ catalog.queries, query.id = id := by
  constructor
  · rintro ⟨queries, resolved⟩ id member
    have known := Catalog.resolve_eq_ok_iff.mp resolved
    obtain ⟨query, selected, same⟩ := exists_query_of_known known member
    exact ⟨query, (mem_of_known known selected).1, same⟩
  · intro listed
    rcases catalog.unknown_or_known ids with ⟨id, member, absent⟩ | ⟨queries, known⟩
    · obtain ⟨query, inside, rfl⟩ := listed id member
      have other := List.find?_eq_none.mp absent query inside
      simp at other
    · exact ⟨queries, Catalog.resolve_eq_ok_iff.mpr known⟩

theorem Catalog.knows_ids (catalog : Catalog) : catalog.Knows catalog.ids :=
  Catalog.knows_iff.mpr fun _ member => List.mem_map.mp member

/-- The checks that are made again while a plan is carried out pass. -/
def Plan.Checked (catalog : Catalog) : Plan → Prop
  | .schema _ | .load _ _ => True
  | .gen request | .all _ request _ => request.validate = .ok ()
  | .run _ options => catalog.Knows options.ids
  | .bench _ request _ options =>
      request.validate = .ok () ∧ catalog.Knows options.ids

theorem exists_of_bind_eq_ok {α β : Type} {outcome : Except Fault α}
    {next : α → Except Fault β} {result : β} (ended : outcome >>= next = .ok result) :
    ∃ value, outcome = .ok value ∧ next value = .ok result := by
  cases outcome with
  | ok value => exact ⟨value, rfl, ended⟩
  | error fault => cases ended

theorem GenerationArguments.validate_of_request {generation : GenerationArguments}
    {config : Config} {request : GeneratorRequest}
    (made : generation.request config = .ok request) : request.validate = .ok () := by
  obtain ⟨_, valid, same⟩ := exists_of_bind_eq_ok made
  cases same
  exact valid

theorem Selection.knows_of_knownIds {selection : Selection} {catalog : Catalog}
    {ids : List Nat} (selected : selection.knownIds catalog = .ok ids) :
    catalog.Knows ids := by
  obtain ⟨_, -, further⟩ := exists_of_bind_eq_ok selected
  obtain ⟨queries, resolved, same⟩ := exists_of_bind_eq_ok further
  cases same
  exact ⟨queries, resolved⟩

namespace Procedure

variable {α β : Type} {procedure : Procedure α}

/-- What the procedure returns, if it returns anything, is of this kind. -/
def Yields (procedure : Procedure α) (kind : α → Prop) : Prop :=
  ∀ events value, procedure.outcome.Runs events (.ok value) → kind value

namespace Yields

variable {kind : α → Prop}

theorem pure {value : α} (holds : kind value) :
    (Pure.pure value : Procedure α).Yields kind := by
  intro events result run
  obtain ⟨-, same⟩ := Procedure.runs_pure_iff.mp run
  cases same
  exact holds

theorem ofOutcome {outcome : Except Fault α}
    (holds : ∀ value, outcome = .ok value → kind value) :
    (Procedure.ofOutcome outcome).Yields kind := by
  intro events result run
  obtain ⟨-, same⟩ := runs_ofOutcome_iff.mp run
  exact holds result same.symm

theorem bind {next : α → Procedure β} {further : β → Prop}
    (yields : procedure.Yields kind)
    (goesOn : ∀ value, kind value → (next value).Yields further) :
    (procedure >>= next).Yields further := by
  intro events result run
  rcases runs_bind_iff.mp run with
    ⟨_, -, impossible⟩ | ⟨first, value, later, -, firstRun, laterRun⟩
  · cases impossible
  · exact goesOn value (yields first value firstRun) later result laterRun

theorem anything (procedure : Procedure α) : procedure.Yields fun _ => True :=
  fun _ _ _ => trivial

end Yields

end Procedure

namespace RunArguments

variable (arguments : RunArguments) (catalog : Catalog)

theorem yields_optionsFor (selection : Selection) :
    (arguments.optionsFor catalog selection).Yields
      fun options => catalog.Knows options.ids :=
  (Yields.ofOutcome fun _ => Selection.knows_of_knownIds).bind fun _ knows =>
    (Yields.anything _).bind fun _ _ => .pure knows

theorem yields_optionsForAll :
    (arguments.optionsForAll catalog).Yields fun options => catalog.Knows options.ids :=
  (Yields.anything _).bind fun _ _ => .pure catalog.knows_ids

end RunArguments

/-- Only what was checked is planned. -/
theorem Job.yields_plan (catalog : Catalog) (config : Config)
    (lookup? : String → Option String) (job : Job) :
    (job.plan catalog config lookup?).Yields (Plan.Checked catalog) := by
  have valid {generation : GenerationArguments} :
      (ofOutcome (generation.request config)).Yields
        fun request => request.validate = .ok () :=
    .ofOutcome fun _ => GenerationArguments.validate_of_request
  cases job with
  | schema connection => exact (Yields.anything _).bind fun _ _ => .pure trivial
  | gen generation => exact valid.bind fun _ checked => .pure checked
  | load connection options => exact (Yields.anything _).bind fun _ _ => .pure trivial
  | run connection selection arguments =>
      exact (arguments.yields_optionsFor catalog selection).bind fun _ knows =>
        (Yields.anything _).bind fun _ _ => .pure knows
  | all connection generation loading =>
      exact valid.bind fun _ checked => (Yields.anything _).bind fun _ _ =>
        (Yields.anything _).bind fun _ _ => .pure checked
  | bench connection generation loading arguments =>
      exact valid.bind fun _ checked => (Yields.anything _).bind fun _ _ =>
        (arguments.yields_optionsForAll catalog).bind fun _ knows =>
          (Yields.anything _).bind fun _ _ => .pure ⟨checked, knows⟩

end DecisionBench
