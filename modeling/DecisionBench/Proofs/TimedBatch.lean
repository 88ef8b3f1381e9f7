import DecisionBench.Batch
import DecisionBench.Proofs.Itinerary
import DecisionBench.Proofs.Selection
import Mathlib.Data.List.Forall2

/-!
# Timed batches

What a timed batch sends and what it reports, for every session.  A query sends
its time limit and then its statements up to the first that fails
(`QueryRun`), whether or not a process is watched; a batch runs the queries of
its selection one after the other, and a query that fails leaves the later ones
alone (`run_results`).
-/

namespace DecisionBench.Batch

def countStep (timeout : Timeout) (statement : String) : Step :=
  .binding (.hinted timeout statement) id

/-- Sending the statements of a query in their order. -/
def countPlan (timeout : Timeout) (query : Query) : List Step :=
  query.statements.map (countStep timeout)

/-- The rows of the exchanges that were sent for them. -/
def rowsOf : List Exchange → Nat
  | [] => 0
  | exchange :: later => exchange.rows + rowsOf later

/-- How a query ends whose statements were answered so, with this outcome. -/
def endedAfter (sent : List Exchange) : Except Fault Unit → Ended
  | .ok _ => .rows (rowsOf sent)
  | .error fault => .failure fault.message

/-- The statements that one query sends, and the result that it reports. -/
structure QueryRun (timeout : Timeout) (query : Query)
    (sent : List Exchange) (result : QueryResult) : Prop where
  id_eq : result.id = query.id
  title_eq : result.title = query.title
  sends : ∃ limiting stated outcome, sent = limiting ++ stated ∧
    limiting.map Exchange.call = (limitPlan timeout).map Step.call ∧
    Follows (countPlan timeout query) stated outcome ∧
    result.ended = endedAfter stated outcome ∧
    (result.isOk = true ↔ ∀ exchange ∈ stated, exchange.succeeded = true)

/-- If every call binds, the outcome is a fault exactly if some call failed. -/
theorem outcome_of_binding {plan : List Step} {sent : List Exchange}
    {outcome : Except Fault Unit} (follows : Follows plan sent outcome)
    (binding : ∀ step ∈ plan, step.isBinding = true) :
    outcome = .ok () ↔ ∀ exchange ∈ sent, exchange.succeeded = true := by
  induction follows with
  | done => simp
  | answered step count _ induction =>
      have later := induction fun step member =>
        binding step (List.mem_cons_of_mem _ member)
      simp [later, Exchange.succeeded]
  | tolerated call fault _ _ =>
      cases binding (.tolerated call) List.mem_cons_self
  | failed call report fault => simp [Exchange.succeeded]

theorem binding_countPlan (timeout : Timeout) (query : Query) :
    ∀ step ∈ countPlan timeout query, step.isBinding = true := by
  intro step member
  obtain ⟨statement, -, rfl⟩ := List.mem_map.mp member
  rfl

theorem countFrom_cons (timeout : Timeout) (total : Nat) (statement : String)
    (statements : List String) :
    countFrom timeout total (statement :: statements) =
      if Statement.isReadOnly statement then
        Procedure.ofProgram
            (Session.countRows (Statement.hinted timeout statement)) >>=
          fun count => countFrom timeout (total + count) statements
      else
        Procedure.ofProgram
            (Session.execute (Statement.hinted timeout statement)) >>=
          fun _ => countFrom timeout total statements := by
  rw [countFrom]
  simp only [Statement.isReadOnly_hinted]

theorem carriesOut_countFrom (timeout : Timeout) (total : Nat)
    (statements : List String) :
    (countFrom timeout total statements).CarriesOut
      (statements.map (countStep timeout)) := by
  induction statements generalizing total with
  | nil => exact .pure total
  | cons statement statements induction =>
      rw [countFrom_cons, List.map_cons, countStep, Call.hinted]
      split
      · exact (Procedure.CarriesOut.ofProgram (Program.sends_countRows _)).bind
          fun count => induction (total + count)
      · exact (Procedure.CarriesOut.ofProgram (Program.sends_execute _)).bind
          fun _ => induction total

/-- The count grows by the rows of the statements that were sent for them. -/
theorem rows_of_countFrom {timeout : Timeout} {total rows : Nat}
    {statements : List String} {events : List Event}
    (run : (countFrom timeout total statements).outcome.Runs events (.ok rows)) :
    rows = total + rowsOf (exchanges events) := by
  induction statements generalizing total events with
  | nil =>
      obtain ⟨rfl, ended⟩ := Procedure.runs_pure_iff.mp run
      cases ended
      rfl
  | cons statement statements induction =>
      rw [countFrom_cons] at run
      split at run
      · rcases Procedure.runs_bind_iff.mp run with
          ⟨fault, _, impossible⟩ | ⟨first, count, later, rfl, firstRun, laterRun⟩
        · cases impossible
        · rw [induction laterRun, exchanges_append,
            Program.sends_countRows _ first _ firstRun]
          simp [rowsOf, Exchange.rows, Nat.add_assoc]
      · rcases Procedure.runs_bind_iff.mp run with
          ⟨fault, _, impossible⟩ | ⟨first, count, later, rfl, firstRun, laterRun⟩
        · cases impossible
        · rw [induction laterRun, exchanges_append,
            Program.sends_execute _ first _ firstRun]
          simp [rowsOf, Exchange.rows]

/-! ### Watching a process asks nothing of the session -/

theorem asks_read (pid : Nat) (time : Option Nat) : (Memory.read pid time).Asks [] :=
  (Program.Asks.request (.readStatus pid time)).bind fun _ => .pure _

theorem asks_sample (figures : Memory.Figures) (times : List Nat) :
    (Memory.sample figures times).Asks [] := by
  induction times generalizing figures with
  | nil => exact .pure figures
  | cons time times induction =>
      refine (asks_read figures.pid (some time)).bind fun answer => ?_
      cases answer with
      | ok kib => exact induction (figures.record kib)
      | error text => exact .pure _

theorem asks_startWatch (id : Nat) (watched : Option Nat) :
    (startWatch id watched).Asks [] := by
  cases watched with
  | none => exact .pure none
  | some pid =>
      have started : (Memory.Watch.start pid).Asks [] := by
        refine (asks_read pid none).bind fun answer => ?_
        cases answer with
        | ok kib => exact .pure _
        | error text => exact .pure _
      refine started.bind fun watch => ?_
      cases watch with
      | running figures => exact .pure _
      | impossible figures =>
          exact (Program.Asks.tell _ _ _).bind fun _ => .pure _

theorem asks_stopWatch (start stop : Nat) (watch : Option Memory.Watch) :
    (stopWatch start stop watch).Asks [] := by
  cases watch with
  | none => exact .pure none
  | some watch =>
      cases watch with
      | running figures => exact (asks_sample _ _).bind fun _ => .pure _
      | impossible figures => exact .pure _

theorem asks_now : Program.now.Asks [] :=
  .request .clock

theorem asks_tellResult (result : QueryResult) : (tellResult result).Asks [] := by
  unfold tellResult
  cases result.ended with
  | rows count => exact .tell _ _ _
  | failure message => exact .tell _ _ _

/-! ### Queries and batches -/

/-- The result of a query is the one that its statements deserve. -/
theorem queryRun_of_runs {options : Options} {query : Query}
    {events : List Event} {result : QueryResult}
    (run : (runQuery options query).Runs events result) :
    QueryRun options.timeout query (exchanges events) result := by
  obtain ⟨limiting, _, rest₁, rfl, limitRun, run₁⟩ := Program.runs_bind_iff.mp run
  obtain ⟨watching, watch, rest₂, rfl, watchRun, run₂⟩ :=
    Program.runs_bind_iff.mp run₁
  obtain ⟨starting, start, rest₃, rfl, startRun, run₃⟩ :=
    Program.runs_bind_iff.mp run₂
  obtain ⟨stating, outcome, rest₄, rfl, stateRun, run₄⟩ :=
    Program.runs_bind_iff.mp run₃
  obtain ⟨stopping, stop, rest₅, rfl, stopRun, run₅⟩ :=
    Program.runs_bind_iff.mp run₄
  obtain ⟨resting, memory, ending, rfl, restRun, endRun⟩ :=
    Program.runs_bind_iff.mp run₅
  obtain ⟨rfl, rfl⟩ := Program.runs_pure_iff.mp endRun
  have limited := (follows_limitPlan limitRun).calls_eq
  have stated := carriesOut_countFrom options.timeout 0 query.statements
    stating outcome stateRun
  have sent : exchanges (limiting ++ (watching ++ (starting ++ (stating ++
      (stopping ++ (resting ++ [])))))) = exchanges limiting ++ exchanges stating := by
    simp [(asks_startWatch _ _).silent watching watch watchRun,
      asks_now.silent starting start startRun,
      asks_now.silent stopping stop stopRun,
      (asks_stopWatch _ _ _).silent resting memory restRun]
  refine ⟨rfl, rfl, exchanges limiting, exchanges stating, _, sent, limited, stated, ?_, ?_⟩
  · cases outcome with
    | ok rows =>
        have total := rows_of_countFrom stateRun
        simp [endedAfter, total, Except.map]
    | error fault => rfl
  · rw [← outcome_of_binding stated (binding_countPlan options.timeout query)]
    cases outcome <;> simp [QueryResult.isOk, Except.map]

theorem queryRuns_of_runs {options : Options} {queries : List Query}
    {events : List Event} {results : List QueryResult}
    (run : (runQueries options queries).Runs events results) :
    ∃ runs : List (List Exchange × QueryResult),
      exchanges events = (runs.map Prod.fst).flatten ∧
      results = runs.map Prod.snd ∧
      List.Forall₂ (fun query run => QueryRun options.timeout query run.1 run.2)
        queries runs := by
  induction queries generalizing events results with
  | nil =>
      obtain ⟨rfl, rfl⟩ := Program.runs_pure_iff.mp run
      exact ⟨[], rfl, rfl, .nil⟩
  | cons query queries induction =>
      obtain ⟨asking, result, rest₁, rfl, queryRun, run₁⟩ :=
        Program.runs_bind_iff.mp run
      obtain ⟨telling, _, rest₂, rfl, tellRun, run₂⟩ := Program.runs_bind_iff.mp run₁
      obtain ⟨later, laterResults, ending, rfl, laterRun, endRun⟩ :=
        Program.runs_bind_iff.mp run₂
      obtain ⟨rfl, rfl⟩ := Program.runs_pure_iff.mp endRun
      obtain ⟨runs, sent, rfl, related⟩ := induction laterRun
      have quiet := (asks_tellResult result).silent telling _ tellRun
      refine ⟨(exchanges asking, result) :: runs, ?_, rfl,
        .cons (queryRun_of_runs queryRun) related⟩
      simp [quiet, sent]

theorem runs_of_unknown {catalog : Catalog} {options : Options} {ids : List Nat}
    {events : List Event} {outcome : Except Fault (List QueryResult)}
    (unknown : ∃ id ∈ ids, catalog.get? id = none)
    (running : (run catalog options ids).outcome.Runs events outcome) :
    events = [] ∧ outcome = .error (catalog.refusal ids) := by
  rw [run, Catalog.resolve_of_unknown unknown] at running
  exact Procedure.runs_ofOutcome_error_bind_iff.mp running

/-- A batch of known queries has no fault. -/
theorem queryRuns_of_known {catalog : Catalog} {options : Options}
    {ids : List Nat} {queries : List Query} {events : List Event}
    {outcome : Except Fault (List QueryResult)}
    (known : ids.map catalog.get? = queries.map some)
    (running : (run catalog options ids).outcome.Runs events outcome) :
    ∃ runs : List (List Exchange × QueryResult),
      exchanges events = (runs.map Prod.fst).flatten ∧
      outcome = .ok (runs.map Prod.snd) ∧
      List.Forall₂ (fun query run => QueryRun options.timeout query run.1 run.2)
        queries runs := by
  rw [run, Catalog.resolve_eq_ok_iff.mpr known,
    Procedure.runs_ofOutcome_ok_bind_iff] at running
  obtain ⟨telling, _, later, rfl, tellRun, laterRun⟩ :=
    Procedure.runs_lift_bind_iff.mp running
  obtain ⟨results, rfl, queriesRun⟩ := Procedure.runs_lift_iff.mp laterRun
  obtain ⟨runs, sent, rfl, related⟩ := queryRuns_of_runs queriesRun
  have quiet := Program.silent_tell _ _ _ telling _ tellRun
  exact ⟨runs, by simp [quiet, sent], rfl, related⟩

/-- A batch fails exactly if an id of its selection is unknown, and then sends
nothing.  Otherwise there is one result for every id, in the order of the
selection, and the statements of the queries follow each other in this order;
`QueryRun` tells which statements and which result belong to one query. -/
theorem run_results {σ : Type} (environment : Environment σ) (state : σ)
    (catalog : Catalog) (options : Options) (ids : List Nat) :
    let played := (run catalog options ids).outcome.play environment state
    let sent := exchanges played.events
    ((∃ fault, played.value = .error fault) ↔
        ∃ id ∈ ids, catalog.get? id = none) ∧
      (((∃ id ∈ ids, catalog.get? id = none) ∧ sent = [] ∧
          played.value = .error (catalog.refusal ids)) ∨
        ∃ runs : List (List Exchange × QueryResult),
          sent = (runs.map Prod.fst).flatten ∧
          played.value = .ok (runs.map Prod.snd) ∧
          List.Forall₂ (fun id run => ∃ query, catalog.get? id = some query ∧
            QueryRun options.timeout query run.1 run.2) ids runs) := by
  intro played sent
  have running :=
    Program.runs_play environment (run catalog options ids).outcome state
  rcases Catalog.unknown_or_known catalog ids with unknown | ⟨queries, known⟩
  · obtain ⟨noEvents, refused⟩ := runs_of_unknown unknown running
    exact ⟨iff_of_true ⟨_, refused⟩ unknown,
      .inl ⟨unknown, by simp [sent, played, noEvents], refused⟩⟩
  · obtain ⟨runs, flattened, answered, related⟩ := queryRuns_of_known known running
    have described : List.Forall₂ (fun found run => ∃ query, found = some query ∧
        QueryRun options.timeout query run.1 run.2) (queries.map some) runs :=
      List.forall₂_map_left_iff.mpr
        (related.imp fun query run queryRun => ⟨query, rfl, queryRun⟩)
    rw [← known, List.forall₂_map_left_iff] at described
    refine ⟨iff_of_false ?_ (Catalog.not_unknown_of_known known),
      .inr ⟨runs, flattened, answered, described⟩⟩
    rintro ⟨fault, failed⟩
    have both := answered.symm.trans failed
    cases both

end DecisionBench.Batch
