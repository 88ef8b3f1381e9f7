import DecisionBench.Proofs.Agreement
import DecisionBench.Proofs.Closing

/-!
# The report that a run leaves

A run leaves its report where a file was last written.  When the queries have
results, the session is closed before the report is written, and a session that
does not close in order ends the run: its report is left exactly if the session
closes (`report_left_iff_session_closes`).
-/

namespace DecisionBench

/-- The content that an accepted request writes to a path. -/
def Event.filed? (path : String) : Event → Option String
  | ⟨.writeFile written content, .ok _⟩ => if written = path then some content else none
  | _ => none

/-- What was left at a path when it was last written. -/
def leftAt (path : String) (events : List Event) : Option String :=
  (events.filterMap (Event.filed? path)).getLast?

theorem leftAt_append (path : String) (first later : List Event) :
    leftAt path (first ++ later) = (leftAt path later).or (leftAt path first) := by
  simp [leftAt, List.getLast?_append]

theorem leftAt_eq_none {path : String} {events : List Event}
    (unconcluded : ∀ event ∈ events, event.effect.isConclusion = false) :
    leftAt path events = none := by
  have nothing : events.filterMap (Event.filed? path) = [] := by
    refine List.filterMap_eq_nil_iff.mpr fun event member => ?_
    have kind := unconcluded event member
    obtain ⟨effect, reply⟩ := event
    cases effect with
    | writeFile => cases kind
    | _ => rfl
  rw [leftAt, nothing]
  rfl

theorem leftAt_of_requests_eq_nil {path : String} {events : List Event}
    (quiet : requests events = []) : leftAt path events = none := by
  have keeps : (requests events).Sublist [] := by rw [quiet]
  exact leftAt_eq_none
    (eq_false_of_sublist Effect.isOutward_of_isConclusion keeps (by simp))

/-- If its file accepts it, a report that is delivered is left there. -/
theorem Report.Delivered.leftAt_eq {path : String} {results : List QueryResult}
    {events : List Event} {ended : Except Fault Unit}
    (delivered : Delivered (some path) results events ended)
    (accepted : ∀ content reply,
      (⟨.writeFile path content, reply⟩ : Event) ∈ events → reply = .ok ()) :
    leftAt path events = some (render results) ∧ ended = .ok () := by
  obtain ⟨before, event, after, rfl, delivers, quietBefore, quietAfter⟩ := delivered
  cases delivers with
  | filed path reply =>
      obtain rfl := accepted (render results) reply (by simp)
      have written : leftAt path [⟨.writeFile path (render results), .ok ()⟩] =
          some (render results) := by
        simp [leftAt, Event.filed?]
      rw [leftAt_append, ← List.singleton_append, leftAt_append, written,
        leftAt_of_requests_eq_nil quietAfter]
      exact ⟨rfl, rfl⟩

/-- The environment of a session that answers every call, with files that can be
written, and whose closing ends so. -/
def Environment.filing (closed : Except Fault Unit) : Environment Unit where
  answer
    | .writeFile _ _, _ => (.ok (), ())
    | .closeSession, _ => (closed, ())
    | effect, _ => (effect.idleReply, ())

theorem Environment.answersBy_filing (closed : Except Fault Unit) :
    (Environment.filing closed).AnswersBy fun _ => .ok 0 :=
  fun _ _ => ⟨rfl, rfl⟩

namespace Command

variable {catalog : Catalog} {options : RunOptions} {queries : List Query}

theorem leftAt_play_runQueries {σ : Type} (environment : Environment σ) (state : σ)
    (catalog : Catalog) (options : RunOptions) (path : String) :
    leftAt path ((runQueries catalog options).outcome.play environment state).events =
      none := by
  obtain ⟨plan, stays⟩ := exists_staysOn_runQueries catalog options
  have keeps := stays _ _ (Program.runs_play environment _ state)
  exact leftAt_eq_none (eq_false_of_sublist Effect.isOutward_of_isConclusion keeps
    (isConclusion_of_mem_map_effect plan))

/-- A selection of known queries has its results unless the precheck ends with a
fault. -/
theorem exists_results_iff {σ : Type} (environment : Environment σ) (state : σ)
    (known : options.ids.map catalog.get? = queries.map some) :
    (∃ results, ((runQueries catalog options).outcome.play environment state).value =
        .ok results) ↔
      options.precheck = false ∨
        ∃ verdict, ((Precheck.run catalog options.ids options.timeout).outcome.play
          environment state).value = .ok verdict := by
  have timed : ∀ before, ∃ results,
      ((Batch.run catalog ⟨options.timeout, options.watched⟩ options.ids).outcome.play
        environment before).value = .ok results := by
    intro before
    obtain ⟨runs, -, ended, -⟩ :=
      Batch.queryRuns_of_known known (Program.runs_play environment _ before)
    exact ⟨_, ended⟩
  cases precheck : options.precheck with
  | false =>
      rw [runQueries_of_unchecked precheck]
      simpa using timed state
  | true =>
      rw [runQueries_of_precheck precheck, Procedure.play_bind]
      cases tried : ((Precheck.run catalog options.ids options.timeout).outcome.play
          environment state).value with
      | ok verdict => simpa [tried] using timed _
      | error fault => simp [tried]

theorem ids_of_results {events : List Event} {results : List QueryResult}
    (known : options.ids.map catalog.get? = queries.map some)
    (run : (runQueries catalog options).outcome.Runs events (.ok results)) :
    results.map QueryResult.id = options.ids := by
  have timed : ∃ later, (Batch.run catalog ⟨options.timeout, options.watched⟩
      options.ids).outcome.Runs later (.ok results) := by
    cases precheck : options.precheck with
    | false =>
        rw [runQueries_of_unchecked precheck] at run
        exact ⟨events, run⟩
    | true =>
        rw [runQueries_of_precheck precheck] at run
        rcases Procedure.runs_bind_iff.mp run with
          ⟨fault, -, impossible⟩ | ⟨first, verdict, later, rfl, -, laterRun⟩
        · cases impossible
        · exact ⟨later, laterRun⟩
  obtain ⟨later, timedRun⟩ := timed
  obtain ⟨runs, -, ended, related⟩ := Batch.queryRuns_of_known known timedRun
  cases ended
  have named : List.Forall₂ (fun id run => run = id) options.ids
      ((runs.map Prod.snd).map QueryResult.id) := by
    rw [List.map_map, List.forall₂_map_right_iff]
    refine (Catalog.forall₂_of_known known related).imp fun id run found => ?_
    obtain ⟨query, found, queryRun⟩ := found
    exact queryRun.id_eq.trans (Catalog.id_of_get? found)
  rw [← List.forall₂_eq_eq_eq]
  exact named.flip

/-- What a command leaves whose work had results.  The session closed and the
report is left, or it did not close and the fault of closing ends the command. -/
theorem leftAt_of_ends {path : String} {results : List QueryResult}
    {closed ended : Except Fault Unit} {after : List Event}
    (ends : Ends (Report.Delivered (some path)) (.ok results) closed after ended)
    (accepted : ∀ content reply,
      (⟨.writeFile path content, reply⟩ : Event) ∈ after → reply = .ok ()) :
    (closed = .ok () → leftAt path after = some (Report.render results) ∧ ended = .ok ()) ∧
      ∀ fault, closed = .error fault → leftAt path after = none ∧ ended = .error fault := by
  cases ends with
  | unclosed =>
      refine ⟨?_, ?_⟩
      · rintro ⟨⟩
      · rintro fault ⟨⟩
        exact ⟨rfl, rfl⟩
  | concluded delivered =>
      refine ⟨fun _ => delivered.leftAt_eq accepted, ?_⟩
      rintro fault ⟨⟩

theorem left_by_run {σ : Type} (environment : Environment σ) (state : σ)
    (catalog : Catalog) (options : RunOptions) {path : String}
    (output : options.output = some path)
    (writable : ∀ content before,
      (environment.answer (.writeFile path content) before).1 = .ok ())
    {results : List QueryResult} :
    let worked := (runQueries catalog options).outcome.play environment state
    let closed := (environment.answer .closeSession worked.state).1
    let played := (run catalog options).outcome.play environment state
    worked.value = .ok results →
      (closed = .ok () → leftAt path played.events = some (Report.render results) ∧
        played.value = .ok ()) ∧
      ∀ fault, closed = .error fault → leftAt path played.events = none ∧
        played.value = .error fault := by
  intro worked closed played worked_eq
  obtain ⟨after, events_eq, ends⟩ :
      ∃ after, played.events = worked.events ++ ⟨.closeSession, closed⟩ :: after ∧
        Ends (fun results => (finishReport results options.output).outcome.Runs)
          worked.value closed after played.value :=
    play_onSession_bind environment state (runQueries catalog options) _
  have delivers : Ends (Report.Delivered (some path)) (.ok results) closed after
      played.value := by
    rw [← worked_eq, ← output]
    exact ends.imp fun _ _ _ => delivered_of_runs
  have accepted : ∀ content reply,
      (⟨.writeFile path content, reply⟩ : Event) ∈ after → reply = .ok () := by
    intro content reply member
    have playedToo : (⟨.writeFile path content, reply⟩ : Event) ∈ played.events := by
      rw [events_eq]
      exact List.mem_append_right _ (List.mem_cons_of_mem _ member)
    obtain ⟨before, answered⟩ :=
      Program.reply_of_mem_play environment (run catalog options).outcome state _ playedToo
    exact answered.trans (writable content before)
  have behind : leftAt path played.events = leftAt path after := by
    have closing : leftAt path [⟨.closeSession, closed⟩] = none := rfl
    rw [events_eq, leftAt_append, ← List.singleton_append, leftAt_append, closing,
      leftAt_play_runQueries, Option.or_none, Option.or_none]
  rw [behind]
  exact leftAt_of_ends delivers accepted

/-- A run leaves the whole report of the results of its queries, one for each id
in the order of the selection, exactly if its session then closes in order.  The
queries have results unless a precheck was asked for and ended with a fault. -/
theorem report_left_iff_session_closes {σ : Type} (environment : Environment σ) (state : σ)
    (catalog : Catalog) (options : RunOptions) (queries : List Query) (path : String)
    (known : options.ids.map catalog.get? = queries.map some)
    (output : options.output = some path)
    (writable : ∀ content before,
      (environment.answer (.writeFile path content) before).1 = .ok ()) :
    let worked := (runQueries catalog options).outcome.play environment state
    let closed := (environment.answer .closeSession worked.state).1
    let played := (run catalog options).outcome.play environment state
    ((∃ results, worked.value = .ok results) ↔
        options.precheck = false ∨
          ∃ verdict, ((Precheck.run catalog options.ids options.timeout).outcome.play
            environment state).value = .ok verdict) ∧
      ∀ results, worked.value = .ok results →
        results.map QueryResult.id = options.ids ∧
        (leftAt path played.events = some (Report.render results) ↔ closed = .ok ()) ∧
        (closed = .ok () → played.value = .ok ()) ∧
        ∀ fault, closed = .error fault →
          leftAt path played.events = none ∧ played.value = .error fault := by
  intro worked closed played
  refine ⟨exists_results_iff environment state known, fun results worked_eq => ?_⟩
  have ids := ids_of_results known
    (worked_eq ▸ Program.runs_play environment (runQueries catalog options).outcome state)
  obtain ⟨left, lost⟩ := left_by_run environment state catalog options output writable worked_eq
  refine ⟨ids, ⟨fun whole => ?_, fun ok => (left ok).1⟩, fun ok => (left ok).2, lost⟩
  cases reply : closed with
  | ok _ => rfl
  | error fault =>
      rw [(lost fault reply).1] at whole
      cases whole

theorem report_left_by_filing :
    let environment := Environment.filing (.ok ())
    let options : RunOptions := ⟨[1, 1], .disabled, true, none, some "report.json"⟩
    let worked := (runQueries .single options).outcome.play environment ()
    let played := (run .single options).outcome.play environment ()
    (options.ids.map Catalog.single.get? =
        (Catalog.single.queries ++ Catalog.single.queries).map some ∧
      options.output = some "report.json" ∧
      ∀ content before,
        (environment.answer (.writeFile "report.json" content) before).1 = .ok ()) ∧
      ∃ results, worked.value = .ok results ∧ results.map QueryResult.id = [1, 1] ∧
        leftAt "report.json" played.events = some (Report.render results) ∧
        played.value = .ok () := by
  intro environment options worked played
  have known : options.ids.map Catalog.single.get? =
      (Catalog.single.queries ++ Catalog.single.queries).map some := rfl
  have writable : ∀ content before,
      (environment.answer (.writeFile "report.json" content) before).1 = .ok () :=
    fun _ _ => rfl
  obtain ⟨answered, left⟩ := report_left_iff_session_closes environment () .single options
    _ "report.json" known rfl writable
  have passed := Precheck.passed_of_counted (Environment.answersBy_filing (.ok ()))
    (fun _ => ⟨0, rfl⟩) known options.timeout ()
  obtain ⟨results, worked_eq⟩ := answered.mpr (.inr ⟨.passed, passed⟩)
  obtain ⟨ids, whole, succeeds, -⟩ := left results worked_eq
  exact ⟨⟨known, rfl, writable⟩, results, worked_eq, ids, whole.mpr rfl, succeeds rfl⟩

/-- A session that is gone when it is to be closed takes the report with it,
although every query has its result and the file could be written. -/
theorem report_lost_in_closing :
    let gone : Fault := ⟨.connection, "server has gone away"⟩
    let environment := Environment.filing (.error gone)
    let options : RunOptions := ⟨[1], .disabled, false, none, some "report.json"⟩
    let worked := (runQueries .single options).outcome.play environment ()
    let played := (run .single options).outcome.play environment ()
    (options.ids.map Catalog.single.get? = Catalog.single.queries.map some ∧
      ∀ content before,
        (environment.answer (.writeFile "report.json" content) before).1 = .ok ()) ∧
      ∃ results, worked.value = .ok results ∧
        leftAt "report.json" played.events = none ∧ played.value = .error gone := by
  intro gone environment options worked played
  have known : options.ids.map Catalog.single.get? = Catalog.single.queries.map some := rfl
  have writable : ∀ content before,
      (environment.answer (.writeFile "report.json" content) before).1 = .ok () :=
    fun _ _ => rfl
  obtain ⟨results, worked_eq⟩ :=
    (exists_results_iff environment () known).mpr (.inl rfl)
  have lost := (left_by_run environment () .single options rfl writable worked_eq).2
  exact ⟨⟨known, writable⟩, results, worked_eq, lost gone rfl⟩

end Command

end DecisionBench
