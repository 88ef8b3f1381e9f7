import DecisionBench.Proofs.DryRun
import DecisionBench.Proofs.Forecast
import Mathlib.Data.List.Forall2

/-!
# Shadows that outlive the precheck

A temporary table shadows the real table of its name until it is dropped.
`isShadowed` reads from the exchanges of a run whether a table of the benchmark
is left shadowed.

A precheck that passes leaves no shadow.  One that finds temporary tables
unsupported sends nothing behind the definition that failed, and leaves the
shadows of the definitions before it: `run_leaves_shadows` says which these are,
for every session, and `shadow_survives` is a session where one is left.
-/

namespace DecisionBench

namespace Shadow

def isNameChar (c : Char) : Bool :=
  c.isAlphanum || c == '_' || c == '$'

/-- The names and keywords of a statement, in order. -/
def tokens (text : List Char) : List (List Char) :=
  (Text.pieces (! isNameChar ·) text).filter (! ·.isEmpty)

/-- What stands behind keywords that open a list of tokens. -/
def afterKeywords : List String → List (List Char) → Option (List (List Char))
  | [], tokens => some tokens
  | _ :: _, [] => none
  | keyword :: keywords, token :: tokens =>
      if Text.equalFolded token keyword.toList then
        afterKeywords keywords tokens
      else
        none

/-- The name of the temporary table that a statement creates, if it is one that
does. -/
def created? (text : List Char) : Option (List Char) := do
  let named ← afterKeywords ["create", "temporary", "table"] (tokens text)
  ((afterKeywords ["if", "not", "exists"] named).getD named).head?

/-- The names of the temporary tables that a statement drops. -/
def dropped (text : List Char) : List (List Char) :=
  match afterKeywords ["drop", "temporary", "table"] (tokens text) with
  | some named => (afterKeywords ["if", "exists"] named).getD named
  | none => []

end Shadow

theorem Table.equalFolded_name (left right : Table) :
    Text.equalFolded left.name.toList right.name.toList = decide (left = right) := by
  cases left <;> cases right <;> decide

namespace Exchange

/-- Whether the session created the shadow of a table. -/
def creates (exchange : Exchange) (table : Table) : Bool :=
  exchange.succeeded &&
    (Shadow.created? exchange.call.statement.toList).any
      (Text.equalFolded · table.name.toList)

def drops (exchange : Exchange) (table : Table) : Bool :=
  exchange.succeeded &&
    (Shadow.dropped exchange.call.statement.toList).any
      (Text.equalFolded · table.name.toList)

end Exchange

/-- Whether a table is shadowed after the exchanges: the last of those that
created or dropped its shadow created it. -/
def isShadowed (sent : List Exchange) (table : Table) : Bool :=
  (sent.findRev? fun exchange =>
    exchange.creates table || exchange.drops table).any (·.creates table)

section Shadowed

variable {sent later : List Exchange} {table : Table}

theorem isShadowed_of_uncreated
    (uncreated : ∀ exchange ∈ sent, exchange.creates table = false) :
    isShadowed sent table = false := by
  rw [isShadowed, List.findRev?_eq_find?_reverse, Option.any_eq_false]
  intro exchange found
  have member := List.mem_reverse.mp (List.mem_of_find?_eq_some found)
  simp [uncreated exchange member]

/-- A shadow is gone once it was dropped and not created again. -/
theorem isShadowed_append_of_dropped
    (dropped : ∃ exchange ∈ later, exchange.drops table = true)
    (uncreated : ∀ exchange ∈ later, exchange.creates table = false) :
    isShadowed (sent ++ later) table = false := by
  obtain ⟨exchange, member, drops⟩ := dropped
  cases found : later.reverse.find? fun exchange =>
      exchange.creates table || exchange.drops table with
  | none =>
      have untouched := List.find?_eq_none.mp found exchange
        (List.mem_reverse.mpr member)
      simp [drops] at untouched
  | some last =>
      have lastMember := List.mem_reverse.mp (List.mem_of_find?_eq_some found)
      simp [isShadowed, List.findRev?_eq_find?_reverse, found,
        uncreated last lastMember]

/-- If shadows are only created, those that were created are there. -/
theorem isShadowed_append_of_undropped
    (uncreated : ∀ exchange ∈ sent, exchange.creates table = false)
    (undropped : ∀ exchange ∈ later, exchange.drops table = false) :
    isShadowed (sent ++ later) table = later.any (·.creates table) := by
  cases found : later.reverse.find? fun exchange =>
      exchange.creates table || exchange.drops table with
  | none =>
      have none : ∀ exchange ∈ later, exchange.creates table = false := by
        intro exchange member
        have untouched := List.find?_eq_none.mp found exchange
          (List.mem_reverse.mpr member)
        simp only [Bool.or_eq_true, not_or, Bool.not_eq_true] at untouched
        exact untouched.1
      have neither : ∀ exchange ∈ sent ++ later, exchange.creates table = false :=
        fun exchange member =>
          (List.mem_append.mp member).elim (uncreated exchange) (none exchange)
      rw [isShadowed_of_uncreated neither]
      simpa using none
  | some last =>
      have lastMember := List.mem_reverse.mp (List.mem_of_find?_eq_some found)
      have touched := List.find?_some found
      simp only [undropped last lastMember, Bool.or_false] at touched
      have some : later.any (·.creates table) = true :=
        List.any_eq_true.mpr ⟨last, lastMember, touched⟩
      simp [isShadowed, List.findRev?_eq_find?_reverse, found, touched, some]

end Shadowed

namespace Precheck

theorem toList_temporaryDefinition (statement : String) :
    (temporaryDefinition statement).toList = temporaryText statement.toList :=
  String.toList_ofList

set_option maxRecDepth 20000 in
theorem script_creates :
    ∃ text, Schema.script = String.ofList text ∧
      ((Script.fragments text).map temporaryText).map
          (fun definition => (Shadow.created? definition, Shadow.dropped definition)) =
        Table.all.map fun table => (some table.name.toList, []) :=
  ⟨_, rfl, by decide +kernel⟩

/-- Each definition creates the shadow of its table and drops none. -/
theorem definitions_create :
    List.Forall₂ (fun definition table =>
        Shadow.created? definition.toList = some table.name.toList ∧
          Shadow.dropped definition.toList = [])
      definitions Table.all := by
  obtain ⟨text, script, created⟩ := script_creates
  rw [definitions, Script.statements, script, String.toList_ofList, List.map_map,
    List.forall₂_map_left_iff]
  rw [List.map_map, ← List.forall₂_eq_eq_eq, List.forall₂_map_left_iff,
    List.forall₂_map_right_iff] at created
  refine created.imp fun fragment table same => ?_
  simpa [toList_temporaryDefinition] using same

theorem dropStatement_drops (table : Table) :
    Shadow.created? (dropStatement table).toList = none ∧
      Shadow.dropped (dropStatement table).toList = [table.name.toList] := by
  cases table <;> decide +kernel

section Leftovers

variable {sent later : List Exchange} {fault : Fault} {outcome : Except Fault Unit}

theorem uncreated_of_drops (follows : Follows dropPlan sent outcome) (table : Table) :
    ∀ exchange ∈ sent, exchange.creates table = false := by
  intro exchange member
  obtain ⟨step, due, call⟩ := List.mem_map.mp (follows.call_mem exchange member)
  obtain ⟨shadow, rfl⟩ := mem_dropPlan_iff.mp due
  simp [Exchange.creates, ← call, Call.statement, dropStatement_drops]

theorem undropped_of_definitions
    (follows : Follows (definitions.map defineStep) sent outcome) (table : Table) :
    ∀ exchange ∈ sent, exchange.drops table = false := by
  intro exchange member
  obtain ⟨step, due, call⟩ := List.mem_map.mp (follows.call_mem exchange member)
  obtain ⟨definition, defined, rfl⟩ := List.mem_map.mp due
  obtain ⟨index, bound, rfl⟩ := List.mem_iff_getElem.mp defined
  have dropsNone := (definitions_create.get bound
    (definitions_create.length_eq ▸ bound)).2
  simp only [List.get_eq_getElem] at dropsNone
  simp [Exchange.drops, ← call, defineStep, Call.statement, dropsNone]

theorem isShadowed_append_of_drops (carried : Follows dropPlan later (.ok ()))
    (table : Table) : isShadowed (sent ++ later) table = false := by
  have due : dropStep table.name ∈ dropPlan := mem_dropPlan_iff.mpr ⟨table, rfl⟩
  obtain ⟨exchange, member, call, succeeded⟩ := carried.exists_succeeded due rfl
  refine isShadowed_append_of_dropped ⟨exchange, member, ?_⟩
    (uncreated_of_drops carried table)
  simp [Exchange.drops, succeeded, call, Call.statement, dropStatement_drops,
    Table.equalFolded_name]

/-- If the definitions are cut, those in front of the one that failed have
created the shadows of their tables. -/
theorem filter_created {definitions : List String} {tables : List Table}
    (creating : List.Forall₂ (fun definition table =>
      Shadow.created? definition.toList = some table.name.toList) definitions tables)
    (distinct : tables.Nodup)
    (stopped : Follows (definitions.map defineStep) sent (.error fault)) :
    tables.filter (fun table => sent.any (·.creates table)) =
      tables.take (sent.length - 1) := by
  induction creating generalizing sent with
  | nil => cases stopped
  | @cons definition table definitions tables here _ induction =>
      obtain ⟨fresh, distinctLater⟩ := List.nodup_cons.mp distinct
      cases stopped with
      | failed call report refused => simp [Exchange.creates, Exchange.succeeded]
      | @answered _ later _ _ count further =>
          have created : ∀ other, (Exchange.mk (defineStep definition).call
              (.ok count)).creates other = decide (table = other) := by
            intro other
            simp [Exchange.creates, Exchange.succeeded, defineStep, Call.statement,
              here, Table.equalFolded_name]
          have others : tables.filter (fun other =>
              decide (table = other) || later.any (·.creates other)) =
              tables.filter (fun other => later.any (·.creates other)) := by
            refine List.filter_congr fun other member => ?_
            have different : table ≠ other := fun same => fresh (same ▸ member)
            simp [different]
          obtain ⟨size, sized⟩ := Nat.exists_eq_add_of_lt further.length_pos_of_error
          simp only [List.any_cons, created, List.filter_cons, others,
            induction distinctLater further]
          simp [sized]

/-- If the installation is cut, as many shadows are left as definitions were
sent in front of the one that failed. -/
theorem filter_isShadowed_of_stopped (stopped : Follows installPlan sent (.error fault)) :
    Table.all.filter (isShadowed sent) =
      Table.all.take (sent.length - (dropPlan.length + 1)) := by
  rcases stopped.split with
    ⟨refused, -, inDrops⟩ | ⟨dropping, defining, rfl, drops, defines⟩
  · have short : sent.length ≤ dropPlan.length := by
      simpa using inDrops.calls_isPrefix.length_le
    have none : ∀ table ∈ Table.all, ¬ isShadowed sent table = true := by
      intro table _
      simp [isShadowed_of_uncreated (uncreated_of_drops inDrops table)]
    rw [List.filter_eq_nil_iff.mpr none,
      Nat.sub_eq_zero_of_le (Nat.le_succ_of_le short), List.take_zero]
  · have length : dropping.length = dropPlan.length := by
      simpa using congrArg List.length drops.calls_eq
    have kept : isShadowed (dropping ++ defining) =
        fun table => defining.any (·.creates table) :=
      funext fun table => isShadowed_append_of_undropped
        (uncreated_of_drops drops table) (undropped_of_definitions defines table)
    have behind : (dropping ++ defining).length - (dropPlan.length + 1) =
        defining.length - 1 := by
      rw [List.length_append]
      omega
    rw [kept, behind]
    exact filter_created (definitions_create.imp fun _ _ creates => creates.1)
      (by decide) defines

/-- What is left shadowed after a precheck that ended with a verdict: nothing if
it passed, and else the tables whose definitions were sent in front of the one
that failed. -/
def leftover (sent : List Exchange) : Verdict → List Table
  | .passed => []
  | .unsupported => Table.all.take (sent.length - (dropPlan.length + 1))

theorem Course.filter_isShadowed {timeout : Timeout} {queries : List Query}
    {verdict : Verdict} (course : Course timeout queries sent (.ok verdict)) :
    Table.all.filter (isShadowed sent) = leftover sent verdict := by
  generalize ended : (Except.ok verdict : Except Fault Verdict) = finished at course
  cases course with
  | stopped installs =>
      split at ended
      · cases ended
        exact filter_isShadowed_of_stopped installs
      · cases ended
  | @tried installed asked dropped answered cleared installs asks drops =>
      cases answered with
      | error fault => cases ended
      | ok _ =>
          cases cleared with
          | error fault => cases ended
          | ok _ =>
              cases ended
              exact List.filter_eq_nil_iff.mpr fun table _ =>
                Bool.eq_false_iff.mp (isShadowed_append_of_drops drops table)

end Leftovers

/-- The answers of a session that refuses the shadow of one table. -/
def refusing (table : Table) (message : String) (call : Call) : Except Fault Nat :=
  if Shadow.created? call.statement.toList = some table.name.toList then
    .error ⟨.query, message⟩
  else
    .ok 0

section Refusal

variable {table : Table} {message : String}

theorem refusing_drop (shadow : Table) :
    refusing table message (.execute (dropStatement shadow)) = .ok 0 := by
  simp [refusing, Call.statement, dropStatement_drops]

theorem refusing_definition {definition : String} {shadow : Table}
    (creates : Shadow.created? definition.toList = some shadow.name.toList) :
    refusing table message (.execute definition) =
      if shadow = table then .error ⟨.query, message⟩ else .ok 0 := by
  have sameName : shadow.name.toList = table.name.toList ↔ shadow = table := by
    cases shadow <;> cases table <;> decide
  simp [refusing, Call.statement, creates, sameName]

theorem definitions_refused {definitions : List String} {tables : List Table}
    {sent : List Exchange} {outcome : Except Fault Unit}
    (creating : List.Forall₂ (fun definition shadow =>
      Shadow.created? definition.toList = some shadow.name.toList) definitions tables)
    (member : table ∈ tables)
    (follows : Follows (definitions.map defineStep) sent outcome)
    (answered : AnsweredBy (refusing table message) sent) :
    outcome = .error (installFailed message) ∧
      sent.length = tables.idxOf table + 1 := by
  induction creating generalizing sent with
  | nil => cases member
  | @cons definition shadow definitions tables here _ induction =>
      cases follows with
      | @answered _ later _ _ count further =>
          have reply := answered _ List.mem_cons_self
          have different : shadow ≠ table := by
            intro same
            rw [defineStep, Step.call, refusing_definition here, if_pos same] at reply
            cases reply
          have inLater : table ∈ tables :=
            (List.mem_cons.mp member).resolve_left (Ne.symm different)
          obtain ⟨refused, length⟩ := induction inLater further
            fun exchange sent => answered exchange (List.mem_cons_of_mem _ sent)
          refine ⟨refused, ?_⟩
          rw [List.length_cons, length, List.idxOf_cons_ne _ different]
      | failed call report fault =>
          have reply := answered _ List.mem_cons_self
          by_cases same : shadow = table
          · rw [refusing_definition here, if_pos same] at reply
            cases reply
            exact ⟨rfl, by simp [same]⟩
          · rw [refusing_definition here, if_neg same] at reply
            cases reply

/-- The installation drops all shadows and stops at the one that the session
refuses. -/
theorem installation_refused {sent : List Exchange} {outcome : Except Fault Unit}
    (follows : Follows installPlan sent outcome)
    (answered : AnsweredBy (refusing table message) sent) :
    outcome = .error (installFailed message) ∧
      sent.length = dropPlan.length + (Table.all.idxOf table + 1) := by
  have droppable : forecast (refusing table message) dropPlan = .ok () := by
    refine forecast_eq_ok fun step due => ?_
    obtain ⟨shadow, rfl⟩ := mem_dropPlan_iff.mp due
    exact ⟨0, refusing_drop shadow⟩
  rcases follows.split with
    ⟨fault, -, inDrops⟩ | ⟨dropping, defining, rfl, drops, defines⟩
  · have cut := inDrops.outcome_eq_forecast answered
    rw [droppable] at cut
    cases cut
  · have length : dropping.length = dropPlan.length := by
      simpa using congrArg List.length drops.calls_eq
    obtain ⟨refused, defined⟩ := definitions_refused
      (definitions_create.imp fun _ _ creates => creates.1)
      (by cases table <;> decide) defines
      fun exchange sent => answered exchange (List.mem_append_right _ sent)
    exact ⟨refused, by rw [List.length_append, length, defined]⟩

theorem Course.refused {timeout : Timeout} {queries : List Query}
    {sent : List Exchange} {outcome : Except Fault Verdict}
    (course : Course timeout queries sent outcome)
    (answered : AnsweredBy (refusing table message) sent)
    (disabling : isUnsupported (installFailed message) = true) :
    outcome = .ok .unsupported ∧
      sent.length = dropPlan.length + (Table.all.idxOf table + 1) := by
  cases course with
  | stopped installs =>
      obtain ⟨refused, length⟩ := installation_refused installs answered
      cases refused
      exact ⟨by rw [if_pos (isUnsupported_iff.mp disabling)], length⟩
  | tried installs =>
      have refused := (installation_refused installs fun exchange member =>
        answered exchange (by simp [member])).1
      cases refused

/-- A session that refuses the shadow of one table in words that disable the
precheck is left with the shadows of all tables in front of it. -/
theorem refusal_leaves_shadows {σ : Type} {environment : Environment σ}
    (same : environment.AnswersBy (refusing table message))
    (disabling : isUnsupported (installFailed message) = true)
    {catalog : Catalog} {ids : List Nat} {queries : List Query}
    (known : ids.map catalog.get? = queries.map some) (timeout : Timeout) (state : σ) :
    let played := (run catalog ids timeout).outcome.play environment state
    played.value = .ok .unsupported ∧
      Table.all.filter (isShadowed (exchanges played.events)) =
        Table.all.take (Table.all.idxOf table) := by
  intro played
  have course := course_of_runs known
    (Program.runs_play environment (run catalog ids timeout).outcome state)
  have answered := answeredBy_play same (run catalog ids timeout).outcome state
  obtain ⟨value, length⟩ := course.refused answered disabling
  refine ⟨value, ?_⟩
  rw [value] at course
  rw [course.filter_isShadowed, leftover, length, ← Nat.add_assoc, Nat.add_right_comm,
    Nat.add_sub_cancel_left]

end Refusal

/-- A session that refuses the shadow of `region` as a server does that has no
temporary tables. -/
def refusingRegion : Environment Unit :=
  .answering (refusing .region
    "ERROR 1064 (42000): You have an error in your SQL syntax near 'TEMPORARY TABLE'")

theorem disabling_refusingRegion : isUnsupported (installFailed
    "ERROR 1064 (42000): You have an error in your SQL syntax near 'TEMPORARY TABLE'") =
      true := by
  decide +kernel

theorem unsupported_refusingRegion :
    let played := (run .single [1] .disabled).outcome.play refusingRegion ()
    played.value = .ok .unsupported ∧
      Table.all.filter (isShadowed (exchanges played.events)) = [.nation] := by
  have known : [1].map Catalog.single.get? = Catalog.single.queries.map some := rfl
  exact refusal_leaves_shadows (Environment.answersBy_answering _)
    disabling_refusingRegion known .disabled ()

/-- The tables that a precheck leaves shadowed, for every session: none if it
passes or if the installation stopped at the first definition or before, and
otherwise the tables of all definitions in front of the one that failed. -/
theorem run_leaves_shadows {σ : Type} (environment : Environment σ) (state : σ)
    (catalog : Catalog) (ids : List Nat) (timeout : Timeout) (verdict : Verdict)
    (completed : ((run catalog ids timeout).outcome.play environment state).value =
      .ok verdict) :
    let sent := exchanges
      ((run catalog ids timeout).outcome.play environment state).events
    ((∀ table, isShadowed sent table = false) ↔
        verdict = .passed ∨ sent.length ≤ dropPlan.length + 1) ∧
      Table.all.filter (isShadowed sent) = leftover sent verdict := by
  intro sent
  have running :=
    Program.runs_play environment (run catalog ids timeout).outcome state
  rw [completed] at running
  have shadowed : Table.all.filter (isShadowed sent) = leftover sent verdict := by
    rcases Catalog.unknown_or_known catalog ids with unknown | ⟨queries, known⟩
    · cases (runs_of_unknown unknown running).2
    · exact (course_of_runs known running).filter_isShadowed
  have none : (∀ table, isShadowed sent table = false) ↔ leftover sent verdict = [] := by
    rw [← shadowed, List.filter_eq_nil_iff]
    constructor
    · intro unshadowed table _
      simp [unshadowed table]
    · intro unshadowed table
      exact Bool.eq_false_iff.mpr (unshadowed table (by cases table <;> decide))
  refine ⟨none.trans ?_, shadowed⟩
  cases verdict with
  | passed => simp [leftover]
  | unsupported =>
      have some : Table.all ≠ [] := List.cons_ne_nil _ _
      simp [leftover, List.take_eq_nil_iff, some, Nat.sub_eq_zero_iff_le]

theorem shadows_left_by_refusingRegion :
    ((run .single [1] .disabled).outcome.play refusingRegion ()).value =
        .ok .unsupported ∧
      let sent := exchanges
        ((run .single [1] .disabled).outcome.play refusingRegion ()).events
      ((∀ table, isShadowed sent table = false) ↔
          Verdict.unsupported = .passed ∨ sent.length ≤ dropPlan.length + 1) ∧
        Table.all.filter (isShadowed sent) = leftover sent .unsupported :=
  ⟨unsupported_refusingRegion.1, run_leaves_shadows refusingRegion () .single [1]
    .disabled .unsupported unsupported_refusingRegion.1⟩

/-- A precheck that finds temporary tables unsupported can leave a shadow, though
no query creates one. -/
theorem shadow_survives :
    let played := (run .single [1] .disabled).outcome.play refusingRegion ()
    (∀ query ∈ Catalog.single.queries, ∀ statement ∈ query.statements,
        Shadow.created? statement.toList = none) ∧
      played.value = .ok .unsupported ∧
      isShadowed (exchanges played.events) .nation = true := by
  intro played
  obtain ⟨value, shadowed⟩ := unsupported_refusingRegion
  have left : Table.nation ∈ Table.all.filter (isShadowed (exchanges played.events)) :=
    shadowed ▸ List.mem_singleton_self Table.nation
  exact ⟨by decide +kernel, value, (List.mem_filter.mp left).2⟩

end Precheck

end DecisionBench
