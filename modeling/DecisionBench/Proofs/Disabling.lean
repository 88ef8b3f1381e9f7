import DecisionBench.Command
import DecisionBench.Proofs.Shadow

/-!
# What disables the precheck

A fault of the installation reaches the classification in words of its own,
which stand in front of the text of the server.  These words already speak of
temporary tables, so that the number of a syntax error is all that the text of
the server has to contain (`isUnsupported_reworded`).

`unsupported_iff_syntax_fault` says what follows for a precheck as a whole: any
syntax error in the installation disables it, and any other fault is its
outcome.
-/

namespace DecisionBench

namespace Text

variable {needle front text : List Char}

theorem occurs_append_left (inFront : occurs needle front = true) (text : List Char) :
    occurs needle (front ++ text) = true :=
  occurs_iff.mpr ((occurs_iff.mp inFront).trans (List.prefix_append front text).isInfix)

/-- A text that cannot begin in the first part is found in the second or not at
all. -/
theorem occurs_append_right {k : Char} (absent : k ∉ front) (needle text : List Char) :
    occurs (k :: needle) (front ++ text) = occurs (k :: needle) text := by
  induction front with
  | nil => rfl
  | cons c front induction =>
      have different : k ≠ c := List.ne_of_not_mem_cons absent
      have absentLater : k ∉ front := List.not_mem_of_not_mem_cons absent
      simp [occurs, List.isPrefixOf, different, induction absentLater]

end Text

namespace Exchange

def fault? (exchange : Exchange) : Option Fault :=
  match exchange.answer with
  | .ok _ => none
  | .error fault => some fault

end Exchange

/-- The fault that the session gave first, in its own words. -/
def firstFault? (sent : List Exchange) : Option Fault :=
  sent.findSome? Exchange.fault?

namespace Follows

variable {plan : List Step} {sent : List Exchange} {fault : Fault}

theorem firstFault?_eq_none (carried : Follows plan sent (.ok ()))
    (binding : ∀ step ∈ plan, step.isBinding = true) : firstFault? sent = none := by
  generalize ended : (Except.ok () : Except Fault Unit) = finished at carried
  induction carried with
  | done => rfl
  | answered step count _ induction =>
      exact induction (fun step member => binding step (List.mem_cons_of_mem _ member)) ended
  | tolerated call fault _ _ => cases binding _ List.mem_cons_self
  | failed => cases ended

/-- If every call of a plan is binding, the first fault of the session is the
one that is reported. -/
theorem exists_firstFault? (stopped : Follows plan sent (.error fault))
    (binding : ∀ step ∈ plan, step.isBinding = true) :
    ∃ call report refusal, .binding call report ∈ plan ∧
      ⟨call, .error refusal⟩ ∈ sent ∧ firstFault? sent = some refusal ∧
      fault = report refusal := by
  generalize ended : (Except.error fault : Except Fault Unit) = finished at stopped
  induction stopped with
  | done => cases ended
  | answered step count _ induction =>
      obtain ⟨call, report, refusal, member, asked, first, reported⟩ :=
        induction (fun step member => binding step (List.mem_cons_of_mem _ member)) ended
      exact ⟨call, report, refusal, List.mem_cons_of_mem _ member,
        List.mem_cons_of_mem _ asked, first, reported⟩
  | tolerated call fault _ _ => cases binding _ List.mem_cons_self
  | failed call report refusal =>
      cases ended
      exact ⟨call, report, refusal, List.mem_cons_self, List.mem_cons_self, rfl, rfl⟩

end Follows

namespace Procedure

variable {σ α β : Type}

/-- Nothing is played behind a procedure that ends with a fault. -/
theorem play_bind_of_error {environment : Environment σ} {state : σ}
    {procedure : Procedure α} {fault : Fault} (next : α → Procedure β)
    (failed : (procedure.outcome.play environment state).value = .error fault) :
    ((procedure >>= next).outcome.play environment state).value = .error fault ∧
      ((procedure >>= next).outcome.play environment state).events =
        (procedure.outcome.play environment state).events := by
  simp [play_bind, failed]

end Procedure

namespace Precheck

/-- The fault that the session gave first while the shadows were installed. -/
def installationFault? (sent : List Exchange) : Option Fault :=
  firstFault? (sent.take installPlan.length)

theorem isBinding_of_mem_installPlan : ∀ step ∈ installPlan, step.isBinding = true := by
  intro step member
  rcases List.mem_append.mp member with drop | define
  · obtain ⟨table, -, rfl⟩ := List.mem_map.mp drop
    rfl
  · obtain ⟨definition, -, rfl⟩ := List.mem_map.mp define
    rfl

/-- Words in front of a text that speak of temporary tables, and in which the
number of a syntax error cannot begin, leave only this number to be looked for. -/
theorem isUnsupported_reworded {words : String} (kind : Fault.Kind) (message : String)
    (unnumbered : '1' ∉ words.toList)
    (temporary : Text.occurs "TEMPORARY".toList (words.toList.map Char.toUpper) = true) :
    isUnsupported ⟨kind, words ++ message⟩ = Text.contains message "1064" := by
  have number : "1064".toList = '1' :: "064".toList := by decide
  unfold isUnsupported Text.contains
  rw [String.toList_append, List.map_append, Text.occurs_append_left temporary,
    Bool.and_true, number, Text.occurs_append_right unnumbered]

theorem isUnsupported_installFailed (message : String) :
    isUnsupported (installFailed message) = Text.contains message "1064" :=
  isUnsupported_reworded _ message (by decide) (by decide +kernel)

theorem isUnsupported_dropFailed (table : Table) (message : String) :
    isUnsupported (dropFailed table message) = Text.contains message "1064" := by
  apply isUnsupported_reworded
  · cases table <;> decide
  · cases table <;> decide +kernel

theorem isUnsupported_of_mem_installPlan {call : Call} {report : Fault → Fault}
    (member : .binding call report ∈ installPlan) (refusal : Fault) :
    isUnsupported (report refusal) = Text.contains refusal.message "1064" := by
  rcases List.mem_append.mp member with drop | define
  · obtain ⟨table, same⟩ := mem_dropPlan_iff.mp drop
    cases same
    exact isUnsupported_dropFailed table refusal.message
  · obtain ⟨definition, -, same⟩ := List.mem_map.mp define
    cases same
    exact isUnsupported_installFailed refusal.message

section Courses

variable {timeout : Timeout} {queries : List Query} {sent : List Exchange}
  {outcome : Except Fault Verdict}

theorem exists_installationFault? {fault : Fault}
    (installs : Follows installPlan sent (.error fault)) :
    ∃ call report refusal, .binding call report ∈ installPlan ∧
      ⟨call, .error refusal⟩ ∈ sent ∧ installationFault? sent = some refusal ∧
      fault = report refusal := by
  have short : sent.length ≤ installPlan.length := by
    simpa using installs.calls_isPrefix.length_le
  rw [installationFault?, List.take_of_length_le short]
  exact installs.exists_firstFault? isBinding_of_mem_installPlan

/-- If nothing fails in the installation, the precheck is not disabled.
Otherwise the text of the server decides, and nothing is sent behind the
installation. -/
theorem Course.installation (course : Course timeout queries sent outcome) :
    (installationFault? sent = none ∧ outcome ≠ .ok .unsupported) ∨
      ∃ call report refusal, .binding call report ∈ installPlan ∧
        ⟨call, .error refusal⟩ ∈ sent ∧ installationFault? sent = some refusal ∧
        sent.map Exchange.call <+: installPlan.map Step.call ∧
        outcome = if Text.contains refusal.message "1064" then .ok .unsupported
          else .error (report refusal) := by
  cases course with
  | @stopped sent fault installs =>
      obtain ⟨call, report, refusal, member, asked, first, rfl⟩ :=
        exists_installationFault? installs
      refine .inr ⟨call, report, refusal, member, asked, first,
        installs.calls_isPrefix, ?_⟩
      simp only [← isUnsupported_iff, isUnsupported_of_mem_installPlan member]
  | @tried installed asked dropped answered cleared installs asks drops =>
      -- The installation was carried out, so that its exchanges are as many as
      -- its steps.
      have length : installPlan.length = installed.length := by
        simpa using (congrArg List.length installs.calls_eq).symm
      refine .inl ⟨?_, ?_⟩
      · rw [installationFault?, length, List.append_assoc, List.take_left]
        exact installs.firstFault?_eq_none isBinding_of_mem_installPlan
      · cases answered with
        | error fault => simp [verdict]
        | ok _ => cases cleared <;> simp [verdict]

theorem Course.eq_unsupported_iff (course : Course timeout queries sent outcome) :
    outcome = .ok .unsupported ↔ ∃ refusal, installationFault? sent = some refusal ∧
      Text.contains refusal.message "1064" = true := by
  rcases course.installation with
    ⟨clean, enabled⟩ | ⟨call, report, first, member, -, failed, cut, rfl⟩
  · simp [clean, enabled]
  · simp only [failed, Option.some.injEq, exists_eq_left']
    constructor
    · intro disabled
      split at disabled
      · assumption
      · cases disabled
    · intro numbered
      rw [if_pos numbered]

theorem Course.of_unnumbered {refusal : Fault}
    (course : Course timeout queries sent outcome)
    (failed : installationFault? sent = some refusal)
    (unnumbered : Text.contains refusal.message "1064" = false) :
    sent.map Exchange.call <+: installPlan.map Step.call ∧
      ∃ call report, .binding call report ∈ installPlan ∧
        ⟨call, .error refusal⟩ ∈ sent ∧ outcome = .error (report refusal) := by
  rcases course.installation with
    ⟨clean, enabled⟩ | ⟨call, report, first, member, asked, found, cut, rfl⟩
  · rw [clean] at failed
    cases failed
  · rw [found] at failed
    cases failed
    exact ⟨cut, call, report, member, asked, if_neg (Bool.eq_false_iff.mp unnumbered)⟩

theorem Course.installationFault?_of_refusing {table : Table} {message : String}
    (course : Course timeout queries sent outcome)
    (answered : AnsweredBy (refusing table message) sent) :
    installationFault? sent = some ⟨.query, message⟩ := by
  cases course with
  | stopped installs =>
      obtain ⟨call, report, refusal, -, asked, first, -⟩ :=
        exists_installationFault? installs
      have refused := answered ⟨call, .error refusal⟩ asked
      simp only [refusing] at refused
      split at refused
      · cases refused
        exact first
      · cases refused
  | tried installs =>
      have stops := (installation_refused installs fun exchange member =>
        answered exchange (by simp [member])).1
      cases stops

end Courses

/-- A precheck of known queries is disabled exactly if the first fault of the
installation has the number of a syntax error in its text, whatever else the
server says in it.  Any other fault of the installation is the outcome, in the
words of the step that failed; no query was sent then, and the run ends with
the same fault and sends nothing more. -/
theorem unsupported_iff_syntax_fault {σ : Type} (environment : Environment σ) (state : σ)
    (catalog : Catalog) (ids : List Nat) (queries : List Query) (timeout : Timeout)
    (known : ids.map catalog.get? = queries.map some) :
    let played := (run catalog ids timeout).outcome.play environment state
    let sent := exchanges played.events
    (played.value = .ok .unsupported ↔
        ∃ refusal, installationFault? sent = some refusal ∧
          Text.contains refusal.message "1064" = true) ∧
      ∀ refusal, installationFault? sent = some refusal →
        Text.contains refusal.message "1064" = false →
        sent.map Exchange.call <+: installPlan.map Step.call ∧
          ∃ call report, .binding call report ∈ installPlan ∧
            ⟨call, .error refusal⟩ ∈ sent ∧ played.value = .error (report refusal) ∧
            ∀ (watched : Option Nat) (output : Option String),
              let whole := (Command.runQueries catalog
                ⟨ids, timeout, true, watched, output⟩).outcome.play environment state
              whole.value = .error (report refusal) ∧ whole.events = played.events := by
  intro played sent
  have course : Course timeout queries sent played.value := course_of_runs known
    (Program.runs_play environment (run catalog ids timeout).outcome state)
  refine ⟨course.eq_unsupported_iff, ?_⟩
  intro refusal failed unnumbered
  obtain ⟨cut, call, report, member, asked, ended⟩ :=
    course.of_unnumbered failed unnumbered
  refine ⟨cut, call, report, member, asked, ended, ?_⟩
  intro watched output
  exact Procedure.play_bind_of_error _ ended

/-- The course of a precheck in a session that refuses the shadow of a table. -/
theorem installationFault?_refusing (table : Table) (message : String) :
    let played := (run .single [1] .disabled).outcome.play
      (.answering (refusing table message)) ()
    Course .disabled Catalog.single.queries (exchanges played.events) played.value ∧
      installationFault? (exchanges played.events) = some ⟨.query, message⟩ := by
  intro played
  have known : [1].map Catalog.single.get? = Catalog.single.queries.map some := rfl
  have course : Course .disabled Catalog.single.queries (exchanges played.events)
      played.value := course_of_runs known (Program.runs_play _ _ _)
  have answered : AnsweredBy (refusing table message) (exchanges played.events) :=
    answeredBy_play (Environment.answersBy_answering _) _ _
  exact ⟨course, course.installationFault?_of_refusing answered⟩

theorem denied_installation_ends_precheck :
    let refusal : Fault := ⟨.query, "ERROR 1044 (42000): CREATE TEMPORARY TABLES denied"⟩
    [1].map Catalog.single.get? = Catalog.single.queries.map some ∧
      ∃ call report, .binding call report ∈ installPlan ∧
        ((run .single [1] .disabled).outcome.play
          (.answering (refusing .nation refusal.message)) ()).value =
            .error (report refusal) := by
  intro refusal
  have known : [1].map Catalog.single.get? = Catalog.single.queries.map some := rfl
  have failed := (installationFault?_refusing .nation refusal.message).2
  obtain ⟨-, call, report, member, -, ended, -⟩ :=
    (unsupported_iff_syntax_fault (.answering (refusing .nation refusal.message)) ()
      .single [1] Catalog.single.queries .disabled known).2 refusal failed (by decide)
  exact ⟨known, call, report, member, ended⟩

/-- A syntax error that has nothing to do with temporary tables disables the
precheck all the same. -/
theorem disabled_without_temporary :
    let message := "ERROR 1064 (42000): syntax error near 'FROM'"
    let played := (run .single [1] .disabled).outcome.play
      (.answering (refusing .nation message)) ()
    played.value = .ok .unsupported ∧
      installationFault? (exchanges played.events) = some ⟨.query, message⟩ ∧
      Text.occurs "TEMPORARY".toList (message.toList.map Char.toUpper) = false := by
  intro message played
  obtain ⟨course, failed⟩ := installationFault?_refusing .nation message
  refine ⟨course.eq_unsupported_iff.mpr ⟨_, failed, ?_⟩, failed, ?_⟩
  · decide +kernel
  · decide +kernel

end Precheck

end DecisionBench
