import DecisionBench.Precheck
import DecisionBench.Proofs.Hint
import DecisionBench.Proofs.Runs

/-!
# Plans of statements

What a run sends to the session is the list of its exchanges: the statements
in order, each with the way it is sent and the answer it got.  A plan lists
the statements that are due.  `Follows` says that the exchanges are those of
the plan up to and including the first binding call that fails, and what the
plan comes to; a tolerated call may fail without further effect.

The last part says what the calls of a session send, the time limit included.
-/

namespace DecisionBench

/-- A statement and the way it is sent: for its effect or for its rows. -/
inductive Call where
  | execute (statement : String)
  | countRows (statement : String)
  deriving DecidableEq, Repr

/-- A call that reached the session, with the answer. -/
structure Exchange where
  call : Call
  answer : Except Fault Nat

def Call.statement : Call → String
  | .execute statement => statement
  | .countRows statement => statement

/-- The call of a statement under a time limit: the statement goes out with
its hint, for its rows if it is read-only and else for its effect. -/
def Call.hinted (timeout : Timeout) (statement : String) : Call :=
  if Statement.isReadOnly statement then
    .countRows (Statement.hinted timeout statement)
  else
    .execute (Statement.hinted timeout statement)

namespace Exchange

/-- Whether the session did what it was asked. -/
def succeeded (exchange : Exchange) : Bool :=
  match exchange.answer with
  | .ok _ => true
  | .error _ => false

/-- The rows that an exchange was sent for; none if it was sent for its
effect. -/
def rows (exchange : Exchange) : Nat :=
  match exchange with
  | ⟨.countRows _, .ok count⟩ => count
  | _ => 0

end Exchange

/-- The exchange that an event tells of, if it is one with the session. -/
def Event.exchange? : Event → Option Exchange
  | ⟨.execute statement, answer⟩ => some ⟨.execute statement, answer⟩
  | ⟨.countRows statement, answer⟩ => some ⟨.countRows statement, answer⟩
  | _ => none

/-- What the events of a run sent to the session. -/
def exchanges (events : List Event) : List Exchange :=
  events.filterMap Event.exchange?

@[simp] theorem exchanges_nil : exchanges [] = [] := rfl

@[simp] theorem exchanges_append (first later : List Event) :
    exchanges (first ++ later) = exchanges first ++ exchanges later :=
  List.filterMap_append

/-- A call that is due.  The fault of a binding call ends the plan, told as
the plan tells it; the fault of a tolerated call is passed over. -/
inductive Step where
  | binding (call : Call) (report : Fault → Fault)
  | tolerated (call : Call)

namespace Step

def call : Step → Call
  | .binding call _ => call
  | .tolerated call => call

/-- Whether a fault of the step ends the plan. -/
def isBinding : Step → Bool
  | .binding _ _ => true
  | .tolerated _ => false

@[simp] theorem call_binding (call : Call) (report : Fault → Fault) :
    (Step.binding call report).call = call := rfl

@[simp] theorem call_tolerated (call : Call) :
    (Step.tolerated call).call = call := rfl

end Step

/-- The exchanges are those of the plan, cut behind the first binding call
that fails; the outcome is the report of its fault. -/
inductive Follows : List Step → List Exchange → Except Fault Unit → Prop where
  | done : Follows [] [] (.ok ())
  | answered {rest : List Step} {later : List Exchange}
      {outcome : Except Fault Unit} (step : Step) (count : Nat) :
      Follows rest later outcome →
      Follows (step :: rest) (⟨step.call, .ok count⟩ :: later) outcome
  | tolerated {rest : List Step} {later : List Exchange}
      {outcome : Except Fault Unit} (call : Call) (fault : Fault) :
      Follows rest later outcome →
      Follows (.tolerated call :: rest) (⟨call, .error fault⟩ :: later) outcome
  | failed {rest : List Step} (call : Call) (report : Fault → Fault)
      (fault : Fault) :
      Follows (.binding call report :: rest) [⟨call, .error fault⟩]
        (.error (report fault))

namespace Follows

variable {plan rest : List Step} {sent later : List Exchange}
  {outcome : Except Fault Unit} {fault : Fault}

/-- A plan that was carried out goes on with the next one. -/
theorem append (carried : Follows plan sent (.ok ()))
    (further : Follows rest later outcome) :
    Follows (plan ++ rest) (sent ++ later) outcome := by
  generalize ended : (Except.ok () : Except Fault Unit) = finished at carried
  induction carried with
  | done => exact further
  | answered step count _ induction => exact .answered step count (induction ended)
  | tolerated call fault _ induction => exact .tolerated call fault (induction ended)
  | failed => cases ended

theorem append_of_error (stopped : Follows plan sent (.error fault))
    (rest : List Step) : Follows (plan ++ rest) sent (.error fault) := by
  generalize ended : (Except.error fault : Except Fault Unit) = finished at stopped
  induction stopped with
  | done => cases ended
  | answered step count _ induction => exact .answered step count (induction ended)
  | tolerated call fault _ induction => exact .tolerated call fault (induction ended)
  | failed call report fault => exact .failed call report fault

/-- Exchanges of two plans are those of the first, or all of these and then
those of the second. -/
theorem split (follows : Follows (plan ++ rest) sent outcome) :
    (∃ fault, outcome = .error fault ∧ Follows plan sent (.error fault)) ∨
      ∃ first later, sent = first ++ later ∧ Follows plan first (.ok ()) ∧
        Follows rest later outcome := by
  induction plan generalizing sent with
  | nil => exact .inr ⟨[], sent, rfl, .done, follows⟩
  | cons step plan induction =>
      cases follows with
      | answered _ count further =>
          rcases induction further with
            ⟨fault, ended, stopped⟩ | ⟨first, later, rfl, carried, behind⟩
          · exact .inl ⟨fault, ended, stopped.answered step count⟩
          · exact .inr ⟨_, later, rfl, carried.answered step count, behind⟩
      | tolerated call refused further =>
          rcases induction further with
            ⟨fault, ended, stopped⟩ | ⟨first, later, rfl, carried, behind⟩
          · exact .inl ⟨fault, ended, stopped.tolerated call refused⟩
          · exact .inr ⟨_, later, rfl, carried.tolerated call refused, behind⟩
      | failed call report fault =>
          exact .inl ⟨_, rfl, .failed call report fault⟩

/-- A plan that was carried out was sent as a whole. -/
theorem calls_eq (carried : Follows plan sent (.ok ())) :
    sent.map Exchange.call = plan.map Step.call := by
  generalize ended : (Except.ok () : Except Fault Unit) = finished at carried
  induction carried with
  | done => rfl
  | answered step count _ induction => simp [induction ended]
  | tolerated call fault _ induction => simp [induction ended]
  | failed => cases ended

theorem calls_isPrefix (follows : Follows plan sent outcome) :
    sent.map Exchange.call <+: plan.map Step.call := by
  induction follows with
  | done => exact List.prefix_refl []
  | answered step count _ induction =>
      exact List.cons_prefix_cons.mpr ⟨rfl, induction⟩
  | tolerated call fault _ induction =>
      exact List.cons_prefix_cons.mpr ⟨rfl, induction⟩
  | failed call report fault =>
      exact List.cons_prefix_cons.mpr ⟨rfl, List.nil_prefix⟩

theorem call_mem (follows : Follows plan sent outcome) :
    ∀ exchange ∈ sent, exchange.call ∈ plan.map Step.call :=
  fun _ member => follows.calls_isPrefix.subset (List.mem_map_of_mem member)

/-- In a plan that was carried out no binding call failed. -/
theorem succeeded_of_ok (carried : Follows plan sent (.ok ())) :
    ∀ pair ∈ plan.zip sent, pair.1.isBinding = true →
      pair.2.succeeded = true := by
  generalize ended : (Except.ok () : Except Fault Unit) = finished at carried
  induction carried with
  | done => simp
  | answered step count _ induction =>
      intro pair member binding
      rcases List.mem_cons.mp member with rfl | later
      · rfl
      · exact induction ended pair later binding
  | tolerated call fault _ induction =>
      intro pair member binding
      rcases List.mem_cons.mp member with rfl | later
      · cases binding
      · exact induction ended pair later binding
  | failed => cases ended

theorem exists_succeeded (carried : Follows plan sent (.ok ())) {step : Step}
    (member : step ∈ plan) (binding : step.isBinding = true) :
    ∃ exchange ∈ sent, exchange.call = step.call ∧ exchange.succeeded = true := by
  obtain ⟨index, bound, rfl⟩ := List.mem_iff_getElem.mp member
  have calls := carried.calls_eq
  have lengths : sent.length = plan.length := by
    simpa using congrArg List.length calls
  have inside : index < sent.length := lengths ▸ bound
  have sameCall : sent[index].call = plan[index].call := by
    simpa [inside, bound] using congrArg (·[index]?) calls
  have paired : (plan[index], sent[index]) ∈ plan.zip sent :=
    List.mem_iff_getElem.mpr ⟨index, by rw [List.length_zip]; omega, by simp⟩
  exact ⟨sent[index], List.getElem_mem inside, sameCall,
    carried.succeeded_of_ok _ paired binding⟩

theorem length_pos_of_error (stopped : Follows plan sent (.error fault)) :
    0 < sent.length := by
  cases stopped <;> exact Nat.succ_pos _

/-- In a plan that was cut some binding call failed, whatever stands behind. -/
theorem exists_failed_of_error (stopped : Follows plan sent (.error fault))
    (rest : List Step) (later : List Exchange) :
    ∃ pair ∈ (plan ++ rest).zip (sent ++ later),
      pair.1.isBinding = true ∧ pair.2.succeeded = false := by
  generalize ended : (Except.error fault : Except Fault Unit) = finished at stopped
  induction stopped with
  | done => cases ended
  | answered step count _ induction =>
      obtain ⟨pair, member, failed⟩ := induction ended
      exact ⟨pair, List.mem_cons_of_mem _ member, failed⟩
  | tolerated call fault _ induction =>
      obtain ⟨pair, member, failed⟩ := induction ended
      exact ⟨pair, List.mem_cons_of_mem _ member, failed⟩
  | failed call report fault =>
      exact ⟨_, List.mem_cons_self, rfl, rfl⟩

/-- If every call binds, the whole plan was sent and nothing failed, or the only
failure is that of the last call sent. -/
theorem completed_or_cut (follows : Follows plan sent outcome)
    (binding : ∀ step ∈ plan, step.isBinding = true) :
    (outcome = .ok () ∧ sent.map Exchange.call = plan.map Step.call ∧
        ∀ exchange ∈ sent, exchange.succeeded = true) ∨
      ∃ before call report after earlier fault,
        plan = before ++ .binding call report :: after ∧
        sent = earlier ++ [⟨call, .error fault⟩] ∧
        earlier.map Exchange.call = before.map Step.call ∧
        (∀ exchange ∈ earlier, exchange.succeeded = true) ∧
        outcome = .error (report fault) := by
  induction follows with
  | done => simp
  | answered step count _ induction =>
      rcases induction (List.forall_mem_cons.mp binding).2 with
        ⟨ended, calls, fine⟩ |
        ⟨before, call, report, after, earlier, fault, rfl, rfl, calls, fine, ended⟩
      · left
        exact ⟨ended, by simp [calls], List.forall_mem_cons.mpr ⟨rfl, fine⟩⟩
      · right
        exact ⟨step :: before, call, report, after, ⟨step.call, .ok count⟩ :: earlier,
          fault, rfl, rfl, by simp [calls], List.forall_mem_cons.mpr ⟨rfl, fine⟩, ended⟩
  | tolerated call fault _ _ =>
      cases binding (.tolerated call) List.mem_cons_self
  | failed call report fault =>
      right
      exact ⟨[], call, report, _, [], fault, rfl, rfl, rfl, by simp, rfl⟩

end Follows

namespace Program

variable {α β : Type}

def Silent (program : Program α) : Prop :=
  ∀ events value, program.Runs events value → exchanges events = []

def Returns (program : Program α) (value : α) : Prop :=
  ∀ events result, program.Runs events result →
    exchanges events = [] ∧ result = value

/-- Every run of the program makes one call and returns its answer. -/
def Sends (program : Program (Except Fault Nat)) (call : Call) : Prop :=
  ∀ events answer, program.Runs events answer →
    exchanges events = [⟨call, answer⟩]

theorem silent_request {effect : Effect}
    (elsewhere : ∀ reply, Event.exchange? ⟨effect, reply⟩ = none) :
    (request effect).Silent := by
  intro events reply run
  rw [runs_request_iff.mp run]
  simp [exchanges, elsewhere]

theorem silent_tell (level : Journal.Level) (speaker : Journal.Speaker)
    (message : String) : (Journal.tell level speaker message).Silent :=
  silent_request fun _ => rfl

theorem returns_pure (value : α) : (pure value : Program α).Returns value := by
  intro events result run
  obtain ⟨rfl, rfl⟩ := runs_pure_iff.mp run
  exact ⟨rfl, rfl⟩

/-- An entry in the journal changes nothing of what a program returns. -/
theorem returns_tell_bind (level : Journal.Level) (speaker : Journal.Speaker)
    (message : String) {next : Program α} {value : α} (returns : next.Returns value) :
    (Journal.tell level speaker message >>= fun _ => next).Returns value := by
  intro events result run
  obtain ⟨noted, _, later, rfl, noteRun, laterRun⟩ := runs_bind_iff.mp run
  have noteSilent := silent_tell level speaker message noted _ noteRun
  obtain ⟨laterSilent, same⟩ := returns later result laterRun
  exact ⟨by simp [noteSilent, laterSilent], same⟩

theorem sends_execute (statement : String) :
    (Session.execute statement).Sends (.execute statement) := by
  intro events answer run
  rw [runs_request_iff.mp run]
  rfl

theorem sends_countRows (statement : String) :
    (Session.countRows statement).Sends (.countRows statement) := by
  intro events answer run
  rw [runs_request_iff.mp run]
  rfl

end Program

/-- The hint leaves the way alone in which a statement is sent. -/
theorem Program.sends_hinted (timeout : Timeout) (statement : String) :
    (Precheck.send (Statement.hinted timeout statement)).Sends
      (.hinted timeout statement) := by
  unfold Precheck.send Call.hinted
  rw [Statement.isReadOnly_hinted]
  split
  · exact sends_countRows _
  · exact sends_execute _

/-- The plan of setting a time limit, which sends nothing if there is none. -/
def limitPlan : Timeout → List Step
  | .disabled => []
  | .after millis =>
      [.tolerated (.execute ("SET SESSION max_execution_time = " ++ toString millis))]

theorem follows_limitPlan {timeout : Timeout} {events : List Event} {held : Bool}
    (run : (Session.limit timeout).Runs events held) :
    Follows (limitPlan timeout) (exchanges events) (.ok ()) := by
  cases timeout with
  | disabled =>
      obtain ⟨rfl, -⟩ := Program.runs_pure_iff.mp run
      exact .done
  | after millis =>
      obtain ⟨first, answer, later, rfl, firstRun, laterRun⟩ :=
        Program.runs_bind_iff.mp run
      rw [exchanges_append, Program.sends_execute _ first answer firstRun]
      cases answer with
      | ok count =>
          rw [(Program.returns_pure true later held laterRun).1]
          exact Follows.done.answered (.tolerated _) count
      | error fault =>
          have returns := Program.returns_tell_bind .detail .session
            ("Session execution-time limit not applied: " ++ fault.display)
            (Program.returns_pure false)
          rw [(returns later held laterRun).1]
          exact Follows.done.tolerated _ fault

namespace Procedure

open Program

variable {α β : Type}

/-- Every run of the procedure follows the plan, and ends with a fault exactly
if the plan does, and with the same. -/
def CarriesOut (procedure : Procedure α) (plan : List Step) : Prop :=
  ∀ events outcome, procedure.outcome.Runs events outcome →
    Follows plan (exchanges events) (outcome.map fun _ => ())

namespace CarriesOut

theorem pure (value : α) : (pure value : Procedure α).CarriesOut [] := by
  intro events outcome run
  obtain ⟨rfl, rfl⟩ := Procedure.runs_pure_iff.mp run
  exact .done

theorem bind {procedure : Procedure α} {next : α → Procedure β}
    {plan rest : List Step} (carries : procedure.CarriesOut plan)
    (further : ∀ value, (next value).CarriesOut rest) :
    (procedure >>= next).CarriesOut (plan ++ rest) := by
  intro events outcome run
  rcases Procedure.runs_bind_iff.mp run with
    ⟨fault, firstRun, rfl⟩ | ⟨first, value, later, rfl, firstRun, laterRun⟩
  · exact (carries events _ firstRun).append_of_error rest
  · rw [exchanges_append]
    exact (carries first _ firstRun).append (further value later outcome laterRun)

theorem lift {program : Program α} (silent : program.Silent) :
    (liftM program : Procedure α).CarriesOut [] := by
  intro events outcome run
  obtain ⟨value, rfl, programRun⟩ := runs_lift_iff.mp run
  rw [silent events value programRun]
  exact .done

theorem limit (timeout : Timeout) :
    (liftM (Session.limit timeout) : Procedure Bool).CarriesOut
      (limitPlan timeout) := by
  intro events outcome run
  obtain ⟨held, rfl, programRun⟩ := runs_lift_iff.mp run
  exact follows_limitPlan programRun

theorem ofProgram {program : Program (Except Fault Nat)} {call : Call}
    (sends : program.Sends call) :
    (ofProgram program).CarriesOut [.binding call id] := by
  intro events outcome run
  rw [sends events outcome run]
  cases outcome with
  | ok count => exact Follows.done.answered (.binding call id) count
  | error fault => exact .failed call id fault

theorem rewording {program : Program (Except Fault Nat)} {call : Call}
    (sends : program.Sends call) (words : String → Fault) :
    (rewording program words).CarriesOut
      [.binding call fun fault => words fault.message] := by
  intro events outcome run
  obtain ⟨answer, programRun, rfl⟩ := runs_rewording_iff.mp run
  rw [sends events answer programRun]
  cases answer with
  | ok count => exact Follows.done.answered (.binding call _) count
  | error fault => exact .failed call _ fault

end CarriesOut

end Procedure

end DecisionBench
