import DecisionBench.Proofs.Forecast
import DecisionBench.Proofs.Itinerary
import DecisionBench.Proofs.Scope

/-!
# Conversations with a session

A respondent is a session as a machine: what it answers to a call may depend on
every call before, and on nothing else.  Two programs agree if they hold the same
conversation with every respondent, from every state of it (`Program.Agree`).  A
program that asks for nothing but calls agrees with itself
(`Program.KeepsTo.agree`); one that also reads clocks or files need not.
-/

namespace DecisionBench

/-- A session as a machine, which answers a call and changes its state. -/
structure Respondent (κ : Type) where
  answer : Call → κ → Except Fault Nat × κ

namespace Respondent

variable {κ : Type} (respondent : Respondent κ)

/-- The state in which some exchanges leave the respondent. -/
def after : κ → List Exchange → κ
  | state, [] => state
  | state, exchange :: later =>
      after (respondent.answer exchange.call state).2 later

/-- The exchanges have the answers of the respondent. -/
def Answers : κ → List Exchange → Prop
  | _, [] => True
  | state, exchange :: later =>
      exchange.answer = (respondent.answer exchange.call state).1 ∧
        Answers (respondent.answer exchange.call state).2 later

theorem answers_cons {respondent : Respondent κ} {call : Call}
    {answer : Except Fault Nat} {moved state : κ} {later : List Exchange}
    (given : (answer, moved) = respondent.answer call state)
    (further : respondent.Answers moved later) :
    respondent.Answers state (⟨call, answer⟩ :: later) := by
  rw [Answers, ← given]
  exact ⟨rfl, further⟩

theorem answers_append (state : κ) (first later : List Exchange) :
    respondent.Answers state (first ++ later) ↔
      respondent.Answers state first ∧
        respondent.Answers (respondent.after state first) later := by
  induction first generalizing state with
  | nil => simp [Answers, after]
  | cons exchange first induction =>
      simp only [List.cons_append, Answers, after, induction, and_assoc]

end Respondent

/-- Whether a request is a call or an entry in the journal. -/
def Effect.isTalk : Effect → Bool
  | .execute _ | .countRows _ | .note _ => true
  | _ => false

namespace Program

variable {α β γ δ : Type}

/-- Whenever a respondent answers a run of each program from one state, the runs
have the same exchanges, and their values are related. -/
def Agree (left : Program α) (right : Program β) (related : α → β → Prop) : Prop :=
  ∀ (κ : Type) (respondent : Respondent κ) (state : κ) (events others : List Event)
    (value : α) (other : β), left.Runs events value → right.Runs others other →
    respondent.Answers state (exchanges events) →
    respondent.Answers state (exchanges others) →
    exchanges events = exchanges others ∧ related value other

namespace Agree

variable {left : Program α} {right : Program β} {related : α → β → Prop}

theorem bind {next : α → Program γ} {otherNext : β → Program δ}
    {relatedAfter : γ → δ → Prop} (agree : left.Agree right related)
    (further : ∀ value other, related value other →
      (next value).Agree (otherNext other) relatedAfter) :
    (left >>= next).Agree (right >>= otherNext) relatedAfter := by
  intro κ respondent state events others value other leftRun rightRun leftAnswers
    rightAnswers
  obtain ⟨first, middle, later, rfl, firstRun, laterRun⟩ := runs_bind_iff.mp leftRun
  obtain ⟨otherFirst, otherMiddle, otherLater, rfl, otherFirstRun, otherLaterRun⟩ :=
    runs_bind_iff.mp rightRun
  rw [exchanges_append, Respondent.answers_append] at leftAnswers rightAnswers
  obtain ⟨sameFirst, middles⟩ := agree κ respondent state first otherFirst middle
    otherMiddle firstRun otherFirstRun leftAnswers.1 rightAnswers.1
  -- The same exchanges leave the respondent in one state, from which both go on.
  rw [← sameFirst] at rightAnswers
  obtain ⟨sameLater, values⟩ := further middle otherMiddle middles κ respondent _ later
    otherLater value other laterRun otherLaterRun leftAnswers.2 rightAnswers.2
  exact ⟨by rw [exchanges_append, exchanges_append, sameFirst, sameLater], values⟩

theorem pure {value : α} {other : β} (holds : related value other) :
    (Pure.pure value : Program α).Agree (Pure.pure other) related := by
  intro κ respondent state events others result otherResult leftRun rightRun _ _
  obtain ⟨rfl, rfl⟩ := runs_pure_iff.mp leftRun
  obtain ⟨rfl, rfl⟩ := runs_pure_iff.mp rightRun
  exact ⟨rfl, holds⟩

theorem of_silent (leftSilent : left.Silent) (rightSilent : right.Silent) :
    left.Agree right fun _ _ => True := by
  intro κ respondent state events others value other leftRun rightRun _ _
  rw [leftSilent events value leftRun, rightSilent others other rightRun]
  exact ⟨rfl, trivial⟩

end Agree

/-- A respondent that answers two runs from one state makes them the same. -/
theorem KeepsTo.agree {program : Program α} (keeps : program.KeepsTo Effect.isTalk) :
    program.Agree program (· = ·) := by
  intro κ respondent state events others value other leftRun rightRun leftAnswers
    rightAnswers
  induction keeps generalizing state events others with
  | done given =>
      obtain ⟨rfl, rfl⟩ := runs_done_iff.mp leftRun
      obtain ⟨rfl, rfl⟩ := runs_done_iff.mp rightRun
      exact ⟨rfl, rfl⟩
  | @ask effect next talk _ induction =>
      obtain ⟨reply, later, rfl, leftRest⟩ := runs_ask_iff.mp leftRun
      obtain ⟨otherReply, otherLater, rfl, rightRest⟩ := runs_ask_iff.mp rightRun
      cases effect with
      | execute statement | countRows statement =>
          obtain ⟨given, leftAnswers⟩ := leftAnswers
          obtain ⟨otherGiven, rightAnswers⟩ := rightAnswers
          -- One state of the respondent has one answer to the call.
          obtain rfl : reply = otherReply := given.trans otherGiven.symm
          obtain ⟨sameLater, sameValue⟩ := induction reply _ later
            otherLater leftRest rightRest leftAnswers rightAnswers
          exact ⟨congrArg (List.cons _) sameLater, sameValue⟩
      | note entry =>
          exact induction reply state later otherLater leftRest rightRest
            leftAnswers rightAnswers
      | _ => cases talk

end Program

namespace Procedure

variable {α β γ : Type}

/-- Behind a procedure that only makes calls two runs stand at the same point, with
the same value or the same fault. -/
theorem agree_bind {procedure : Procedure α} {next : α → Procedure β}
    {otherNext : α → Procedure γ} {related : Except Fault β → Except Fault γ → Prop}
    (keeps : procedure.KeepsTo Effect.isTalk)
    (faults : ∀ fault, related (.error fault) (.error fault))
    (further : ∀ value, (next value).outcome.Agree (otherNext value).outcome related) :
    (procedure >>= next).outcome.Agree (procedure >>= otherNext).outcome related := by
  refine Program.Agree.bind (Program.KeepsTo.agree keeps) fun outcome other same => ?_
  subst same
  cases outcome with
  | ok value => exact further value
  | error fault => exact .pure (faults fault)

end Procedure

/-! ### Environments that reach a respondent -/

namespace Environment

variable {σ κ : Type}

/-- Behind the environment stands the respondent, in the state that `seen` tells:
it answers the calls, and readings of the clock or of a status file, waiting and
entries in the journal do not touch it. -/
structure Reaches (environment : Environment σ) (respondent : Respondent κ)
    (seen : σ → κ) : Prop where
  execute : ∀ statement state,
    Prod.map id seen (environment.answer (.execute statement) state) =
      respondent.answer (.execute statement) (seen state)
  countRows : ∀ statement state,
    Prod.map id seen (environment.answer (.countRows statement) state) =
      respondent.answer (.countRows statement) (seen state)
  unmoved : ∀ effect state, effect.isOutward = false →
    seen (environment.answer effect state).2 = seen state

/-- If a run asks nothing else of the world, the respondent answers its calls. -/
theorem Reaches.answers_play {environment : Environment σ} {respondent : Respondent κ}
    {seen : σ → κ} (reaches : environment.Reaches respondent seen) {α : Type}
    (program : Program α) (state : σ)
    (calls : ∀ effect ∈ requests (program.play environment state).events,
      ∃ call : Call, effect = call.effect) :
    respondent.Answers (seen state)
      (exchanges (program.play environment state).events) := by
  induction program generalizing state with
  | done value => trivial
  | ask effect next induction =>
      have further := induction (environment.answer effect state).1
        (environment.answer effect state).2
      cases effect with
      | execute statement =>
          exact Respondent.answers_cons (reaches.execute statement state)
            (further fun effect member => calls effect (List.mem_cons_of_mem _ member))
      | countRows statement =>
          exact Respondent.answers_cons (reaches.countRows statement state)
            (further fun effect member => calls effect (List.mem_cons_of_mem _ member))
      -- No call is made here, and the respondent stays as it is.
      | clock | pause _ | readStatus _ _ | note _ =>
          rw [reaches.unmoved _ state rfl] at further
          exact further calls
      | _ =>
          obtain ⟨call, same⟩ := calls _ List.mem_cons_self
          cases call <;> cases same

/-- A respondent with a status file beside it, and nothing else around. -/
def beside (respondent : Respondent κ) (status : Except String String) :
    Environment κ where
  answer
    | .execute statement, state => respondent.answer (.execute statement) state
    | .countRows statement, state => respondent.answer (.countRows statement) state
    | .readStatus _ _, state => (status, state)
    | effect, state => (effect.idleReply, state)

theorem reaches_beside (respondent : Respondent κ) (status : Except String String) :
    (beside respondent status).Reaches respondent id where
  execute _ _ := rfl
  countRows _ _ := rfl
  unmoved effect state inward := by
    cases effect with
    | clock | pause _ | readStatus _ _ | note _ => rfl
    | _ => cases inward

end Environment

end DecisionBench
