import DecisionBench.Proofs.Plan

/-!
# Forecasts

A session that answers a call always in the same way makes the outcome of a
plan a matter of the plan alone: `forecast` computes it, and every run that
follows the plan comes to it (`Follows.outcome_eq_forecast`).  `answering` is
the environment of such a session.
-/

namespace DecisionBench

/-- The session answers each call always in the same way. -/
def Environment.AnswersBy {σ : Type} (environment : Environment σ)
    (answers : Call → Except Fault Nat) : Prop :=
  ∀ state statement,
    (environment.answer (.execute statement) state).1 =
        answers (.execute statement) ∧
      (environment.answer (.countRows statement) state).1 =
        answers (.countRows statement)

/-- The reply to a request where there is nothing: no time passes, and there is
no file and no program. -/
def Effect.idleReply : (effect : Effect) → effect.Reply
  | .connect _ => .ok ()
  | .execute _ => .ok 0
  | .countRows _ => .ok 0
  | .closeSession => .ok ()
  | .clock => (0 : Nat)
  | .pause _ => ()
  | .readStatus _ _ => .error "No such file or directory"
  | .isFile _ => false
  | .pathExists _ => false
  | .resolvePath _ => .error "No such file or directory"
  | .readFile _ => .error "No such file or directory"
  | .writeFile _ _ => .error "No such file or directory"
  | .makeDirectories _ => .error "No such file or directory"
  | .spawn _ _ => .error "No such file or directory"
  | .print _ => .ok ()
  | .complain _ => .ok ()
  | .note _ => ()

/-- The environment of a session that answers so, with nothing around it. -/
def Environment.answering (answers : Call → Except Fault Nat) :
    Environment Unit where
  answer
    | .execute statement, _ => (answers (.execute statement), ())
    | .countRows statement, _ => (answers (.countRows statement), ())
    | effect, _ => (effect.idleReply, ())

theorem Environment.answersBy_answering (answers : Call → Except Fault Nat) :
    (Environment.answering answers).AnswersBy answers :=
  fun _ _ => ⟨rfl, rfl⟩

def AnsweredBy (answers : Call → Except Fault Nat) (sent : List Exchange) : Prop :=
  ∀ exchange ∈ sent, exchange.answer = answers exchange.call

theorem answeredBy_play {σ α : Type} {environment : Environment σ}
    {answers : Call → Except Fault Nat} (same : environment.AnswersBy answers)
    (program : Program α) (state : σ) :
    AnsweredBy answers (exchanges (program.play environment state).events) := by
  intro exchange member
  obtain ⟨⟨effect, reply⟩, played, told⟩ := List.mem_filterMap.mp member
  obtain ⟨before, answered⟩ :=
    Program.reply_of_mem_play environment program state _ played
  cases effect with
  | execute statement =>
      cases told
      exact answered.trans (same before statement).1
  | countRows statement =>
      cases told
      exact answered.trans (same before statement).2
  | _ => cases told

/-- What a plan comes to if the session answers so. -/
def forecast (answers : Call → Except Fault Nat) :
    List Step → Except Fault Unit
  | [] => .ok ()
  | .tolerated _ :: rest => forecast answers rest
  | .binding call report :: rest =>
      match answers call with
      | .ok _ => forecast answers rest
      | .error fault => .error (report fault)

theorem forecast_append (answers : Call → Except Fault Nat)
    (plan rest : List Step) :
    forecast answers (plan ++ rest) =
      match forecast answers plan with
      | .ok _ => forecast answers rest
      | .error fault => .error fault := by
  induction plan with
  | nil => rfl
  | cons step plan induction =>
      cases step with
      | tolerated call => exact induction
      | binding call report =>
          simp only [List.cons_append, forecast]
          cases answers call with
          | ok count => exact induction
          | error fault => rfl

theorem Follows.outcome_eq_forecast {answers : Call → Except Fault Nat}
    {plan : List Step} {sent : List Exchange} {outcome : Except Fault Unit}
    (follows : Follows plan sent outcome) (answered : AnsweredBy answers sent) :
    outcome = forecast answers plan := by
  induction follows with
  | done => rfl
  | answered step count _ induction =>
      have later := induction fun exchange member =>
        answered exchange (List.mem_cons_of_mem _ member)
      have here := answered _ List.mem_cons_self
      cases step with
      | tolerated call => exact later
      | binding call report =>
          simp only [Step.call] at here
          simp only [forecast, ← here, later]
  | tolerated call fault _ induction =>
      exact induction fun exchange member =>
        answered exchange (List.mem_cons_of_mem _ member)
  | failed call report fault =>
      have here := answered _ List.mem_cons_self
      simp only at here
      simp [forecast, ← here]

theorem forecast_limitPlan_append (answers : Call → Except Fault Nat)
    (timeout : Timeout) (rest : List Step) :
    forecast answers (limitPlan timeout ++ rest) = forecast answers rest := by
  cases timeout <;> rfl

/-- If every call of a plan is answered with a count, nothing is reported. -/
theorem forecast_eq_ok {answers : Call → Except Fault Nat} {plan : List Step}
    (counted : ∀ step ∈ plan, ∃ count, answers step.call = .ok count) :
    forecast answers plan = .ok () := by
  induction plan with
  | nil => rfl
  | cons step plan induction =>
      have later := induction fun step member =>
        counted step (List.mem_cons_of_mem _ member)
      obtain ⟨count, here⟩ := counted step List.mem_cons_self
      cases step with
      | tolerated call => exact later
      | binding call report =>
          simp only [Step.call] at here
          simp only [forecast, here, later]

def Catalog.single : Catalog :=
  ⟨[⟨1, "Plain", ["select * from nation"]⟩], List.pairwise_singleton _ _⟩

end DecisionBench
