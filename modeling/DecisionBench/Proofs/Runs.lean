import DecisionBench.Session

/-!
# Runs of programs

`Runs` relates a program to the events and the value of one of its runs, with
no environment in sight: any reply may be the answer to a request.  Playing a
program in an environment is such a run (`runs_play`), so that what holds of
all runs holds in every environment and from every state of it.

The other statements take a run apart along the program: a sequence runs its
parts one after the other, and a procedure that ends with a fault runs nothing
behind it.
-/

namespace DecisionBench

namespace Program

variable {α β : Type}

/-- A program returns a value after some events, if each request got the reply
that its event tells. -/
inductive Runs : Program α → List Event → α → Prop where
  | done (value : α) : Runs (.done value) [] value
  | ask {effect : Effect} {next : effect.Reply → Program α}
      {reply : effect.Reply} {events : List Event} {value : α} :
      Runs (next reply) events value →
      Runs (.ask effect next) (⟨effect, reply⟩ :: events) value

theorem runs_play {σ : Type} (environment : Environment σ)
    (program : Program α) (state : σ) :
    program.Runs (program.play environment state).events
      (program.play environment state).value := by
  induction program generalizing state with
  | done value => exact .done value
  | ask effect next induction =>
      exact .ask (induction (environment.answer effect state).1
        (environment.answer effect state).2)

theorem reply_of_mem_play {σ : Type} (environment : Environment σ)
    (program : Program α) (state : σ) :
    ∀ event ∈ (program.play environment state).events,
      ∃ before, event.reply = (environment.answer event.effect before).1 := by
  induction program generalizing state with
  | done value => simp
  | ask effect next induction =>
      intro event member
      rcases List.mem_cons.mp member with rfl | later
      · exact ⟨state, rfl⟩
      · exact induction _ _ event later

@[simp] theorem runs_done_iff {value result : α} {events : List Event} :
    (Program.done value).Runs events result ↔ events = [] ∧ result = value := by
  constructor
  · intro run
    cases run
    exact ⟨rfl, rfl⟩
  · rintro ⟨rfl, rfl⟩
    exact .done _

@[simp] theorem runs_pure_iff {value result : α} {events : List Event} :
    (pure value : Program α).Runs events result ↔
      events = [] ∧ result = value :=
  runs_done_iff

theorem runs_ask_iff {effect : Effect} {next : effect.Reply → Program α}
    {events : List Event} {value : α} :
    (Program.ask effect next).Runs events value ↔
      ∃ reply later, events = ⟨effect, reply⟩ :: later ∧
        (next reply).Runs later value := by
  constructor
  · intro run
    cases run with
    | ask rest => exact ⟨_, _, rfl, rest⟩
  · rintro ⟨reply, later, rfl, rest⟩
    exact .ask rest

@[simp] theorem runs_request_iff {effect : Effect} {events : List Event}
    {reply : effect.Reply} :
    (request effect).Runs events reply ↔ events = [⟨effect, reply⟩] := by
  rw [request, runs_ask_iff]
  constructor
  · rintro ⟨given, later, rfl, rest⟩
    obtain ⟨rfl, rfl⟩ := runs_done_iff.mp rest
    rfl
  · rintro rfl
    exact ⟨reply, [], rfl, .done reply⟩

/-- A sequence of two programs runs the first and then, with its value, the
second. -/
theorem runs_bind_iff {program : Program α} {next : α → Program β}
    {events : List Event} {result : β} :
    (program >>= next).Runs events result ↔
      ∃ first value later, events = first ++ later ∧
        program.Runs first value ∧ (next value).Runs later result := by
  change (program.bind next).Runs events result ↔ _
  induction program generalizing events with
  | done value =>
      constructor
      · intro run
        exact ⟨[], value, events, rfl, .done value, run⟩
      · rintro ⟨first, given, later, rfl, firstRun, laterRun⟩
        obtain ⟨rfl, rfl⟩ := runs_done_iff.mp firstRun
        exact laterRun
  | ask effect rest induction =>
      constructor
      · intro run
        obtain ⟨reply, tail, rfl, tailRun⟩ := runs_ask_iff.mp run
        obtain ⟨first, value, later, rfl, firstRun, laterRun⟩ :=
          (induction reply).mp tailRun
        exact ⟨⟨effect, reply⟩ :: first, value, later, rfl,
          .ask firstRun, laterRun⟩
      · rintro ⟨first, value, later, rfl, firstRun, laterRun⟩
        obtain ⟨reply, tail, rfl, tailRun⟩ := runs_ask_iff.mp firstRun
        exact .ask ((induction reply).mpr
          ⟨tail, value, later, rfl, tailRun, laterRun⟩)

/-- A value that is only translated needs no further request. -/
theorem runs_bind_done_iff {program : Program α} {next : α → Program β}
    {translate : α → β} (translated : ∀ value, next value = .done (translate value))
    {events : List Event} {result : β} :
    (program >>= next).Runs events result ↔
      ∃ value, program.Runs events value ∧ result = translate value := by
  rw [runs_bind_iff]
  constructor
  · rintro ⟨first, value, later, rfl, firstRun, laterRun⟩
    rw [translated] at laterRun
    obtain ⟨rfl, rfl⟩ := runs_done_iff.mp laterRun
    exact ⟨value, by simpa using firstRun, rfl⟩
  · rintro ⟨value, run, rfl⟩
    refine ⟨events, value, [], by simp, run, ?_⟩
    rw [translated]
    exact .done _

end Program

namespace Procedure

open Program

variable {α β : Type}

@[simp] theorem runs_pure_iff {value : α} {events : List Event}
    {result : Except Fault α} :
    (pure value : Procedure α).outcome.Runs events result ↔
      events = [] ∧ result = .ok value :=
  runs_done_iff

/-- A sequence of two procedures ends with the fault of the first, or runs the
first to its value and then the second. -/
theorem runs_bind_iff {procedure : Procedure α} {next : α → Procedure β}
    {events : List Event} {result : Except Fault β} :
    (procedure >>= next).outcome.Runs events result ↔
      (∃ fault, procedure.outcome.Runs events (.error fault) ∧
        result = .error fault) ∨
      ∃ first value later, events = first ++ later ∧
        procedure.outcome.Runs first (.ok value) ∧
        (next value).outcome.Runs later result := by
  have unfolded : (procedure >>= next).outcome =
      (procedure.outcome >>= ExceptT.bindCont next) := rfl
  rw [unfolded, Program.runs_bind_iff]
  constructor
  · rintro ⟨first, ended, later, rfl, firstRun, laterRun⟩
    cases ended with
    | error fault =>
        obtain ⟨rfl, rfl⟩ := runs_done_iff.mp laterRun
        exact .inl ⟨fault, by simpa using firstRun, rfl⟩
    | ok value => exact .inr ⟨first, value, later, rfl, firstRun, laterRun⟩
  · rintro (⟨fault, run, rfl⟩ | ⟨first, value, later, rfl, firstRun, laterRun⟩)
    · exact ⟨events, .error fault, [], by simp, run, .done _⟩
    · exact ⟨first, .ok value, later, rfl, firstRun, laterRun⟩

/-- A procedure whose value is only translated is run as it is. -/
theorem runs_bind_pure_iff {procedure : Procedure α} {translate : α → β}
    {events : List Event} {result : Except Fault β} :
    (procedure >>= fun value => pure (translate value)).outcome.Runs events result ↔
      ∃ told, procedure.outcome.Runs events told ∧ result = told.map translate :=
  Program.runs_bind_done_iff fun told => by cases told <;> rfl

theorem runs_lift_iff {program : Program α} {events : List Event}
    {result : Except Fault α} :
    (liftM program : Procedure α).outcome.Runs events result ↔
      ∃ value, result = .ok value ∧ program.Runs events value := by
  have unfolded : (liftM program : Procedure α).outcome =
      (program >>= fun value => .done (.ok value)) := rfl
  rw [unfolded, Program.runs_bind_done_iff fun _ => rfl]
  exact exists_congr fun value => and_comm

theorem runs_lift_bind_iff {program : Program α} {next : α → Procedure β}
    {events : List Event} {result : Except Fault β} :
    (liftM program >>= next : Procedure β).outcome.Runs events result ↔
      ∃ first value later, events = first ++ later ∧
        program.Runs first value ∧ (next value).outcome.Runs later result := by
  rw [runs_bind_iff]
  constructor
  · rintro (⟨fault, run, -⟩ | ⟨first, value, later, rfl, firstRun, laterRun⟩)
    · obtain ⟨value, impossible, -⟩ := runs_lift_iff.mp run
      cases impossible
    · obtain ⟨given, same, givenRun⟩ := runs_lift_iff.mp firstRun
      cases same
      exact ⟨first, value, later, rfl, givenRun, laterRun⟩
  · rintro ⟨first, value, later, rfl, firstRun, laterRun⟩
    exact .inr ⟨first, value, later, rfl,
      runs_lift_iff.mpr ⟨value, rfl, firstRun⟩, laterRun⟩

@[simp] theorem runs_ofOutcome_ok_bind_iff {value : α}
    {next : α → Procedure β} {events : List Event} {result : Except Fault β} :
    (ofOutcome (.ok value) >>= next).outcome.Runs events result ↔
      (next value).outcome.Runs events result :=
  Iff.rfl

@[simp] theorem runs_ofOutcome_error_bind_iff {fault : Fault}
    {next : α → Procedure β} {events : List Event} {result : Except Fault β} :
    (ofOutcome (.error fault) >>= next).outcome.Runs events result ↔
      events = [] ∧ result = .error fault :=
  runs_done_iff

theorem runs_rewording_iff {program : Program (Except Fault α)}
    {words : String → Fault} {events : List Event}
    {result : Except Fault α} :
    (rewording program words).outcome.Runs events result ↔
      ∃ told, program.Runs events told ∧
        result = told.mapError fun fault => words fault.message :=
  Program.runs_bind_done_iff fun told => by cases told <;> rfl

theorem runs_orFault_iff {program : Program (Except String α)}
    {words : String → Fault} {events : List Event}
    {result : Except Fault α} :
    (orFault program words).outcome.Runs events result ↔
      ∃ told, program.Runs events told ∧ result = told.mapError words :=
  Program.runs_bind_done_iff fun told => by cases told <;> rfl

theorem runs_ofOutcome_iff {outcome : Except Fault α} {events : List Event}
    {result : Except Fault α} :
    (ofOutcome outcome).outcome.Runs events result ↔
      events = [] ∧ result = outcome :=
  runs_done_iff

/-- A sequence of two procedures is played up to the fault of the first, or
through the first and then the second. -/
theorem play_bind {σ : Type} (environment : Environment σ)
    (procedure : Procedure α) (next : α → Procedure β) (state : σ) :
    (procedure >>= next).outcome.play environment state =
      let first := procedure.outcome.play environment state
      match first.value with
      | .error fault => ⟨.error fault, first.events, first.state⟩
      | .ok value =>
          let second := (next value).outcome.play environment first.state
          ⟨second.value, first.events ++ second.events, second.state⟩ := by
  have unfolded : (procedure >>= next).outcome =
      procedure.outcome.bind (ExceptT.bindCont next) := rfl
  rw [unfolded, Program.play_bind]
  cases ended : (procedure.outcome.play environment state).value with
  | ok value =>
      have goesOn : ExceptT.bindCont next (.ok value) = (next value).outcome := rfl
      simp [goesOn, ended]
  | error fault =>
      have stops : ExceptT.bindCont next (.error fault) =
          (.done (.error fault) : Program (Except Fault β)) := rfl
      simp [stops, ended]

end Procedure

end DecisionBench
