import DecisionBench.Proofs.Runs

/-!
# Programs that keep to one kind of request

A program keeps to a kind of request if it asks for nothing else, whatever the
replies are (`Program.KeepsTo`).  The lemmas follow the ways in which programs and
procedures are built; the events of every run are then of that kind
(`Program.KeepsTo.of_mem`).
-/

namespace DecisionBench

namespace Program

variable {α β : Type} {kind : Effect → Bool}

/-- The program makes requests of one kind alone. -/
inductive KeepsTo (kind : Effect → Bool) : Program α → Prop where
  | done (value : α) : KeepsTo kind (.done value)
  | ask {effect : Effect} {next : effect.Reply → Program α} :
      kind effect = true → (∀ reply, KeepsTo kind (next reply)) →
      KeepsTo kind (.ask effect next)

namespace KeepsTo

theorem pure (value : α) : (Pure.pure value : Program α).KeepsTo kind :=
  .done value

theorem request {effect : Effect} (ofKind : kind effect = true) :
    (Program.request effect).KeepsTo kind :=
  .ask ofKind fun reply => .done reply

theorem bind {program : Program α} {next : α → Program β}
    (keeps : program.KeepsTo kind) (further : ∀ value, (next value).KeepsTo kind) :
    (program >>= next).KeepsTo kind := by
  change (program.bind next).KeepsTo kind
  induction keeps with
  | done value => exact further value
  | ask ofKind _ induction => exact .ask ofKind induction

theorem of_mem {program : Program α} {events : List Event} {value : α}
    (keeps : program.KeepsTo kind) (run : program.Runs events value) :
    ∀ event ∈ events, kind event.effect = true := by
  induction keeps generalizing events with
  | done given =>
      obtain ⟨rfl, -⟩ := runs_done_iff.mp run
      simp
  | ask ofKind _ induction =>
      obtain ⟨reply, later, rfl, laterRun⟩ := runs_ask_iff.mp run
      intro event member
      rcases List.mem_cons.mp member with rfl | further
      · exact ofKind
      · exact induction reply laterRun event further

end KeepsTo

end Program

namespace Procedure

variable {α β : Type} {kind : Effect → Bool}

/-- The procedure makes requests of one kind alone. -/
def KeepsTo (kind : Effect → Bool) (procedure : Procedure α) : Prop :=
  procedure.outcome.KeepsTo kind

namespace KeepsTo

theorem pure (value : α) : (Pure.pure value : Procedure α).KeepsTo kind :=
  .done _

theorem ofOutcome (outcome : Except Fault α) :
    (Procedure.ofOutcome outcome).KeepsTo kind :=
  .done outcome

theorem bind {procedure : Procedure α} {next : α → Procedure β}
    (keeps : procedure.KeepsTo kind) (further : ∀ value, (next value).KeepsTo kind) :
    (procedure >>= next).KeepsTo kind := by
  refine Program.KeepsTo.bind keeps fun outcome => ?_
  cases outcome with
  | ok value => exact further value
  | error fault => exact .done _

theorem lift {program : Program α} (keeps : program.KeepsTo kind) :
    (liftM program : Procedure α).KeepsTo kind :=
  Program.KeepsTo.bind keeps fun _ => .done _

theorem rewording {program : Program (Except Fault α)} (keeps : program.KeepsTo kind)
    (words : String → Fault) : (Procedure.rewording program words).KeepsTo kind := by
  refine Program.KeepsTo.bind keeps fun outcome => ?_
  cases outcome <;> exact .done _

theorem orFault {program : Program (Except String α)} (keeps : program.KeepsTo kind)
    (words : String → Fault) : (Procedure.orFault program words).KeepsTo kind := by
  refine Program.KeepsTo.bind keeps fun outcome => ?_
  cases outcome <;> exact .done _

end KeepsTo

end Procedure

end DecisionBench
