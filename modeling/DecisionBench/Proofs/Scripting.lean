import DecisionBench.Proofs.Conversation
import DecisionBench.Proofs.Splitting

/-!
# Running a script

The statements of a script are sent in their order up to the first that fails, whose
fault is told with the first line of that statement.  A statement begins with a character
that is not blank, so that this line is never empty (`heading_ne_empty`).
-/

namespace DecisionBench

namespace Text

/-! ### First lines -/

theorem lines_append {line : List Char} (whole : '\n' ∉ line) (rest : List Char) :
    lines (line ++ '\n' :: rest) = withoutReturn line :: lines rest := by
  rw [lines, pieces_append_cons whole]
  cases shape : pieces (· == '\n') rest with
  | nil => exact absurd shape (pieces_ne_nil _ rest)
  | cons piece more => simp [linesOfPieces, lines, shape]

theorem lines_of_single {text : List Char} (whole : '\n' ∉ text) (nonempty : text ≠ []) :
    lines text = [text] := by
  rw [lines, pieces_of_not_mem whole]
  simp [linesOfPieces, nonempty]

end Text

namespace Script

open Text

/-- What stands in front of the first line feed, without a carriage return there. -/
def heading (statement : String) : String :=
  String.ofList (withoutReturn (statement.toList.takeWhile (· != '\n')))

theorem firstLine_eq_heading {statement : String}
    (fragment : IsFragment statement.toList) : firstLine statement = heading statement := by
  unfold firstLine heading
  by_cases member : '\n' ∈ statement.toList
  · obtain ⟨line, rest, split, whole⟩ := List.eq_append_cons_of_mem member
    have taken : (line ++ '\n' :: rest).takeWhile (· != '\n') = line := by
      rw [List.takeWhile_append_of_pos]
      · simp
      · intro c inLine
        exact bne_iff_ne.mpr (ne_of_mem_of_not_mem inLine whole)
    rw [split, lines_append whole, taken]
  · have taken : statement.toList.takeWhile (· != '\n') = statement.toList := by
      apply List.takeWhile_eq_self_iff.mpr
      intro c inText
      exact bne_iff_ne.mpr (ne_of_mem_of_not_mem inText member)
    have unclosed : statement.toList.getLast? ≠ some '\r' := by
      intro last
      cases fragment.trimmed.ends '\r' last
    rw [lines_of_single member fragment.nonempty, taken, withoutReturn, if_neg unclosed]

theorem heading_ne_empty {statement : String} (fragment : IsFragment statement.toList) :
    heading statement ≠ "" := by
  obtain ⟨nonempty, ⟨begins, -⟩, -⟩ := fragment
  unfold heading
  cases shape : statement.toList with
  | nil => exact absurd shape nonempty
  | cons c text =>
      have dark : isBlank c = false := begins c (by rw [shape]; rfl)
      have inLine : c ≠ '\n' := by
        rintro rfl
        cases dark
      have kept : withoutReturn (c :: text.takeWhile (· != '\n')) ≠ [] := by
        unfold withoutReturn
        cases text.takeWhile (· != '\n') with
        | nil =>
            have notReturn : c ≠ '\r' := by
              rintro rfl
              cases dark
            simp [notReturn]
        | cons d line => split <;> simp
      simpa [inLine] using kept

/-! ### Runs -/

def runStep (statement : String) : Step :=
  .binding (.execute statement) fun fault => failed statement fault.message

theorem carriesOut_sendAll (statements : List String) :
    (sendAll statements).CarriesOut (statements.map runStep) := by
  induction statements with
  | nil => exact .pure ()
  | cons statement statements induction =>
      refine (Procedure.CarriesOut.lift (Program.silent_tell _ _ _)).bind fun _ => ?_
      exact (Procedure.CarriesOut.rewording (Program.sends_execute statement) _).bind
        fun _ => induction

theorem binding_runSteps (statements : List String) :
    ∀ step ∈ statements.map runStep, step.isBinding = true := by
  intro step member
  obtain ⟨statement, -, rfl⟩ := List.mem_map.mp member
  rfl

theorem talk_sendAll (statements : List String) :
    (sendAll statements).KeepsTo Effect.isTalk := by
  induction statements with
  | nil => exact .pure ()
  | cons statement statements induction =>
      refine Procedure.KeepsTo.bind (.lift (.request rfl)) fun _ => ?_
      exact (Procedure.KeepsTo.rewording (.request rfl) _).bind fun _ => induction

/-- Either all statements were sent and none failed, or the last one sent is the first that
failed. -/
theorem sent_or_stopped {statements : List String} {sent : List Exchange}
    {outcome : Except Fault Unit} (follows : Follows (statements.map runStep) sent outcome) :
    (outcome = .ok () ∧ sent.map Exchange.call = statements.map Call.execute ∧
        ∀ exchange ∈ sent, exchange.succeeded = true) ∨
      ∃ before failing after earlier fault,
        statements = before ++ failing :: after ∧
        sent = earlier ++ [⟨.execute failing, .error fault⟩] ∧
        earlier.map Exchange.call = before.map Call.execute ∧
        (∀ exchange ∈ earlier, exchange.succeeded = true) ∧
        outcome = .error (failed failing fault.message) := by
  rcases follows.completed_or_cut (binding_runSteps statements) with
    ⟨ended, calls, fine⟩ |
    ⟨steps, call, report, later, earlier, fault, plan_eq, sent_eq, calls, fine, ended⟩
  · left
    rw [List.map_map] at calls
    exact ⟨ended, calls, fine⟩
  · right
    obtain ⟨before, rest, split, rfl, restSteps⟩ := List.map_eq_append_iff.mp plan_eq
    obtain ⟨failing, after, rfl, same, rfl⟩ := List.map_eq_cons_iff.mp restSteps
    obtain ⟨rfl, rfl⟩ := Step.binding.inj same
    rw [List.map_map] at calls
    exact ⟨before, failing, after, earlier, fault, split, sent_eq, calls, fine, ended⟩

/-- A script sends its statements for their effects, and asks for nothing else.  Either all
are sent and none fails, or the last one sent is the first that fails, and its fault is told
with its first line. -/
theorem run_stops_at_first_failure {σ : Type} (environment : Environment σ) (state : σ)
    (script : String) :
    let played := (run script).outcome.play environment state
    let sent := exchanges played.events
    (∀ event ∈ played.events, event.effect.isTalk = true) ∧
      (played.value = .ok () ↔ ∀ exchange ∈ sent, exchange.succeeded = true) ∧
      ((played.value = .ok () ∧
          sent.map Exchange.call = (statements script).map Call.execute) ∨
        ∃ before failing after earlier fault,
          statements script = before ++ failing :: after ∧
          sent = earlier ++ [⟨.execute failing, .error fault⟩] ∧
          earlier.map Exchange.call = before.map Call.execute ∧
          (∀ exchange ∈ earlier, exchange.succeeded = true) ∧
          heading failing ≠ "" ∧
          played.value = .error
            ⟨.query, "execute sql: " ++ heading failing ++ ": " ++ fault.message⟩) := by
  intro played sent
  have running : (run script).outcome.Runs played.events played.value :=
    Program.runs_play environment _ state
  have talk := (talk_sendAll (statements script)).of_mem running
  have follows : Follows ((statements script).map runStep) sent played.value := by
    have carried := carriesOut_sendAll (statements script) _ _ running
    have same : played.value.map (fun _ => ()) = played.value := by
      cases played.value <;> rfl
    rwa [same] at carried
  refine ⟨talk, ?_⟩
  rcases sent_or_stopped follows with
    ⟨ended, calls, fine⟩ |
    ⟨before, failing, after, earlier, fault, split, sent_eq, calls, fine, ended⟩
  · exact ⟨iff_of_true ended fine, .inl ⟨ended, calls⟩⟩
  · have cut : ¬ ∀ exchange ∈ sent, exchange.succeeded = true := by
      intro all
      cases all ⟨.execute failing, .error fault⟩ (by simp [sent_eq])
    have member : failing ∈ statements script := by simp [split]
    have fragment := isFragment_of_mem_statements failing member
    rw [failed, firstLine_eq_heading fragment] at ended
    refine ⟨iff_of_false (by simp [ended]) cut, .inr ?_⟩
    exact ⟨before, failing, after, earlier, fault, split, sent_eq, calls, fine,
      heading_ne_empty fragment, ended⟩

end Script

end DecisionBench
