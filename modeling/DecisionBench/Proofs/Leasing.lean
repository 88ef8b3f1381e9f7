import DecisionBench.Proofs.Forecast

/-!
# Leases

The holder of a lease sends statements on the session, asks whether it is
connected and closes it, in any order and as often as it likes, and may finish
with the outcome of some work.  `Took` tells what one use asks of the session and
what it answers.  As long as nobody closed the session the uses are served
(`Served`); the first closing gives the lease back, and from then on every use is
refused without a request (`refusal`).

So the session is closed at most once (`closed_at_most_once`).
-/

namespace DecisionBench

def Call.program : Call → Program (Except Fault Nat)
  | .execute statement => Session.execute statement
  | .countRows statement => Session.countRows statement

namespace Lease

open Program

/-- What the holder of a lease may do with it. -/
inductive Use where
  | send (call : Call)
  | close
  | ask
  deriving DecidableEq

inductive Answer where
  | sent (outcome : Except Fault Nat)
  | closed (outcome : Except Fault Unit)
  | connected (held : Bool)

def use (lease : Lease) : Use → Program (Answer × Lease)
  | .send call => do
      let outcome ← (lease.work (Procedure.ofProgram call.program)).outcome
      return (.sent outcome, lease)
  | .close => do
      let (outcome, left) ← lease.close
      return (.closed outcome, left)
  | .ask => return (.connected lease.isConnected, lease)

def useAll : Lease → List Use → Program (List Answer × Lease)
  | lease, [] => return ([], lease)
  | lease, first :: rest => do
      let (answer, next) ← lease.use first
      let (answers, left) ← next.useAll rest
      return (answer :: answers, left)

/-- The uses of a lease from first to last, and the finish if there is one. -/
def spend {α : Type} (lease : Lease) (uses : List Use) :
    Option (Except Fault α) → Program (List Answer × Option (Except Fault α))
  | none => do
      let (answers, _) ← lease.useAll uses
      return (answers, none)
  | some outcome => do
      let (answers, left) ← lease.useAll uses
      let ended ← left.finish outcome
      return (answers, some ended)

/-! ### One use -/

/-- What a use is told when the lease was given back. -/
def refusal : Use → Answer
  | .send _ => .sent (.error ⟨.connection, "connection is already closed"⟩)
  | .close => .closed (.ok ())
  | .ask => .connected false

/-- One use of a lease: what happens on the session, the answer, and the lease
that is left. -/
inductive Took : Lease → Use → List Event → Answer → Lease → Prop where
  | executed (statement : String) (reply : Except Fault Nat) :
      Took .held (.send (.execute statement)) [⟨.execute statement, reply⟩]
        (.sent reply) .held
  | counted (statement : String) (reply : Except Fault Nat) :
      Took .held (.send (.countRows statement)) [⟨.countRows statement, reply⟩]
        (.sent reply) .held
  | closed (reply : Except Fault Unit) :
      Took .held .close [⟨.closeSession, reply⟩] (.closed reply) .released
  | asked : Took .held .ask [] (.connected true) .held
  | refused (use : Use) : Took .released use [] (refusal use) .released

theorem runs_close_iff {events : List Event} {closed : Except Fault Unit} {left : Lease} :
    held.close.Runs events (closed, left) ↔
      events = [⟨.closeSession, closed⟩] ∧ left = .released := by
  refine (runs_bind_done_iff fun _ => rfl).trans ?_
  constructor
  · rintro ⟨reply, run, same⟩
    cases same
    exact ⟨runs_request_iff.mp run, rfl⟩
  · rintro ⟨rfl, rfl⟩
    exact ⟨closed, runs_request_iff.mpr rfl, rfl⟩

theorem took_of_runs {lease left : Lease} {use : Use} {events : List Event}
    {answer : Answer} (run : (lease.use use).Runs events (answer, left)) :
    Took lease use events answer left := by
  cases lease with
  | held =>
      cases use with
      | send call =>
          cases call with
          | execute statement =>
              obtain ⟨reply, asked, same⟩ := (runs_bind_done_iff fun _ => rfl).mp run
              cases same
              cases runs_request_iff.mp asked
              exact .executed statement reply
          | countRows statement =>
              obtain ⟨reply, asked, same⟩ := (runs_bind_done_iff fun _ => rfl).mp run
              cases same
              cases runs_request_iff.mp asked
              exact .counted statement reply
      | close =>
          obtain ⟨⟨reply, _⟩, closing, same⟩ := (runs_bind_done_iff fun _ => rfl).mp run
          obtain ⟨rfl, rfl⟩ := runs_close_iff.mp closing
          cases same
          exact .closed reply
      | ask =>
          obtain ⟨rfl, same⟩ := runs_pure_iff.mp run
          cases same
          exact .asked
  | released =>
      have silent : events = [] ∧ (answer, left) = (refusal use, .released) := by
        cases use with
        | send call => exact runs_done_iff.mp run
        | close => exact runs_done_iff.mp run
        | ask => exact runs_done_iff.mp run
      obtain ⟨rfl, same⟩ := silent
      cases same
      exact .refused use

/-! ### A sequence of uses -/

/-- The uses of a lease that nobody gave back: each statement reaches the session and
is answered by it, in order, and nothing else does. -/
inductive Served : List Use → List Event → List Answer → Prop where
  | nil : Served [] [] []
  | executed {uses : List Use} {events : List Event} {answers : List Answer}
      (statement : String) (reply : Except Fault Nat) :
      Served uses events answers →
      Served (.send (.execute statement) :: uses) (⟨.execute statement, reply⟩ :: events)
        (.sent reply :: answers)
  | counted {uses : List Use} {events : List Event} {answers : List Answer}
      (statement : String) (reply : Except Fault Nat) :
      Served uses events answers →
      Served (.send (.countRows statement) :: uses)
        (⟨.countRows statement, reply⟩ :: events) (.sent reply :: answers)
  | asked {uses : List Use} {events : List Event} {answers : List Answer} :
      Served uses events answers →
      Served (.ask :: uses) events (.connected true :: answers)

section

variable {lease left : Lease} {use : Use} {uses rest : List Use} {events : List Event}
  {answers : List Answer}

theorem took_and_runs (run : (lease.useAll (use :: rest)).Runs events (answers, left)) :
    ∃ first answer next later more, events = first ++ later ∧
      Took lease use first answer next ∧
      (next.useAll rest).Runs later (more, left) ∧ answers = answer :: more := by
  obtain ⟨first, ⟨answer, next⟩, later, rfl, useRun, laterRun⟩ := runs_bind_iff.mp run
  obtain ⟨⟨more, last⟩, restRun, same⟩ := (runs_bind_done_iff fun _ => rfl).mp laterRun
  cases same
  exact ⟨first, answer, next, later, more, rfl, took_of_runs useRun, restRun, rfl⟩

/-- A use that is no closing leaves the lease as it is, and is served. -/
theorem Took.served {answer : Answer} {next : Lease} {first later : List Event}
    (took : Took .held use first answer next) (unclosed : use ≠ .close)
    (served : Served rest later answers) :
    next = .held ∧ Served (use :: rest) (first ++ later) (answer :: answers) := by
  cases took with
  | executed statement reply => exact ⟨rfl, served.executed statement reply⟩
  | counted statement reply => exact ⟨rfl, served.counted statement reply⟩
  | asked => exact ⟨rfl, served.asked⟩
  | closed => exact absurd rfl unclosed

theorem Took.held_of_unclosed {answer : Answer} {next : Lease}
    (took : Took .held use events answer next) (unclosed : use ≠ .close) : next = .held :=
  (took.served unclosed .nil).1

theorem refused_of_runs (run : (released.useAll uses).Runs events (answers, left)) :
    events = [] ∧ answers = uses.map refusal ∧ left = .released := by
  induction uses generalizing events answers with
  | nil =>
      obtain ⟨rfl, same⟩ := runs_pure_iff.mp run
      cases same
      exact ⟨rfl, rfl, rfl⟩
  | cons use uses induction =>
      obtain ⟨first, answer, next, later, more, rfl, took, restRun, rfl⟩ := took_and_runs run
      cases took with
      | refused =>
          obtain ⟨rfl, rfl, rfl⟩ := induction restRun
          exact ⟨rfl, rfl, rfl⟩

theorem served_of_runs (unclosed : .close ∉ uses)
    (run : (held.useAll uses).Runs events (answers, left)) :
    Served uses events answers ∧ left = .held := by
  induction uses generalizing events answers with
  | nil =>
      obtain ⟨rfl, same⟩ := runs_pure_iff.mp run
      cases same
      exact ⟨.nil, rfl⟩
  | cons use uses induction =>
      obtain ⟨notFirst, notLater⟩ := List.ne_and_not_mem_of_not_mem_cons unclosed
      obtain ⟨first, answer, next, later, more, rfl, took, restRun, rfl⟩ := took_and_runs run
      obtain rfl := took.held_of_unclosed notFirst.symm
      obtain ⟨served, rfl⟩ := induction notLater restRun
      exact ⟨(took.served notFirst.symm served).2, rfl⟩

/-- Behind the first closing nothing happens on the session. -/
theorem closed_of_runs {before after : List Use} (unclosed : .close ∉ before)
    (run : (held.useAll (before ++ .close :: after)).Runs events (answers, left)) :
    ∃ earlier served closed, Served before earlier served ∧
      events = earlier ++ [⟨.closeSession, closed⟩] ∧
      answers = served ++ .closed closed :: after.map refusal ∧ left = .released := by
  -- The uses in front leave the lease held, so the induction is on them; what is behind
  -- the closing is refused as a whole.
  induction before generalizing events answers with
  | nil =>
      obtain ⟨first, answer, next, later, more, rfl, took, restRun, rfl⟩ := took_and_runs run
      cases took with
      | closed closed =>
          obtain ⟨rfl, rfl, rfl⟩ := refused_of_runs restRun
          exact ⟨[], [], closed, .nil, rfl, rfl, rfl⟩
  | cons use before induction =>
      obtain ⟨notFirst, notLater⟩ := List.ne_and_not_mem_of_not_mem_cons unclosed
      obtain ⟨first, answer, next, later, more, rfl, took, restRun, rfl⟩ := took_and_runs run
      obtain rfl := took.held_of_unclosed notFirst.symm
      obtain ⟨earlier, served, closed, serves, rfl, rfl, rfl⟩ := induction notLater restRun
      exact ⟨first ++ earlier, answer :: served, closed,
        (took.served notFirst.symm serves).2, by simp, rfl, rfl⟩

end

/-! ### Finishing -/

section

variable {α : Type}

/-- What the journal is told by finishing: the fault of closing, if there is no other
place for it because the work failed too. -/
def warnings : Except Fault α → Except Fault Unit → List Event
  | .error _, .error closing =>
      [⟨.note ⟨.warning, .session,
        "Failed to close connection after error: " ++ closing.display⟩, ()⟩]
  | _, _ => []

def settled : Except Fault α → Except Fault Unit → Except Fault α
  | .ok _, .error closing => .error closing
  | outcome, _ => outcome

/-- The end of a lease that was never given back: it is left alone, or finished by
closing the session. -/
inductive Ended : Option (Except Fault α) → List Event → Option (Except Fault α) → Prop where
  | left : Ended none [] none
  | finished (outcome : Except Fault α) (closed : Except Fault Unit) :
      Ended (some outcome) (⟨.closeSession, closed⟩ :: warnings outcome closed)
        (some (settled outcome closed))

variable {outcome ended : Except Fault α} {events : List Event}

theorem ended_of_finish (run : (held.finish outcome).Runs events ended) :
    Ended (some outcome) events (some ended) := by
  obtain ⟨_, ⟨closed, _⟩, later, rfl, closeRun, restRun⟩ := runs_bind_iff.mp run
  obtain ⟨rfl, rfl⟩ := runs_close_iff.mp closeRun
  cases outcome with
  | ok value =>
      cases closed with
      | ok _ =>
          obtain ⟨rfl, rfl⟩ := runs_pure_iff.mp restRun
          exact .finished (.ok value) (.ok ())
      | error fault =>
          obtain ⟨rfl, rfl⟩ := runs_pure_iff.mp restRun
          exact .finished (.ok value) (.error fault)
  | error fault =>
      cases closed with
      | ok _ =>
          obtain ⟨rfl, rfl⟩ := runs_pure_iff.mp restRun
          exact .finished (.error fault) (.ok ())
      | error closing =>
          obtain ⟨_, _, quiet, rfl, telling, lastRun⟩ := runs_bind_iff.mp restRun
          obtain ⟨rfl, rfl⟩ := runs_pure_iff.mp lastRun
          cases runs_request_iff.mp telling
          exact .finished (.error fault) (.error closing)

theorem unchanged_of_finish (run : (released.finish outcome).Runs events ended) :
    events = [] ∧ ended = outcome := by
  cases outcome with
  | ok value => exact runs_done_iff.mp run
  | error fault => exact runs_done_iff.mp run

theorem spent_of_runs {lease : Lease} {uses : List Use} {answers : List Answer}
    {ending ended : Option (Except Fault α)}
    (run : (lease.spend uses ending).Runs events (answers, ended)) :
    ∃ first left later, events = first ++ later ∧
      (lease.useAll uses).Runs first (answers, left) ∧
      (left = .held → Ended ending later ended) ∧
      (left = .released → later = [] ∧ ended = ending) := by
  cases ending with
  | none =>
      obtain ⟨⟨_, left⟩, useRun, same⟩ := (runs_bind_done_iff fun _ => rfl).mp run
      cases same
      exact ⟨events, left, [], (List.append_nil events).symm, useRun, fun _ => .left,
        fun _ => ⟨rfl, rfl⟩⟩
  | some outcome =>
      obtain ⟨first, ⟨_, left⟩, later, rfl, useRun, laterRun⟩ := runs_bind_iff.mp run
      obtain ⟨result, finishRun, same⟩ := (runs_bind_done_iff fun _ => rfl).mp laterRun
      cases same
      refine ⟨first, left, later, rfl, useRun, ?_, ?_⟩
      · rintro rfl
        exact ended_of_finish finishRun
      · rintro rfl
        obtain ⟨rfl, rfl⟩ := unchanged_of_finish finishRun
        exact ⟨rfl, rfl⟩

end

/-! ### Closings -/

def closings (events : List Event) : Nat :=
  events.countP fun event => event.effect = .closeSession

theorem Served.closings_eq_zero {uses : List Use} {events : List Event}
    {answers : List Answer} (served : Served uses events answers) : closings events = 0 := by
  induction served with
  | nil => rfl
  | executed _ _ _ induction => simpa [closings] using induction
  | counted _ _ _ induction => simpa [closings] using induction
  | asked _ induction => exact induction

theorem closings_warnings {α : Type} (outcome : Except Fault α) (closed : Except Fault Unit) :
    closings (warnings outcome closed) = 0 := by
  cases outcome <;> cases closed <;> rfl

/-- The session is closed by the first closing or else by finishing, and never again.
Until then every statement reaches it; from the first closing on, even one that
failed, the lease is not connected, refuses statements, closes without complaint, and
finishes with the outcome as it is.  A fault of closing is told once: by the closing, by
the finish in place of a value, or in the journal if finishing has another fault to
tell. -/
theorem closed_at_most_once {σ α : Type} (environment : Environment σ) (state : σ)
    (uses : List Use) (ending : Option (Except Fault α)) :
    let played := (spend held uses ending).play environment state
    closings played.events = (if .close ∈ uses ∨ ending.isSome = true then 1 else 0) ∧
      (∀ before after, uses = before ++ .close :: after → .close ∉ before →
        ∃ earlier answers closed, Served before earlier answers ∧
          played.events = earlier ++ [⟨.closeSession, closed⟩] ∧
          played.value = (answers ++ .closed closed :: after.map refusal, ending)) ∧
      (.close ∉ uses →
        ∃ served answers last ended, Served uses served answers ∧
          Ended ending last ended ∧ played.events = served ++ last ∧
          played.value = (answers, ended)) := by
  intro played
  obtain ⟨first, left, later, events_eq, useRun, ifHeld, ifReleased⟩ :=
    spent_of_runs (runs_play environment (spend held uses ending) state)
  have closed_part : ∀ before after, uses = before ++ .close :: after → .close ∉ before →
      ∃ earlier answers closed, Served before earlier answers ∧
        played.events = earlier ++ [⟨.closeSession, closed⟩] ∧
        played.value = (answers ++ .closed closed :: after.map refusal, ending) := by
    rintro before after rfl unclosed
    obtain ⟨earlier, answers, closed, served, rfl, told, rfl⟩ :=
      closed_of_runs unclosed useRun
    obtain ⟨rfl, ended⟩ := ifReleased rfl
    exact ⟨earlier, answers, closed, served, events_eq.trans (List.append_nil _),
      Prod.ext told ended⟩
  have unclosed_part : .close ∉ uses → ∃ served answers last ended,
      Served uses served answers ∧ Ended ending last ended ∧
      played.events = served ++ last ∧ played.value = (answers, ended) := by
    intro unclosed
    obtain ⟨served, rfl⟩ := served_of_runs unclosed useRun
    exact ⟨first, _, later, _, served, ifHeld rfl, events_eq, rfl⟩
  refine ⟨?_, closed_part, unclosed_part⟩
  by_cases closes : .close ∈ uses
  · obtain ⟨before, after, split, unclosed⟩ := List.eq_append_cons_of_mem closes
    obtain ⟨earlier, _, closed, served, events_eq, -⟩ := closed_part before after split unclosed
    rw [events_eq, closings, List.countP_append, ← closings, served.closings_eq_zero]
    simp [closes]
  · obtain ⟨events, _, last, _, served, ended, events_eq, -⟩ := unclosed_part closes
    rw [events_eq, closings, List.countP_append, ← closings, served.closings_eq_zero]
    cases ended with
    | left => simp [closes]
    | finished outcome closed =>
        have quiet := closings_warnings outcome closed
        rw [closings] at quiet
        simp [quiet]

/-- The fault of a closing is not told again by the finish behind it. -/
theorem failed_closing_told_once :
    let gone : Fault := ⟨.connection, "server has gone away"⟩
    let environment : Environment Unit :=
      ⟨fun | .closeSession, _ => (.error gone, ()) | effect, _ => (effect.idleReply, ())⟩
    let before : List Use := [.send (.countRows "select 1"), .ask]
    let after : List Use := [.ask, .close, .send (.execute "select 2")]
    let played := (spend held (before ++ .close :: after) (some (.ok 7))).play environment ()
    .close ∉ before ∧
      played.value.1 = [.sent (.ok 0), .connected true, .closed (.error gone),
        .connected false, .closed (.ok ()), .sent (.error .sessionClosed)] ∧
      closings played.events = 1 ∧
      ∃ earlier answers closed, Served before earlier answers ∧
        played.events = earlier ++ [⟨.closeSession, closed⟩] ∧
        played.value = (answers ++ .closed closed :: after.map refusal, some (.ok 7)) := by
  intro gone environment before after played
  have unclosed : .close ∉ before := by decide
  obtain ⟨once, closed, -⟩ := closed_at_most_once environment ()
    (before ++ .close :: after) (some (.ok 7))
  exact ⟨unclosed, rfl, once, closed before after rfl unclosed⟩

end Lease

end DecisionBench
