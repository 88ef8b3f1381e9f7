import DecisionBench.Connection.Opening
import DecisionBench.Proofs.Runs
import Mathlib.Data.List.Defs

/-!
# Attempts to open a session

A session is opened in one attempt after another.  Every refusal but the last may pass
(`MayPass`), and is followed by its wait and the next attempt; the last attempt decides how
the opening ends (`Concludes`), and a refusal that ends it is told in other words
(`explanation`).  The same attempts are made by a loop over their numbers, whatever it is to
do when it has run through them all: it never gets there (`loop_eq_attempt`).
-/

namespace DecisionBench.Opening

open Program

/-! ### Refusals -/

/-- A refusal has a phrase in its text, in lower case or not. -/
def Says (refusal : Refusal) (phrase : String) : Prop :=
  phrase.toList <:+: lowered refusal.text

instance (refusal : Refusal) (phrase : String) : Decidable (Says refusal phrase) :=
  inferInstanceAs (Decidable (_ <:+: _))

theorem mentions_iff {refusal : Refusal} {phrases : List String} :
    mentions refusal phrases = true ↔ ∃ phrase ∈ phrases, Says refusal phrase := by
  simp only [mentions, List.any_eq_true, Text.occurs_iff, Says]

/-- A refusal that another attempt may not meet: the transport failed, or the text says so
and does not tell of wrong credentials, a wrong database or encryption. -/
def MayPass (refusal : Refusal) : Prop :=
  refusal.isTransport = true ∨
    (∀ phrase ∈ ["access denied", "unknown database", "ssl", "tls"], ¬ Says refusal phrase) ∧
      ∃ phrase ∈ ["connection refused", "timed out", "temporarily unavailable",
        "connection reset", "broken pipe", "too many connections"], Says refusal phrase

theorem isTransient_iff {refusal : Refusal} :
    isTransient refusal = true ↔ MayPass refusal := by
  rw [isTransient, Bool.or_eq_true, Bool.and_eq_true, mentions_iff, Bool.not_eq_true',
    ← Bool.not_eq_true, mentions_iff]
  simp only [not_exists, not_and]
  rfl

/-- What is told of a refusal. -/
def explanation (address : Address) (refusal : Refusal) : String :=
  if Says refusal "connection refused" then
    "Cannot connect to " ++ address.host ++ ":" ++ toString address.port ++
      ". Check that the server is running."
  else if Says refusal "access denied" then
    "Access denied for user '" ++ address.user ++ "'. Check your credentials."
  else if Says refusal "unknown database" then
    "Database '" ++ address.database ++
      "' does not exist. Create it before running tpch-mysql."
  else if Says refusal "timed out" ∨ Says refusal "timeout" then
    "Connection to " ++ address.host ++ ":" ++ toString address.port ++
      " timed out. The server may be overloaded or unreachable."
  else refusal.text

theorem explain_eq (address : Address) (refusal : Refusal) :
    explain address refusal = ⟨.connection, explanation address refusal⟩ := by
  simp only [explain, explanation, mentions_iff, List.mem_cons, List.not_mem_nil, or_false,
    exists_eq_left, exists_eq_or_imp, String.append_assoc]

/-! ### The loop -/

/-- The attempts with some numbers, as a loop that remembers the last refusal, and what is
to be done when no number is left. -/
def loop (address : Address) (exhausted : Option Refusal → Program (Except Fault Unit)) :
    List Nat → Nat → Option Refusal → Program (Except Fault Unit)
  | [], _, remembered => exhausted remembered
  | number :: later, delay, _ => do
    Journal.tell .detail .server
      ("Connection attempt " ++ toString number ++ " of " ++ toString attempts)
    match ← Program.request (.connect address) with
    | .ok _ =>
      Journal.tell .detail .server ("Connected to " ++ address.display)
      prepare.outcome
    | .error refusal =>
      if number < attempts ∧ isTransient refusal = true then
        Journal.tell .warning .server
          ("Connection attempt " ++ toString number ++
            " failed (transient error), retrying in " ++ delayText delay)
        Program.request (.pause delay)
        loop address exhausted later (2 * delay) (some refusal)
      else pure (.error (explain address refusal))

/-- With as many numbers as attempts are left, the loop never runs out of them. -/
theorem loop_eq_attempt (address : Address)
    (exhausted : Option Refusal → Program (Except Fault Unit)) {left number : Nat}
    (numbered : number + left = attempts) (delay : Nat) (remembered : Option Refusal) :
    loop address exhausted (List.range' number (left + 1)) delay remembered =
      attempt address left number delay := by
  induction left generalizing number delay remembered with
  | zero =>
      have last : ¬ number < attempts := by omega
      rw [List.range'_succ, loop, attempt]
      refine bind_congr fun _ => bind_congr fun opened => ?_
      cases opened with
      | ok _ => rfl
      | error refusal => simp only [last, false_and, if_false]
  | succ left induction =>
      have further : number < attempts := by omega
      rw [List.range'_succ, loop, attempt]
      refine bind_congr fun _ => bind_congr fun opened => ?_
      cases opened with
      | ok _ => rfl
      | error refusal =>
          by_cases transient : isTransient refusal = true
          · simp only [further, transient, and_self, if_true]
            refine bind_congr fun _ => bind_congr fun _ => ?_
            exact induction (by omega) (2 * delay) (some refusal)
          · simp only [transient, Bool.false_eq_true, and_false, if_false]

/-! ### Runs -/

/-- Whether an event is more than an entry in the journal. -/
def isDeed (event : Event) : Bool :=
  match event.effect with
  | .note _ => false
  | _ => true

theorem filter_isDeed_connect (address : Address)
    (reply : (Effect.connect address).Reply) (events : List Event) :
    (([⟨.connect address, reply⟩] : List Event) ++ events).filter isDeed =
      ⟨.connect address, reply⟩ :: events.filter isDeed :=
  List.filter_cons_of_pos rfl

theorem filter_isDeed_of_tell {level : Journal.Level} {speaker : Journal.Speaker}
    {message : String} {first : List Event}
    (run : (Journal.tell level speaker message).Runs first ()) (events : List Event) :
    (first ++ events).filter isDeed = events.filter isDeed := by
  rw [runs_request_iff.mp run]
  exact List.filter_cons_of_neg Bool.false_ne_true

/-- An attempt that was refused, and the wait behind it. -/
def retried (address : Address) (refused : Refusal × Nat) : List Event :=
  [⟨.connect address, .error refused.1⟩, ⟨.pause refused.2, ()⟩]

/-- What the last attempt does, and how the opening ends with it: with a session on which
every statement commits, with a session that refuses to, or with a refusal that may not
pass or that no further attempt may follow. -/
inductive Concludes (address : Address) (isLast : Prop) :
    List Event → Except Fault Unit → Prop where
  | opened (count : Nat) :
      Concludes address isLast
        [⟨.connect address, .ok ()⟩, ⟨.execute "SET autocommit = 1", .ok count⟩] (.ok ())
  | unprepared (fault : Fault) :
      Concludes address isLast
        [⟨.connect address, .ok ()⟩, ⟨.execute "SET autocommit = 1", .error fault⟩]
        (.error ⟨.connection, fault.message⟩)
  | refused (refusal : Refusal) :
      ¬ MayPass refusal ∨ isLast →
      Concludes address isLast [⟨.connect address, .error refusal⟩]
        (.error ⟨.connection, explanation address refusal⟩)

theorem concludes_of_prepare {address : Address} {isLast : Prop} {events : List Event}
    {outcome : Except Fault Unit} (run : prepare.outcome.Runs events outcome) :
    Concludes address isLast (⟨.connect address, .ok ()⟩ :: events.filter isDeed) outcome := by
  obtain ⟨told, setRun, rfl⟩ := Procedure.runs_bind_pure_iff.mp run
  obtain ⟨answer, executeRun, rfl⟩ := Procedure.runs_rewording_iff.mp setRun
  rw [runs_request_iff.mp executeRun]
  cases answer with
  | ok count => exact .opened count
  | error fault => exact .unprepared fault

/-- An attempt concludes the opening, or is refused for now and followed by its wait and
the attempts that are left. -/
theorem attempt_cases {address : Address} {left number delay : Nat} {events : List Event}
    {outcome : Except Fault Unit}
    (run : (attempt address left number delay).Runs events outcome) :
    Concludes address (left = 0) (events.filter isDeed) outcome ∨
      ∃ fewer refusal later, left = fewer + 1 ∧ MayPass refusal ∧
        events.filter isDeed = retried address (refusal, delay) ++ later.filter isDeed ∧
        (attempt address fewer (number + 1) (2 * delay)).Runs later outcome := by
  rw [attempt] at run
  obtain ⟨announcing, _, rest, rfl, announceRun, restRun⟩ := runs_bind_iff.mp run
  obtain ⟨connecting, opened, rest, rfl, connectRun, replyRun⟩ :=
    runs_bind_iff.mp restRun
  have connected := runs_request_iff.mp connectRun
  subst connected
  rw [filter_isDeed_of_tell announceRun, filter_isDeed_connect]
  cases opened with
  | ok _ =>
      obtain ⟨telling, _, rest, rfl, tellRun, prepareRun⟩ :=
        runs_bind_iff.mp replyRun
      rw [filter_isDeed_of_tell tellRun]
      left
      exact concludes_of_prepare prepareRun
  | error refusal =>
      cases left with
      | zero =>
          obtain ⟨rfl, rfl⟩ := runs_pure_iff.mp replyRun
          left
          rw [explain_eq]
          exact .refused refusal (.inr rfl)
      | succ fewer =>
          by_cases transient : isTransient refusal = true
          · simp only [transient, if_true] at replyRun
            obtain ⟨warning, _, rest, rfl, warnRun, waitRun⟩ :=
              runs_bind_iff.mp replyRun
            obtain ⟨pausing, _, later, rfl, pauseRun, laterRun⟩ :=
              runs_bind_iff.mp waitRun
            have paused := runs_request_iff.mp pauseRun
            subst paused
            rw [filter_isDeed_of_tell warnRun]
            right
            exact ⟨fewer, refusal, later, rfl, isTransient_iff.mp transient, rfl, laterRun⟩
          · simp only [transient, Bool.false_eq_true, if_false] at replyRun
            obtain ⟨rfl, rfl⟩ := runs_pure_iff.mp replyRun
            left
            rw [explain_eq]
            exact .refused refusal (.inl (mt isTransient_iff.mpr transient))

theorem runs_attempt {address : Address} {left number delay : Nat} {events : List Event}
    {outcome : Except Fault Unit}
    (run : (attempt address left number delay).Runs events outcome) :
    ∃ (refusals : List Refusal) (ending : List Event), refusals.length ≤ left ∧
      (∀ refusal ∈ refusals, MayPass refusal) ∧
      events.filter isDeed =
        (refusals.zip (List.iterate (2 * ·) delay left)).flatMap (retried address) ++ ending ∧
      Concludes address (refusals.length = left) ending outcome := by
  induction left generalizing number delay events with
  | zero =>
      rcases attempt_cases run with concluded | ⟨fewer, _, _, impossible, -⟩
      · exact ⟨[], _, Nat.le_refl 0, by simp, rfl, by simpa using concluded⟩
      · cases impossible
  | succ left induction =>
      rcases attempt_cases run with
        concluded | ⟨fewer, refusal, later, same, transient, deeds, laterRun⟩
      · exact ⟨[], _, Nat.zero_le _, by simp, rfl, by simpa using concluded⟩
      · cases same
        obtain ⟨refusals, ending, fewer, passing, further, concluded⟩ := induction laterRun
        refine ⟨refusal :: refusals, ending, Nat.succ_le_succ fewer,
          List.forall_mem_cons.mpr ⟨transient, passing⟩, ?_, by simpa using concluded⟩
        rw [deeds, further]
        rfl

/-- A session is opened in one attempt after another.  All but the last are refused for
now, at most two of them, and followed by waits of half a second and of a second; the last
succeeds, or is refused for good, or is the third, and it alone decides how the opening
ends.  A loop over the three attempts does the same whatever stands behind it, and is thus
left from within. -/
theorem attempts_until_settled {σ : Type} (environment : Environment σ) (state : σ)
    (address : Address) :
    let played := (run address).outcome.play environment state
    (∃ (refusals : List Refusal) (ending : List Event) (outcome : Except Fault Unit),
      refusals.length ≤ 2 ∧ (∀ refusal ∈ refusals, MayPass refusal) ∧
      played.events.filter isDeed =
        (refusals.zip [500, 1000]).flatMap (retried address) ++ ending ∧
      Concludes address (refusals.length = 2) ending outcome ∧
      played.value = outcome.map fun _ => .held) ∧
    ∀ exhausted, loop address exhausted [1, 2, 3] 500 none =
      attempt address (attempts - 1) 1 firstDelay := by
  intro played
  have running := runs_play environment (run address).outcome state
  constructor
  · obtain ⟨noting, _, later, split, noteRun, laterRun⟩ :=
      Procedure.runs_lift_bind_iff.mp running
    rw [split, filter_isDeed_of_tell noteRun]
    obtain ⟨outcome, attemptRun, ended⟩ := Procedure.runs_bind_pure_iff.mp laterRun
    obtain ⟨refusals, ending, few, passing, deeds, concluded⟩ := runs_attempt attemptRun
    exact ⟨refusals, ending, outcome, few, passing, deeds, concluded, ended⟩
  · intro exhausted
    have numbered : 1 + 2 = attempts := rfl
    exact loop_eq_attempt address exhausted numbered firstDelay none

end DecisionBench.Opening
