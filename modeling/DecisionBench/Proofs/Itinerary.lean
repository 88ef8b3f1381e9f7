import DecisionBench.Proofs.Plan

/-!
# Itineraries

What a run asks of the world around it is the list of its requests: statements,
files, processes.  Readings of the clock and of a watched process and entries in
the journal are about the run itself and do not count.

A procedure travels along an itinerary if the requests of each of its runs are
the itinerary, or the part of it in front of a fault (`Procedure.Travels`); it is
strict if it passes over no failure (`Procedure.Strict`).  A program that may
leave stops out, and goes on with the later ones, stays on its itinerary
(`Program.StaysOn`).
-/

namespace DecisionBench

/-- Whether a request reaches the world around a run. -/
def Effect.isOutward : Effect → Bool
  | .clock | .pause _ | .readStatus _ _ | .note _ => false
  | _ => true

/-- What a run asked of the world around it, in order. -/
def requests (events : List Event) : List Effect :=
  (events.map Event.effect).filter Effect.isOutward

@[simp] theorem requests_nil : requests [] = [] := rfl

@[simp] theorem requests_append (first later : List Event) :
    requests (first ++ later) = requests first ++ requests later := by
  simp [requests]

theorem mem_requests {event : Event} {events : List Event} (member : event ∈ events)
    (outward : event.effect.isOutward = true) : event.effect ∈ requests events :=
  List.mem_filter.mpr ⟨List.mem_map_of_mem member, outward⟩

/-- A run on an itinerary makes no request of a kind that is not on it. -/
theorem eq_false_of_sublist {kind : Effect → Bool}
    (outward : ∀ effect, kind effect = true → effect.isOutward = true)
    {events : List Event} {route : List Effect} (keeps : (requests events).Sublist route)
    (absent : ∀ effect ∈ route, kind effect = false) :
    ∀ event ∈ events, kind event.effect = false := by
  intro event member
  refine Bool.eq_false_iff.mpr fun found => ?_
  have asked := mem_requests member (outward event.effect found)
  rw [absent event.effect (keeps.subset asked)] at found
  cases found

/-- Whether the reply to a request tells that something failed or is missing. -/
def Event.failed : Event → Bool
  | ⟨.execute _, reply⟩ | ⟨.countRows _, reply⟩ => !Except.isOk reply
  | ⟨.makeDirectories _, reply⟩ | ⟨.resolvePath _, reply⟩ => !Except.isOk reply
  | ⟨.isFile _, found⟩ => !found
  | ⟨.spawn _ _, reply⟩ =>
      match reply with
      | .ok finished => finished.ending != .exit 0
      | .error _ => true
  | _ => false

theorem Event.isOutward_of_failed {event : Event} (failed : event.failed = true) :
    event.effect.isOutward = true := by
  obtain ⟨effect, reply⟩ := event
  cases effect with
  | clock | pause _ | readStatus _ _ | note _ => cases failed
  | _ => rfl

def Call.effect : Call → Effect
  | .execute statement => .execute statement
  | .countRows statement => .countRows statement

def Step.effect (step : Step) : Effect :=
  step.call.effect

namespace Program

variable {α β : Type}

/-- Every run of the program makes exactly these requests. -/
def Asks (program : Program α) (route : List Effect) : Prop :=
  ∀ events value, program.Runs events value → requests events = route

/-- Every run of the program makes requests of these alone, in their order. -/
def StaysOn (program : Program α) (route : List Effect) : Prop :=
  ∀ events value, program.Runs events value → (requests events).Sublist route

namespace Asks

variable {program : Program α} {route rest : List Effect}

theorem pure (value : α) : (Pure.pure value : Program α).Asks [] := by
  intro events result run
  obtain ⟨rfl, -⟩ := runs_pure_iff.mp run
  rfl

theorem bind {next : α → Program β} (asks : program.Asks route)
    (further : ∀ value, (next value).Asks rest) :
    (program >>= next).Asks (route ++ rest) := by
  intro events result run
  obtain ⟨first, value, later, rfl, firstRun, laterRun⟩ := runs_bind_iff.mp run
  rw [requests_append, asks first value firstRun,
    further value later result laterRun]

theorem request (effect : Effect) :
    (Program.request effect).Asks ([effect].filter Effect.isOutward) := by
  intro events reply run
  rw [runs_request_iff.mp run]
  rfl

theorem tell (level : Journal.Level) (speaker : Journal.Speaker) (message : String) :
    (Journal.tell level speaker message).Asks [] :=
  request (.note ⟨level, speaker, message⟩)

theorem staysOn (asks : program.Asks route) : program.StaysOn route := by
  intro events value run
  obtain rfl := asks events value run
  exact List.Sublist.refl _

end Asks

namespace StaysOn

variable {program : Program α} {route rest wider : List Effect}

theorem bind {next : α → Program β} (stays : program.StaysOn route)
    (further : ∀ value, (next value).StaysOn rest) :
    (program >>= next).StaysOn (route ++ rest) := by
  intro events result run
  obtain ⟨first, value, later, rfl, firstRun, laterRun⟩ := runs_bind_iff.mp run
  rw [requests_append]
  exact (stays first value firstRun).append (further value later result laterRun)

theorem mono (stays : program.StaysOn route) (within : route.Sublist wider) :
    program.StaysOn wider :=
  fun events value run => (stays events value run).trans within

/-- Without a statement on the itinerary there is no exchange with the session. -/
theorem silent (stays : program.StaysOn route)
    (elsewhere : ∀ call : Call, call.effect ∉ route) : program.Silent := by
  intro events value run
  refine List.filterMap_eq_nil_iff.mpr fun event member => ?_
  have asked (outward : event.effect.isOutward = true) : event.effect ∈ route :=
    (stays events value run).subset (mem_requests member outward)
  obtain ⟨effect, reply⟩ := event
  cases effect with
  | execute statement => exact absurd (asked rfl) (elsewhere (.execute statement))
  | countRows statement => exact absurd (asked rfl) (elsewhere (.countRows statement))
  | _ => rfl

end StaysOn

theorem Asks.silent {program : Program α} (asks : program.Asks []) : program.Silent :=
  asks.staysOn.silent fun _ => List.not_mem_nil

end Program

namespace Procedure

open Program

variable {α β : Type}

/-- Every run of the procedure makes these requests in their order: all of them
if it ends with a value, and a first part of them if it ends with a fault. -/
def Travels (procedure : Procedure α) (route : List Effect) : Prop :=
  ∀ events outcome, procedure.outcome.Runs events outcome →
    requests events <+: route ∧
      ∀ value, outcome = .ok value → requests events = route

/-- The requests of a procedure that goes on behind another one, if both stay
on their itineraries. -/
theorem staysOn_bind {procedure : Procedure α} {next : α → Procedure β}
    {route rest : List Effect} (stays : procedure.outcome.StaysOn route)
    (further : ∀ value, (next value).outcome.StaysOn rest) :
    (procedure >>= next).outcome.StaysOn (route ++ rest) := by
  intro events outcome run
  rcases runs_bind_iff.mp run with
    ⟨fault, firstRun, rfl⟩ | ⟨first, value, later, rfl, firstRun, laterRun⟩
  · exact (stays events _ firstRun).trans (List.sublist_append_left route rest)
  · rw [requests_append]
    exact (stays first _ firstRun).append (further value later outcome laterRun)

theorem staysOn_lift {program : Program α} {route : List Effect}
    (stays : program.StaysOn route) :
    (liftM program : Procedure α).outcome.StaysOn route := by
  intro events outcome run
  obtain ⟨value, -, programRun⟩ := runs_lift_iff.mp run
  exact stays events value programRun

namespace Travels

variable {procedure : Procedure α} {program : Program α} {route rest : List Effect}

theorem pure (value : α) : (Pure.pure value : Procedure α).Travels [] := by
  intro events outcome run
  obtain ⟨rfl, -⟩ := Procedure.runs_pure_iff.mp run
  exact ⟨List.prefix_refl [], fun _ _ => rfl⟩

theorem throw (fault : Fault) (route : List Effect) :
    (throw fault : Procedure α).Travels route := by
  intro events outcome run
  obtain ⟨rfl, rfl⟩ := runs_done_iff.mp run
  exact ⟨List.nil_prefix, fun _ impossible => by cases impossible⟩

theorem bind {next : α → Procedure β} (travels : procedure.Travels route)
    (further : ∀ value, (next value).Travels rest) :
    (procedure >>= next).Travels (route ++ rest) := by
  intro events outcome run
  rcases Procedure.runs_bind_iff.mp run with
    ⟨fault, firstRun, rfl⟩ | ⟨first, value, later, rfl, firstRun, laterRun⟩
  · exact ⟨(travels events _ firstRun).1.trans (List.prefix_append route rest),
      fun _ impossible => by cases impossible⟩
  · obtain ⟨part, whole⟩ := further value later outcome laterRun
    rw [requests_append, (travels first _ firstRun).2 value rfl]
    exact ⟨(List.prefix_append_right_inj route).mpr part,
      fun result ended => by rw [whole result ended]⟩

theorem of_asks {procedure : Procedure α} (asks : procedure.outcome.Asks route) :
    procedure.Travels route := by
  intro events outcome run
  rw [asks events outcome run]
  exact ⟨List.prefix_refl route, fun _ _ => rfl⟩

theorem lift (asks : program.Asks route) : (liftM program : Procedure α).Travels route := by
  intro events outcome run
  obtain ⟨value, rfl, programRun⟩ := runs_lift_iff.mp run
  rw [asks events value programRun]
  exact ⟨List.prefix_refl route, fun _ _ => rfl⟩

theorem orFault {program : Program (Except String α)} (asks : program.Asks route)
    (words : String → Fault) : (Procedure.orFault program words).Travels route :=
  of_asks fun events _ run =>
    let ⟨told, programRun, _⟩ := runs_orFault_iff.mp run
    asks events told programRun

theorem rewording {program : Program (Except Fault α)} (asks : program.Asks route)
    (words : String → Fault) : (Procedure.rewording program words).Travels route :=
  of_asks fun events _ run =>
    let ⟨told, programRun, _⟩ := runs_rewording_iff.mp run
    asks events told programRun

theorem ofOutcome (outcome : Except Fault α) :
    (Procedure.ofOutcome outcome).Travels [] :=
  of_asks (.pure outcome)

theorem tell (level : Journal.Level) (speaker : Journal.Speaker) (message : String) :
    (liftM (Journal.tell level speaker message) : Procedure Unit).Travels [] :=
  lift (.tell level speaker message)

theorem staysOn (travels : procedure.Travels route) : procedure.outcome.StaysOn route :=
  fun events outcome run => (travels events outcome run).1.sublist

end Travels

/-- Every run of the procedure that ends with a value saw no failure. -/
def Strict (procedure : Procedure α) : Prop :=
  ∀ events value, procedure.outcome.Runs events (.ok value) →
    ∀ event ∈ events, event.failed = false

namespace Strict

variable {procedure : Procedure α}

theorem pure (value : α) : (Pure.pure value : Procedure α).Strict := by
  intro events result run
  obtain ⟨rfl, -⟩ := Procedure.runs_pure_iff.mp run
  simp

theorem throw (fault : Fault) : (throw fault : Procedure α).Strict := by
  intro events result run
  obtain ⟨-, impossible⟩ := runs_done_iff.mp run
  cases impossible

/-- The first part may have seen a failure if what follows then ends with a
fault. -/
theorem bind_of_checked {next : α → Procedure β}
    (checked : ∀ first value later result, procedure.outcome.Runs first (.ok value) →
      (next value).outcome.Runs later (.ok result) →
        ∀ event ∈ first, event.failed = false)
    (further : ∀ value, (next value).Strict) : (procedure >>= next).Strict := by
  intro events result run event member
  rcases Procedure.runs_bind_iff.mp run with
    ⟨fault, -, impossible⟩ | ⟨first, value, later, rfl, firstRun, laterRun⟩
  · cases impossible
  · rcases List.mem_append.mp member with here | there
    · exact checked first value later result firstRun laterRun event here
    · exact further value later result laterRun event there

theorem bind {next : α → Procedure β} (strict : procedure.Strict)
    (further : ∀ value, (next value).Strict) : (procedure >>= next).Strict :=
  bind_of_checked (fun first value _ _ firstRun _ => strict first value firstRun) further

theorem lift {program : Program α} (asks : program.Asks []) :
    (liftM program : Procedure α).Strict := by
  intro events result run event member
  obtain ⟨value, -, programRun⟩ := runs_lift_iff.mp run
  refine Bool.eq_false_iff.mpr fun failed => ?_
  have asked := mem_requests member (Event.isOutward_of_failed failed)
  rw [asks events value programRun] at asked
  cases asked

theorem tell (level : Journal.Level) (speaker : Journal.Speaker) (message : String) :
    (liftM (Journal.tell level speaker message) : Procedure Unit).Strict :=
  lift (.tell level speaker message)

theorem ofOutcome (outcome : Except Fault α) : (Procedure.ofOutcome outcome).Strict := by
  intro events result run
  obtain ⟨rfl, -⟩ := runs_ofOutcome_iff.mp run
  simp

theorem orFault {program : Program (Except String α)}
    (answered : ∀ events value, program.Runs events (.ok value) →
      ∀ event ∈ events, event.failed = false)
    (words : String → Fault) : (Procedure.orFault program words).Strict := by
  intro events result run
  obtain ⟨told, programRun, ended⟩ := runs_orFault_iff.mp run
  cases told with
  | ok value => exact answered events value programRun
  | error text => cases ended

theorem execute (statement : String) (words : String → Fault) :
    (Procedure.rewording (Program.request (.execute statement)) words).Strict := by
  intro events result run event member
  obtain ⟨told, requestRun, ended⟩ := runs_rewording_iff.mp run
  rw [runs_request_iff.mp requestRun] at member
  cases List.mem_singleton.mp member
  cases told with
  | ok count => rfl
  | error fault => cases ended

end Strict

end Procedure

end DecisionBench
