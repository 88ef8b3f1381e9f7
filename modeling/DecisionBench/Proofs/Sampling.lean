import DecisionBench.Proofs.Monitoring

/-!
# What a watch over a process tells

The process is read right before a query begins and at every tick while it runs, up to
the first reading that fails (`Sampled`); these are the readings of a loop that waits for
one tick after the other (`sample_tickTimes`).  The figures of the query are those of its readings:
the first, the last and the largest of them and their number (`Figures.ofReadings`),
whatever the process does and however long the query runs (`figures_tell_readings`).
-/

namespace DecisionBench

open Program

namespace Memory

/-! ### Ticks -/

/-- The milliseconds behind the beginning of a query at which the process is to be read:
none, and every multiple of the interval while the query runs. -/
def moments (duration : Nat) : List Nat :=
  0 :: (List.range duration).filter fun moment => 0 < moment && moment % interval == 0

theorem filter_multiples (duration : Nat) :
    (List.range duration).filter (fun moment => 0 < moment && moment % interval == 0) =
      (List.range ((duration - 1) / interval)).map fun tick => interval * (tick + 1) := by
  induction duration with
  | zero => rfl
  | succ last induction =>
      rw [List.range_succ, List.filter_append, induction, Nat.add_sub_cancel]
      by_cases due : 0 < last ∧ last % interval = 0
      · have count : last / interval = (last - 1) / interval + 1 := by
          simp only [interval] at due ⊢
          omega
        have moment : interval * ((last - 1) / interval + 1) = last := by
          simp only [interval] at due ⊢
          omega
        simp [count, List.range_succ, moment, due]
      · have count : last / interval = (last - 1) / interval := by
          simp only [interval] at due ⊢
          omega
        have passed : (decide (0 < last) && last % interval == 0) = false := by
          simpa using due
        simp [count, passed]

theorem map_moments (start stop : Nat) :
    (moments (stop - start)).map (start + ·) = start :: tickTimes start stop := by
  simp [moments, filter_multiples, tickTimes, Function.comp_def]

example : moments 120 = [0, 50, 100] := by
  decide

theorem length_moments {duration : Nat}
    (untied : duration = 0 ∨ duration % interval ≠ 0) :
    (moments duration).length = 1 + duration / interval := by
  rw [moments, filter_multiples, List.length_cons, List.length_map, List.length_range]
  simp only [interval] at untied ⊢
  omega

/-- A watch as a loop, which waits for its next tick or for the end of the query,
whichever comes first. -/
def ticking (figures : Figures) (tick stop : Nat) : Program Figures :=
  if tick < stop then do
    match ← read figures.pid (some tick) with
    | .ok kib => ticking (figures.record kib) (tick + interval) stop
    | .error text => pure { figures with fault := some (unreadable figures.pid text) }
  else pure figures
termination_by stop - tick
decreasing_by
  simp only [interval]
  omega

theorem tickTimes_of_lt {start stop : Nat} (before : start + interval < stop) :
    tickTimes start stop = (start + interval) :: tickTimes (start + interval) stop := by
  have count : (stop - start - 1) / interval =
      (stop - (start + interval) - 1) / interval + 1 := by
    simp only [interval] at before ⊢
    omega
  rw [tickTimes, count, List.range_succ_eq_map, List.map_cons, List.map_map, tickTimes]
  congr 1
  apply List.map_congr_left
  intro tick _
  simp only [Function.comp_apply, interval]
  omega

theorem tickTimes_of_le {start stop : Nat} (behind : stop ≤ start + interval) :
    tickTimes start stop = [] := by
  have count : (stop - start - 1) / interval = 0 := by
    simp only [interval] at behind ⊢
    omega
  rw [tickTimes, count]
  rfl

/-- The readings that a watch takes in the end are those that it would take tick by tick. -/
theorem sample_tickTimes (figures : Figures) (start stop : Nat) :
    sample figures (tickTimes start stop) = ticking figures (start + interval) stop := by
  rw [ticking]
  by_cases before : start + interval < stop
  · rw [if_pos before, tickTimes_of_lt before, sample]
    congr 1
    funext answer
    cases answer with
    | ok kib => exact sample_tickTimes (figures.record kib) (start + interval) stop
    | error text => rfl
  · rw [if_neg before, tickTimes_of_le (Nat.le_of_not_lt before), sample]
termination_by stop - start
decreasing_by
  simp only [interval] at before ⊢
  omega

/-! ### Readings -/

/-- One reading of a process: when it was made, and what it came to. -/
structure Look where
  pid : Nat
  time : Nat
  outcome : Except String Nat

/-- What the clock showed whenever it was read. -/
def clocks (events : List Event) : List Nat :=
  events.filterMap fun event =>
    match event with
    | ⟨.clock, time⟩ => some time
    | _ => none

/-- The readings among events behind which the clock shows a time.  A reading takes no
time, so that one of the present is made when the clock shows what it shows next. -/
def looksBefore (shown : Nat) : List Event → List Look
  | [] => []
  | ⟨.readStatus pid time, reply⟩ :: later =>
      ⟨pid, time.getD ((clocks later).headD shown), reading reply⟩ :: looksBefore shown later
  | _ :: later => looksBefore shown later

def looks (events : List Event) : List Look :=
  looksBefore 0 events

@[simp] theorem clocks_append (first later : List Event) :
    clocks (first ++ later) = clocks first ++ clocks later :=
  List.filterMap_append

theorem looksBefore_append (shown : Nat) (first later : List Event) :
    looksBefore shown (first ++ later) =
      looksBefore ((clocks later).headD shown) first ++ looksBefore shown later := by
  induction first with
  | nil => rfl
  | cons event first induction =>
      obtain ⟨effect, reply⟩ := event
      cases effect with
      | readStatus pid time => simp [looksBefore, induction]
      | _ => exact induction

theorem unwatched_of_talk {α : Type} {program : Program α}
    (keeps : program.KeepsTo Effect.isTalk) {events : List Event} {value : α}
    (run : program.Runs events value) :
    (∀ shown, looksBefore shown events = []) ∧ clocks events = [] := by
  have talk := keeps.of_mem run
  constructor
  · intro shown
    clear run
    induction events with
    | nil => rfl
    | cons event events induction =>
        obtain ⟨here, later⟩ := List.forall_mem_cons.mp talk
        obtain ⟨effect, reply⟩ := event
        cases effect with
        | readStatus pid time => cases here
        | _ => exact induction later
  · apply List.filterMap_eq_nil_iff.mpr
    rintro ⟨effect, reply⟩ member
    cases effect with
    | clock => cases talk _ member
    | _ => rfl

theorem looks_of_read {pid : Nat} {time : Option Nat} {events : List Event}
    {answer : Except String Nat} (run : (read pid time).Runs events answer) :
    (∀ shown, looksBefore shown events = [⟨pid, time.getD shown, answer⟩]) ∧
      clocks events = [] := by
  obtain ⟨reply, requestRun, rfl⟩ := (runs_bind_done_iff fun _ => rfl).mp run
  rw [runs_request_iff.mp requestRun]
  exact ⟨fun _ => rfl, rfl⟩

theorem clocks_of_now {events : List Event} {time : Nat}
    (run : Program.now.Runs events time) :
    (∀ shown, looksBefore shown events = []) ∧ clocks events = [time] := by
  rw [runs_request_iff.mp run]
  exact ⟨fun _ => rfl, rfl⟩

/-- Readings that came to some figures, and perhaps a last one that failed. -/
def outcomes (kibs : List Nat) (failure : Option String) : List (Except String Nat) :=
  kibs.map .ok ++ failure.toList.map .error

/-- The process was read when a query began and at every tick while it ran, until a
reading failed. -/
structure Sampled (pid start duration : Nat) (taken : List Look) (kibs : List Nat)
    (failure : Option String) : Prop where
  taken_eq : taken = List.zipWith (Look.mk pid) ((moments duration).map (start + ·))
    (outcomes kibs failure)
  within : (outcomes kibs failure).length ≤ (moments duration).length
  complete : failure = none → kibs.length = (moments duration).length

/-- The figures that readings come to, which are zero if there are none. -/
def Figures.ofReadings (pid : Nat) (kibs : List Nat) (failure : Option String) : Figures where
  pid
  first := kibs.head?.getD 0
  last := kibs.getLast?.getD 0
  peak := kibs.max?.getD 0
  samples := kibs.length
  fault := failure.map fun text => "read /proc/" ++ toString pid ++ "/status: " ++ text

namespace Figures

theorem start_eq (pid kib : Nat) : start pid kib = ofReadings pid [kib] none := rfl

/-- One more reading is recorded as if it had been there from the beginning. -/
theorem record_ofReadings (pid kib reading : Nat) (kibs : List Nat) :
    (ofReadings pid (kib :: kibs) none).record reading =
      ofReadings pid (kib :: (kibs ++ [reading])) none := by
  have last : (kib :: (kibs ++ [reading])).getLast? = some reading := by
    rw [← List.cons_append, List.getLast?_concat]
  have peak : (kib :: (kibs ++ [reading])).max? =
      some (max ((kib :: kibs).max?.getD 0) reading) := by
    simp only [List.max?_cons', List.foldl_append, List.foldl_cons, List.foldl_nil,
      Option.getD_some]
  simp [ofReadings, record, last, peak]

theorem bounds_ofReadings (pid : Nat) (kibs : List Nat) (failure : Option String) :
    (ofReadings pid kibs failure).first ≤ (ofReadings pid kibs failure).peak ∧
      (ofReadings pid kibs failure).last ≤ (ofReadings pid kibs failure).peak := by
  constructor
  · cases kibs with
    | nil => exact Nat.le_refl 0
    | cons kib kibs =>
        have first : kib ≤ (kib :: kibs).max?.getD 0 :=
          List.le_max?_getD_of_mem List.mem_cons_self
        exact first
  · cases shape : kibs.getLast? with
    | none => simp [ofReadings, shape]
    | some last =>
        simp only [ofReadings, shape, Option.getD_some]
        exact List.le_max?_getD_of_mem (List.mem_of_getLast? shape)

end Figures

theorem runs_sample {pid kib : Nat} {kibs times : List Nat} {events : List Event}
    {last : Figures}
    (run : (sample (.ofReadings pid (kib :: kibs) none) times).Runs events last) :
    ∃ more failure, last = .ofReadings pid (kib :: (kibs ++ more)) failure ∧
      (∀ shown, looksBefore shown events =
        List.zipWith (Look.mk pid) times (outcomes more failure)) ∧
      (outcomes more failure).length ≤ times.length ∧
      (failure = none → more.length = times.length) ∧ clocks events = [] := by
  induction times generalizing kibs events with
  | nil =>
      obtain ⟨rfl, rfl⟩ := runs_pure_iff.mp run
      exact ⟨[], none, by simp, fun _ => rfl, Nat.le_refl 0, fun _ => rfl, rfl⟩
  | cons time times induction =>
      obtain ⟨reading, answer, later, rfl, readRun, laterRun⟩ := runs_bind_iff.mp run
      obtain ⟨look, untimed⟩ := looks_of_read readRun
      cases answer with
      | ok figure =>
          simp only [Figures.record_ofReadings] at laterRun
          obtain ⟨more, failure, rfl, taken, within, complete, quiet⟩ := induction laterRun
          refine ⟨figure :: more, failure, by simp, ?_, ?_, ?_, ?_⟩
          · intro shown
            simp only [looksBefore_append, look, taken]
            rfl
          · simpa [outcomes] using within
          · intro unbroken
            simp [complete unbroken]
          · simp [untimed, quiet]
      | error text =>
          obtain ⟨rfl, rfl⟩ := runs_pure_iff.mp laterRun
          refine ⟨[], some text, by simp [Figures.ofReadings, unreadable], ?_, ?_, ?_, ?_⟩
          · simp [look, outcomes, Figures.ofReadings]
          · simp [outcomes]
          · intro impossible
            cases impossible
          · simp [untimed]

theorem Sampled.of_first {pid start stop kib : Nat} {kibs : List Nat}
    {failure : Option String}
    (within : (outcomes kibs failure).length ≤ (tickTimes start stop).length)
    (complete : failure = none → kibs.length = (tickTimes start stop).length) :
    Sampled pid start (stop - start)
      (⟨pid, start, .ok kib⟩ ::
        List.zipWith (Look.mk pid) (tickTimes start stop) (outcomes kibs failure))
      (kib :: kibs) failure := by
  have length := congrArg List.length (map_moments start stop)
  rw [List.length_map, List.length_cons] at length
  constructor
  · rw [map_moments]
    rfl
  · rw [length]
    exact Nat.succ_le_succ within
  · intro unbroken
    rw [length, List.length_cons, complete unbroken]

theorem Sampled.of_failure (pid start stop : Nat) (text : String) :
    Sampled pid start (stop - start) [⟨pid, start, .error text⟩] [] (some text) := by
  constructor
  · rw [map_moments]
    simp [outcomes]
  · simp [outcomes, moments]
  · intro impossible
    cases impossible

/-- There are no figures exactly if the first reading failed. -/
theorem Sampled.kibs_eq_nil_iff {pid start duration : Nat} {taken : List Look}
    {kibs : List Nat} {failure : Option String}
    (sampled : Sampled pid start duration taken kibs failure) :
    kibs = [] ↔ ∃ text, taken.head? = some ⟨pid, start, .error text⟩ := by
  obtain ⟨taken_eq, -, complete⟩ := sampled
  rw [taken_eq]
  cases kibs with
  | cons kib kibs => simp [moments, outcomes]
  | nil =>
      cases failure with
      | none => exact absurd (complete rfl) (by simp [moments])
      | some text => simp [moments, outcomes]

end Memory

namespace Batch

open Memory

theorem sampled_of_watch {id pid start stop : Nat} {watch : Option Watch}
    {memory : Option Figures} {starting stopping : List Event}
    (startRun : (startWatch id (some pid)).Runs starting watch)
    (stopRun : (stopWatch start stop watch).Runs stopping memory) (shown : Nat) :
    ∃ kibs failure, memory = some (.ofReadings pid kibs failure) ∧
      Sampled pid start (stop - start)
        (looksBefore start starting ++ looksBefore shown stopping) kibs failure ∧
      clocks starting = [] ∧ clocks stopping = [] := by
  obtain ⟨opening, opened, telling, rfl, openRun, tellRun⟩ := runs_bind_iff.mp startRun
  obtain ⟨first, answer, ending, rfl, readRun, endRun⟩ := runs_bind_iff.mp openRun
  obtain ⟨look, untimed⟩ := looks_of_read readRun
  cases answer with
  | ok kib =>
      obtain ⟨rfl, rfl⟩ := runs_pure_iff.mp endRun
      obtain ⟨rfl, rfl⟩ := runs_pure_iff.mp tellRun
      obtain ⟨last, sampleRun, rfl⟩ := (runs_bind_done_iff fun _ => rfl).mp stopRun
      simp only [Figures.start_eq] at sampleRun
      obtain ⟨more, failure, rfl, taken, within, complete, quiet⟩ := runs_sample sampleRun
      refine ⟨kib :: more, failure, rfl, ?_, by simp [untimed], quiet⟩
      simp only [List.append_nil, look, taken]
      exact .of_first within complete
  | error text =>
      obtain ⟨rfl, rfl⟩ := runs_pure_iff.mp endRun
      obtain ⟨noted, _, rest, rfl, noteRun, restRun⟩ := runs_bind_iff.mp tellRun
      obtain ⟨rfl, rfl⟩ := runs_pure_iff.mp restRun
      obtain ⟨rfl, rfl⟩ := runs_pure_iff.mp stopRun
      obtain ⟨unseen, quiet⟩ := unwatched_of_talk (.request rfl) noteRun
      refine ⟨[], some text, rfl, ?_, by simp [untimed, quiet], rfl⟩
      simp only [looksBefore_append, look, unseen, clocks_append, quiet]
      exact .of_failure pid start stop text

/-- A query that is watched is measured from one reading of the clock to the next.  The
process is read right before it begins and at every tick before it ends (one at its very
end counts as behind it), up to the first reading that fails; its figures are those of
these readings. -/
theorem figures_tell_readings {σ : Type} (environment : Environment σ) (state : σ)
    (timeout : Timeout) (pid : Nat) (query : Query) :
    let played := (runQuery ⟨timeout, some pid⟩ query).play environment state
    ∃ start stop kibs failure figures,
      clocks played.events = [start, stop] ∧
      Sampled pid start (stop - start) (looks played.events) kibs failure ∧
      played.value.memory = some figures ∧ figures = .ofReadings pid kibs failure ∧
      (failure = none → (stop - start = 0 ∨ (stop - start) % interval ≠ 0) →
        figures.samples = 1 + (stop - start) / interval) ∧
      figures.first ≤ figures.peak ∧ figures.last ≤ figures.peak ∧
      (figures.samples = 0 ↔
        ∃ text, (looks played.events).head? = some ⟨pid, start, .error text⟩) := by
  intro played
  have run : (runQuery ⟨timeout, some pid⟩ query).Runs played.events played.value :=
    runs_play environment _ state
  obtain ⟨limiting, _, rest₁, events_eq, limitRun, run₁⟩ := runs_bind_iff.mp run
  obtain ⟨starting, watch, rest₂, rfl, startRun, run₂⟩ := runs_bind_iff.mp run₁
  obtain ⟨beginning, start, rest₃, rfl, beginRun, run₃⟩ := runs_bind_iff.mp run₂
  obtain ⟨stating, outcome, rest₄, rfl, stateRun, run₄⟩ := runs_bind_iff.mp run₃
  obtain ⟨finishing, stop, rest₅, rfl, finishRun, run₅⟩ := runs_bind_iff.mp run₄
  obtain ⟨stopping, memory, ending, rfl, stopRun, endRun⟩ := runs_bind_iff.mp run₅
  obtain ⟨rfl, value_eq⟩ := runs_pure_iff.mp endRun
  obtain ⟨kibs, failure, rfl, sampled, startUntimed, stopUntimed⟩ :=
    sampled_of_watch startRun stopRun 0
  -- The clock and the process are read by the watch and around the statements alone.
  obtain ⟨limitUnseen, limitUntimed⟩ := unwatched_of_talk (Session.talk_limit _) limitRun
  obtain ⟨stateUnseen, stateUntimed⟩ := unwatched_of_talk (talk_countFrom _ _ _) stateRun
  obtain ⟨beginUnseen, beginTime⟩ := clocks_of_now beginRun
  obtain ⟨finishUnseen, finishTime⟩ := clocks_of_now finishRun
  have timed : clocks played.events = [start, stop] := by
    simp only [events_eq, clocks_append, limitUntimed, startUntimed, beginTime,
      stateUntimed, finishTime, stopUntimed]
    rfl
  have taken : looks played.events =
      looksBefore start starting ++ looksBefore 0 stopping := by
    simp only [looks, events_eq, looksBefore_append, clocks_append, limitUnseen,
      beginUnseen, beginTime, stateUnseen, finishUnseen, List.nil_append,
      List.append_nil, List.cons_append, List.headD_cons]
  rw [← taken] at sampled
  obtain ⟨low, high⟩ := Figures.bounds_ofReadings pid kibs failure
  refine ⟨start, stop, kibs, failure, _, timed, sampled, by rw [value_eq], rfl, ?_, low,
    high, ?_⟩
  · intro unbroken untied
    exact (sampled.complete unbroken).trans (length_moments untied)
  · rw [← sampled.kibs_eq_nil_iff]
    exact List.length_eq_zero_iff

end Batch

end DecisionBench
