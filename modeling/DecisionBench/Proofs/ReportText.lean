import DecisionBench.Proofs.JsonNumber

/-!
# The report reads back

A reader of JSON finds in a report what the results say: one object for each result,
in order, with its keys in a fixed order and nothing but the seconds changed by being
written (`report_reads_back`).  Results that are written alike differ in seconds alone.
-/

namespace DecisionBench.Report

open Json (Token tokens? separated Reads ReadsMember)

/-! ### What an object says -/

def endedMember : Ended → String × Json.Value
  | .rows count => ("rows", .number false count 0)
  | .failure message => ("error", .text message)

def memoryMembers : Option Memory.Figures → List (String × Json.Value)
  | none => []
  | some figures =>
      [("monitor_pid", .number false figures.pid 0),
       ("monitor_rss_start_kb", .number false figures.first 0),
       ("monitor_rss_end_kb", .number false figures.last 0),
       ("monitor_rss_peak_kb", .number false figures.peak 0),
       ("monitor_samples", .number false figures.samples 0)] ++
      figures.fault.toList.map fun fault => ("monitor_error", .text fault)

/-- The members of the object for a result, whose seconds are read so. -/
def membersOf (result : QueryResult) (seconds : Json.Value) : List (String × Json.Value) :=
  ("query_id", .number false result.id 0) :: ("title", .text result.title) ::
    ("ok", .flag result.isOk) :: ("seconds", seconds) ::
    endedMember result.ended :: memoryMembers result.memory

def keysOf (result : QueryResult) : List String :=
  ["query_id", "title", "ok", "seconds", if result.isOk then "rows" else "error"] ++
    match result.memory with
    | none => []
    | some figures =>
        ["monitor_pid", "monitor_rss_start_kb", "monitor_rss_end_kb",
         "monitor_rss_peak_kb", "monitor_samples"] ++
        if figures.fault.isSome then ["monitor_error"] else []

/-- What seconds are read as: a number if they are finite, and else nothing. -/
def SecondsRead : Binary64 → Json.Value → Prop
  | .finite negative _ _, seconds =>
      ∃ digits exponent, seconds = .number negative digits exponent
  | .nan, seconds | .infinite _, seconds => seconds = .null

/-- The object says what the result says. -/
structure Tells (result : QueryResult) (members : List (String × Json.Value)) : Prop where
  keys : members.map Prod.fst = keysOf result
  distinct : (members.map Prod.fst).Nodup
  content : ∃ seconds, SecondsRead result.seconds seconds ∧
    members = membersOf result seconds

theorem keys_membersOf (result : QueryResult) (seconds : Json.Value) :
    (membersOf result seconds).map Prod.fst = keysOf result := by
  obtain ⟨id, title, time, ended, memory⟩ := result
  cases memory with
  | none => cases ended <;> rfl
  | some figures =>
      obtain ⟨pid, first, last, peak, samples, fault⟩ := figures
      cases ended <;> cases fault <;> rfl

theorem nodup_keysOf (result : QueryResult) : (keysOf result).Nodup := by
  obtain ⟨id, title, time, ended, memory⟩ := result
  cases memory with
  | none => cases ended <;> simp [keysOf, QueryResult.isOk]
  | some figures =>
      obtain ⟨pid, first, last, peak, samples, fault⟩ := figures
      cases ended <;> cases fault <;> simp [keysOf, QueryResult.isOk]

theorem tells_membersOf {result : QueryResult} {seconds : Json.Value}
    (read : SecondsRead result.seconds seconds) : Tells result (membersOf result seconds) where
  keys := keys_membersOf result seconds
  distinct := keys_membersOf result seconds ▸ nodup_keysOf result
  content := ⟨seconds, read, rfl⟩

/-- The result without the time that it took. -/
def timeless (result : QueryResult) : QueryResult :=
  { result with seconds := .nan }

theorem endedMember_injective : Function.Injective endedMember := by
  intro ended other same
  cases ended <;> cases other <;> simp_all [endedMember]

theorem memoryMembers_injective : Function.Injective memoryMembers := by
  rintro (_ | ⟨pid, first, last, peak, samples, fault⟩) (_ | other) same
  · rfl
  · cases same
  · cases same
  · obtain ⟨otherPid, otherFirst, otherLast, otherPeak, otherSamples, otherFault⟩ := other
    cases fault <;> cases otherFault <;> simp_all [memoryMembers]

/-- One object says what one result says, up to its seconds. -/
theorem Tells.timeless_eq {result other : QueryResult}
    {members : List (String × Json.Value)} (tells : Tells result members)
    (tellsOther : Tells other members) : timeless result = timeless other := by
  obtain ⟨seconds, -, rfl⟩ := tells.content
  obtain ⟨otherSeconds, -, same⟩ := tellsOther.content
  simp only [membersOf, List.cons.injEq, Prod.mk.injEq, Json.Value.number.injEq,
    Json.Value.text.injEq, true_and, and_true] at same
  obtain ⟨ids, titles, -, -, ends, memories⟩ := same
  have sameEnded := endedMember_injective ends
  have sameMemory := memoryMembers_injective memories
  obtain ⟨id, title, time, ended, memory⟩ := result
  simp_all [timeless]

/-! ### What is written -/

/-- The seconds are written in this way. -/
def WritesSeconds (time : Binary64) (seconds : Json.Value) : Prop :=
  tokens? (jsonValue (.number time)) = some [.scalar seconds]

theorem exists_seconds (time : Binary64) :
    ∃ seconds, SecondsRead time seconds ∧ WritesSeconds time seconds := by
  cases time with
  | nan => exact ⟨.null, rfl, rfl⟩
  | infinite negative => exact ⟨.null, rfl, rfl⟩
  | finite negative significand exponent =>
      have written : (Binary64.finite negative significand exponent).scientific? =
          some _ := rfl
      obtain ⟨digits, scale, read⟩ := Json.tokens?_scientific written
      exact ⟨_, ⟨digits, scale, rfl⟩, read⟩

/-- What a value of an entry is read as, with the seconds read so. -/
def readAs (seconds : Json.Value) : Value → Json.Value
  | .text content => .text content
  | .natural number => .number false number 0
  | .flag value => .flag value
  | .number _ => seconds

theorem tokens?_jsonValue {time : Binary64} {seconds : Json.Value}
    (writes : WritesSeconds time seconds) {value : Value}
    (secondsOnly : ∀ other, value = .number other → other = time) :
    tokens? (jsonValue value) = some [.scalar (readAs seconds value)] := by
  cases value with
  | text content => exact Json.tokens?_jsonString content
  | natural number => exact Json.tokens?_decimal number
  | flag value => cases value <;> rfl
  | number other =>
      obtain rfl := secondsOnly other rfl
      exact writes

def entryTokens (seconds : Json.Value) (entry : String × Value) : List Token :=
  [.scalar (.text entry.1), .colon, .scalar (readAs seconds entry.2)]

theorem tokens?_jsonEntry {seconds : Json.Value} {entry : String × Value}
    (written : tokens? (jsonValue entry.2) = some [.scalar (readAs seconds entry.2)]) :
    tokens? (jsonEntry entry) = some (entryTokens seconds entry) := by
  have colon : Json.mark? ':' = some .colon := rfl
  have blank : ∀ c ∈ [' '], Json.isBlank c = true := List.all_eq_true.mp rfl
  have behindKey : tokens? (':' :: ([' '] ++ jsonValue entry.2)) =
      some [.colon, .scalar (readAs seconds entry.2)] := by
    rw [Json.tokens?_mark colon, Json.tokens?_blanks blank, written]
    rfl
  have indent : ∀ c ∈ "\n    ".toList, Json.isBlank c = true := List.all_eq_true.mp rfl
  have read := Json.tokens?_append (Json.tokens?_jsonString entry.1) rfl behindKey
  rw [← Json.tokens?_blanks indent] at read
  -- The line feed and the blanks in front of the key are passed over.
  have spelled : jsonEntry entry = "\n    ".toList ++ jsonString entry.1 ++ ": ".toList ++
      jsonValue entry.2 := rfl
  refine Eq.trans ?_ read
  rw [spelled]
  simp

theorem natural_or_text_of_mem_memoryEntries {figures : Memory.Figures} {key : String}
    {value : Value} (member : (key, value) ∈ memoryEntries figures) :
    (∃ number, value = .natural number) ∨ ∃ content, value = .text content := by
  rcases List.mem_append.mp member with numbers | fault
  · simp only [List.mem_cons, Prod.mk.injEq, List.not_mem_nil, or_false] at numbers
    rcases numbers with ⟨-, rfl⟩ | ⟨-, rfl⟩ | ⟨-, rfl⟩ | ⟨-, rfl⟩ | ⟨-, rfl⟩ <;>
      exact .inl ⟨_, rfl⟩
  · cases told : figures.fault with
    | none =>
        rw [told] at fault
        cases fault
    | some text =>
        rw [told] at fault
        cases List.mem_singleton.mp fault
        exact .inr ⟨_, rfl⟩

/-- Nothing but the seconds is written as a number that may have a fraction. -/
theorem seconds_of_mem_entries {result : QueryResult} {key : String} {other : Binary64}
    (member : (key, .number other) ∈ entries result) : other = result.seconds := by
  rcases List.mem_append.mp member with front | memory
  · rcases List.mem_append.mp front with first | ended
    · simp only [List.mem_cons, Prod.mk.injEq, reduceCtorEq, and_false, false_or,
        List.not_mem_nil, or_false] at first
      obtain ⟨-, same⟩ := first
      cases same
      rfl
    · have same := List.mem_singleton.mp ended
      cases how : result.ended <;> simp [how] at same
  · cases watched : result.memory with
    | none =>
        rw [watched] at memory
        cases memory
    | some figures =>
        rw [watched] at memory
        rcases natural_or_text_of_mem_memoryEntries memory with ⟨_, same⟩ | ⟨_, same⟩ <;>
          cases same

theorem membersOf_eq (result : QueryResult) (seconds : Json.Value) :
    (entries result).map (fun entry => (entry.1, readAs seconds entry.2)) =
      membersOf result seconds := by
  obtain ⟨id, title, time, ended, memory⟩ := result
  cases memory with
  | none => cases ended <;> rfl
  | some figures =>
      obtain ⟨pid, first, last, peak, samples, fault⟩ := figures
      cases ended <;> cases fault <;> rfl

def objectTokens (result : QueryResult) (seconds : Json.Value) : List Token :=
  .openObject :: separated ((entries result).map (entryTokens seconds)) ++ [.closeObject]

theorem tokens?_jsonObject {result : QueryResult} {seconds : Json.Value}
    (writes : WritesSeconds result.seconds seconds) :
    tokens? (jsonObject result) = some (objectTokens result seconds) := by
  have inside : List.Forall₂ (fun text tokens => tokens? text = some tokens)
      ((entries result).map jsonEntry) ((entries result).map (entryTokens seconds)) := by
    rw [List.forall₂_map_left_iff, List.forall₂_map_right_iff, List.forall₂_same]
    rintro ⟨key, value⟩ member
    refine tokens?_jsonEntry (tokens?_jsonValue writes ?_)
    rintro other rfl
    exact seconds_of_mem_entries member
  have opens : Json.mark? '\x7b' = some .openObject := rfl
  have closes : tokens? ['\n', ' ', ' ', '\x7d'] = some [.closeObject] := rfl
  have indent : ∀ c ∈ "\n  ".toList, Json.isBlank c = true := List.all_eq_true.mp rfl
  have whole := Json.tokens?_enclosed inside opens rfl closes
  rw [← Json.tokens?_blanks indent] at whole
  refine Eq.trans ?_ whole
  simp [jsonObject]

theorem reads_object (result : QueryResult) (seconds : Json.Value) :
    Reads (objectTokens result seconds) (.object (membersOf result seconds)) := by
  rw [← membersOf_eq]
  refine Json.reads_object ?_ (by simp [entries])
  rw [List.forall₂_map_left_iff, List.forall₂_map_right_iff, List.forall₂_same]
  exact fun entry _ => ⟨_, rfl, Json.reads_scalar _⟩

/-! ### The whole report -/

section

variable {seconds : Binary64 → Json.Value}

/-- What a report is read as, with the seconds read so. -/
def contents (seconds : Binary64 → Json.Value) (results : List QueryResult) :
    List (List (String × Json.Value)) :=
  results.map fun result => membersOf result (seconds result.seconds)

theorem exists_tokens_body (writes : ∀ time, WritesSeconds time (seconds time))
    (results : List QueryResult) :
    ∃ tokens, tokens? (body results) = some tokens ∧
      Reads tokens (.list ((contents seconds results).map .object)) := by
  cases results with
  | nil => exact ⟨_, rfl, Json.reads_emptyList⟩
  | cons result results =>
      let parts := (result :: results).map fun result =>
        objectTokens result (seconds result.seconds)
      have inside : List.Forall₂ (fun text tokens => tokens? text = some tokens)
          ((result :: results).map jsonObject) parts := by
        rw [List.forall₂_map_left_iff, List.forall₂_map_right_iff, List.forall₂_same]
        exact fun result _ => tokens?_jsonObject (writes result.seconds)
      have opens : Json.mark? '[' = some .openList := rfl
      have closes : tokens? ['\n', ']'] = some [.closeList] := rfl
      have whole := Json.tokens?_enclosed inside opens rfl closes
      refine ⟨_, Eq.trans ?_ whole, Json.reads_list ?_ (by simp [parts])⟩
      · simp [body]
      · rw [contents, List.map_map, List.forall₂_map_left_iff, List.forall₂_map_right_iff,
          List.forall₂_same]
        exact fun result _ => reads_object result (seconds result.seconds)

theorem read_body (writes : ∀ time, WritesSeconds time (seconds time))
    (results : List QueryResult) :
    Json.read (String.ofList (body results)) =
        some (.list ((contents seconds results).map .object)) ∧
      Json.read (render results) = some (.list ((contents seconds results).map .object)) := by
  obtain ⟨tokens, written, reads⟩ := exists_tokens_body writes results
  have lineFeed : tokens? ['\n'] = some [] := rfl
  have ended := Json.tokens?_append written rfl lineFeed
  rw [List.append_nil] at ended
  have assembled := Json.assemble?_of_reads reads
  constructor
  · simp [Json.read, written, assembled]
  · have characters_eq : characters results = body results ++ ['\n'] := rfl
    simp [Json.read, render, characters_eq, ended, assembled]

end

theorem getLast?_body (results : List QueryResult) :
    (body results).getLast? = some ']' := by
  unfold body
  split
  · rfl
  · have last : "\n]".toList.getLast? = some ']' := rfl
    rw [List.getLast?_append, last, Option.some_or]

/-- Objects say one thing, up to the seconds. -/
theorem timeless_of_tells {results others : List QueryResult}
    {objects : List (List (String × Json.Value))} (tells : List.Forall₂ Tells results objects)
    (tellsOthers : List.Forall₂ Tells others objects) :
    results.map timeless = others.map timeless := by
  induction tells generalizing others with
  | nil =>
      cases tellsOthers
      rfl
  | cons here _ induction =>
      cases tellsOthers with
      | cons there further =>
          rw [List.map_cons, List.map_cons, here.timeless_eq there, induction further]

/-- A reader of JSON takes the whole report, up to the line feed at its end, for one
value: the list of what the results say, in their order.  Each object has the keys of
its result, in order and without repetition; its texts and natural numbers are those
of the result, and its seconds are a number if they are finite and else null.  So
reports that are equal come from results that differ in seconds alone. -/
theorem report_reads_back (results : List QueryResult) :
    (∃ (text : String) (objects : List (List (String × Json.Value))),
        render results = text ++ "\n" ∧ text.toList.getLast? = some ']' ∧
        Json.read text = some (.list (objects.map .object)) ∧
        Json.read (render results) = some (.list (objects.map .object)) ∧
        List.Forall₂ Tells results objects) ∧
      ∀ others, render results = render others →
        results.map timeless = others.map timeless := by
  choose seconds read writes using exists_seconds
  have tells : ∀ results, List.Forall₂ Tells results (contents seconds results) := by
    intro results
    rw [contents, List.forall₂_map_right_iff, List.forall₂_same]
    exact fun result _ => tells_membersOf (read result.seconds)
  constructor
  · obtain ⟨bodyRead, reportRead⟩ := read_body writes results
    refine ⟨String.ofList (body results), contents seconds results, ?_, ?_, bodyRead,
      reportRead, tells results⟩
    · exact String.ofList_append
    · rw [String.toList_ofList, getLast?_body]
  · intro others same
    have reportRead := (read_body writes results).2
    -- One text is read as one value, which is what both lists of results say.
    rw [same, (read_body writes others).2] at reportRead
    have lists : (contents seconds others).map Json.Value.object =
        (contents seconds results).map .object := by
      injection reportRead with values
      injection values
    have injective : Function.Injective Json.Value.object :=
      fun _ _ equal => Json.Value.object.inj equal
    have objects := List.map_injective_iff.mpr injective lists
    exact timeless_of_tells (tells results) (objects ▸ tells others)

end DecisionBench.Report
