import DecisionBench.Proofs.Forecast
import DecisionBench.Proofs.Route

/-!
# Loading tables

All data files are looked for before anything is sent to the session, and the
first one that is not there, or whose absolute path cannot be told, ends the
loading (`fileFault?`).  Then the tables are emptied, if that is asked for, and
filled, each from its own file, up to the first statement that fails (`plan`).

`files_found_before_statements` says so for every list of tables, every state of
the files and every session.
-/

namespace DecisionBench

/-- The files of a system: nothing for a path that leads to no regular file, and
otherwise the absolute path of the file, or why it cannot be told. -/
abbrev FileState := String → Option (Except String String)

/-- The system answers all questions about files from one state of them. -/
def Environment.Shows {σ : Type} (environment : Environment σ) (files : FileState) : Prop :=
  ∀ state path,
    (environment.answer (.isFile path) state).1 = (files path).isSome ∧
      ∀ told, files path = some told →
        (environment.answer (.resolvePath path) state).1 = told

/-- The event agrees with a state of the files, if it is a question about them. -/
def Event.Agrees (files : FileState) : Event → Prop
  | ⟨.isFile path, found⟩ => found = (files path).isSome
  | ⟨.resolvePath path, told⟩ => ∀ known, files path = some known → told = known
  | _ => True

theorem Environment.Shows.agrees_of_mem_play {σ α : Type} {environment : Environment σ}
    {files : FileState} (shows : environment.Shows files) (program : Program α) (state : σ) :
    ∀ event ∈ (program.play environment state).events, event.Agrees files := by
  intro event member
  obtain ⟨before, replied⟩ := Program.reply_of_mem_play environment program state event member
  obtain ⟨effect, reply⟩ := event
  cases effect with
  | isFile path => exact replied.trans (shows before path).1
  | resolvePath path => exact fun told known => replied.trans ((shows before path).2 told known)
  | _ => trivial

/-- The environment of these files, with nothing else around them. -/
def Environment.showing (files : FileState) : Environment Unit where
  answer
    | .isFile path, _ => ((files path).isSome, ())
    | .resolvePath path, _ => ((files path).getD (.error "No such file or directory"), ())
    | effect, _ => (effect.idleReply, ())

theorem Environment.shows_showing (files : FileState) :
    (Environment.showing files).Shows files := by
  intro state path
  refine ⟨rfl, fun told known => ?_⟩
  change (files path).getD _ = told
  rw [known]
  rfl

namespace Load

/-! ### Finding the files -/

/-- What there is to say against the data file of a table. -/
def fileFault? (files : FileState) (directory : String) (table : Table) : Option Fault :=
  let path := filePath directory table
  match files path with
  | none => some ⟨.files, "data file for " ++ table.name ++ " not found: " ++ path⟩
  | some (.error text) => some ⟨.files, "resolve " ++ path ++ ": " ++ text⟩
  | some (.ok _) => none

theorem runs_dataFile {files : FileState} {directory : String} {table : Table}
    {events : List Event} {outcome : Except Fault String}
    (run : (dataFile directory table).outcome.Runs events outcome)
    (agree : ∀ event ∈ events, event.Agrees files) :
    (∃ path, files (filePath directory table) = some (.ok path) ∧ outcome = .ok path) ∨
      ∃ fault, fileFault? files directory table = some fault ∧ outcome = .error fault := by
  obtain ⟨asking, found, resolving, rfl, askRun, resolveRun⟩ :=
    Procedure.runs_lift_bind_iff.mp run
  obtain rfl := Program.runs_request_iff.mp askRun
  have found_eq : found = (files (filePath directory table)).isSome :=
    agree _ (List.mem_append_left _ List.mem_cons_self)
  cases known : files (filePath directory table) with
  | none =>
      rw [known] at found_eq
      subst found_eq
      obtain ⟨-, rfl⟩ := Program.runs_done_iff.mp resolveRun
      refine .inr ⟨fileMissing table (filePath directory table), ?_, rfl⟩
      simp only [fileFault?, known]
      rfl
  | some resolved =>
      rw [known] at found_eq
      subst found_eq
      obtain ⟨told, requestRun, rfl⟩ := Procedure.runs_orFault_iff.mp resolveRun
      obtain rfl := Program.runs_request_iff.mp requestRun
      have told_eq : told = resolved :=
        agree _ (List.mem_append_right _ List.mem_cons_self) resolved known
      subst told_eq
      cases told with
      | ok path => exact .inl ⟨path, rfl, rfl⟩
      | error text =>
          refine .inr ⟨pathUnresolved (filePath directory table) text, ?_, rfl⟩
          simp only [fileFault?, known]
          rfl

/-- Each table has its own file, or the first one whose file has a fault is told. -/
theorem runs_dataFiles {files : FileState} {directory : String} {tables : List Table}
    {events : List Event} {outcome : Except Fault (List (Table × String))}
    (run : (dataFiles directory tables).outcome.Runs events outcome)
    (agree : ∀ event ∈ events, event.Agrees files) :
    (∃ found, outcome = .ok found ∧ found.map Prod.fst = tables ∧
        ∀ file ∈ found, files (filePath directory file.1) = some (.ok file.2)) ∨
      ∃ before table after fault, tables = before ++ table :: after ∧
        (∀ earlier ∈ before, fileFault? files directory earlier = none) ∧
        fileFault? files directory table = some fault ∧ outcome = .error fault := by
  induction tables generalizing events outcome with
  | nil =>
      obtain ⟨-, rfl⟩ := Procedure.runs_pure_iff.mp run
      exact .inl ⟨[], rfl, rfl, by simp⟩
  | cons table tables induction =>
      rcases Procedure.runs_bind_iff.mp run with
        ⟨fault, firstRun, rfl⟩ | ⟨first, path, later, rfl, firstRun, laterRun⟩
      · rcases runs_dataFile firstRun agree with
          ⟨path, -, impossible⟩ | ⟨told, faulty, ended⟩
        · cases impossible
        · cases ended
          exact .inr ⟨[], table, tables, fault, rfl, by simp, faulty, rfl⟩
      · have agreeFirst := fun event member => agree event (List.mem_append_left _ member)
        have agreeLater := fun event member => agree event (List.mem_append_right _ member)
        rcases runs_dataFile firstRun agreeFirst with
          ⟨known, here, ended⟩ | ⟨told, -, impossible⟩
        · cases ended
          rcases Procedure.runs_bind_iff.mp laterRun with
            ⟨fault, restRun, rfl⟩ | ⟨rest, found, last, rfl, restRun, endRun⟩
          · rcases induction restRun agreeLater with
              ⟨found, impossible, -⟩ |
              ⟨before, faulty, after, told, rfl, fine, known, ended⟩
            · cases impossible
            · cases ended
              refine .inr ⟨table :: before, faulty, after, fault, rfl, ?_, known, rfl⟩
              intro earlier member
              rcases List.mem_cons.mp member with rfl | further
              · simp only [fileFault?, here]
              · exact fine earlier further
          · obtain ⟨rfl, rfl⟩ := Procedure.runs_pure_iff.mp endRun
            rcases induction restRun (fun event member => agreeLater event
                (List.mem_append_left _ member)) with
              ⟨others, ended, tables_eq, own⟩ | ⟨_, _, _, _, -, -, -, impossible⟩
            · cases ended
              refine .inl ⟨(table, path) :: found, rfl, by rw [List.map_cons, tables_eq], ?_⟩
              intro file member
              rcases List.mem_cons.mp member with rfl | further
              · exact here
              · exact own file further
            · cases impossible
        · cases impossible

theorem silent_dataFiles (directory : String) (tables : List Table) :
    (dataFiles directory tables).outcome.Silent := by
  refine (travels_dataFiles directory tables).staysOn.silent fun call onRoute => ?_
  obtain ⟨table, -, asked⟩ := List.mem_flatMap.mp onRoute
  cases call <;> simp [fileRoute, Call.effect] at asked

/-! ### Emptying and filling the tables -/

/-- A text in which some characters are written twice. -/
def doubling (characters : List Char) (text : String) : String :=
  String.ofList (text.toList.flatMap fun c => if c ∈ characters then [c, c] else [c])

theorem literal_eq_doubling (value : String) :
    literal value = doubling ['\\', '\x27'] value := by
  rw [literal, doubling]
  congr 2
  funext c
  by_cases backslash : c = '\\'
  · simp [literalChar, backslash]
  · by_cases quote : c = '\x27'
    · simp [literalChar, quote]
    · simp [literalChar, backslash, quote]

theorem terminatorLiteral_eq_doubling (value : String) :
    terminatorLiteral value = doubling ['\x27'] value := by
  rw [terminatorLiteral, doubling]
  congr 2
  funext c
  by_cases quote : c = '\x27'
  · simp [terminatorChar, quote]
  · simp [terminatorChar, quote]

/-- The statement that loads a table from a file. -/
def loadText (options : LoadOptions) (table : Table) (path : String) : String :=
  "LOAD DATA INFILE '" ++ doubling ['\\', '\x27'] path ++ "' INTO TABLE `" ++ table.name ++
    "` FIELDS TERMINATED BY '" ++ doubling ['\x27'] options.fieldEnd ++
    "' LINES TERMINATED BY '" ++ doubling ['\x27'] options.lineEnd ++
    "' IGNORE " ++ toString options.headerLines ++ " LINES"

theorem statement_eq_loadText (table : Table) (path : String) (options : LoadOptions) :
    statement table path options = loadText options table path := by
  have numeral : String.ofList (Numeral.decimal options.headerLines) =
      toString options.headerLines := rfl
  unfold statement loadText
  simp only [literal_eq_doubling, terminatorLiteral_eq_doubling, numeral]

def truncateStep (table : Table) : Step :=
  .binding (.execute (truncateStatement table)) fun fault =>
    ⟨.query, "truncate table " ++ table.name ++ ": " ++ fault.message⟩

def loadStep (options : LoadOptions) (file : Table × String) : Step :=
  .binding (.execute (loadText options file.1 file.2)) fun fault =>
    ⟨.query, "load table " ++ file.1.name ++ " from " ++ file.2 ++ ": " ++ fault.message⟩

theorem carriesOut_loadStep (options : LoadOptions) (table : Table) (path : String) :
    (Procedure.rewording (Session.execute (statement table path options))
      (loadFailed table path)).CarriesOut [loadStep options (table, path)] := by
  rw [loadStep, ← statement_eq_loadText]
  exact .rewording (Program.sends_execute _) _

/-- Emptying the tables if that is asked for, and filling them from their files. -/
def plan (options : LoadOptions) (files : List (Table × String)) : List Step :=
  (if options.truncate then options.tables.map truncateStep else []) ++
    files.map (loadStep options)

theorem carriesOut_truncateTables (tables : List Table) :
    (truncateTables tables).CarriesOut (tables.map truncateStep) := by
  induction tables with
  | nil => exact .pure ()
  | cons table tables induction =>
      exact (Procedure.CarriesOut.rewording (Program.sends_execute _) _).bind
        fun _ => induction

theorem carriesOut_loadFiles (options : LoadOptions) (files : List (Table × String)) :
    (loadFiles options files).CarriesOut (files.map (loadStep options)) := by
  have clock : Program.now.Silent := Batch.asks_now.silent
  induction files with
  | nil => exact .pure ()
  | cons file files induction =>
      obtain ⟨table, path⟩ := file
      refine (Procedure.CarriesOut.lift clock).bind fun start => ?_
      refine (carriesOut_loadStep options table path).bind fun rows => ?_
      refine (Procedure.CarriesOut.lift clock).bind fun stop => ?_
      exact (Procedure.CarriesOut.lift (Program.silent_tell _ _ _)).bind fun _ => induction

theorem binding_plan (options : LoadOptions) (files : List (Table × String)) :
    ∀ step ∈ plan options files, step.isBinding = true := by
  intro step member
  rcases List.mem_append.mp member with truncating | loading
  · split at truncating
    · obtain ⟨table, -, rfl⟩ := List.mem_map.mp truncating
      rfl
    · cases truncating
  · obtain ⟨file, -, rfl⟩ := List.mem_map.mp loading
    rfl

/-- What is done behind the look for the files. -/
theorem carriesOut_fill (options : LoadOptions) (files : List (Table × String)) :
    Procedure.CarriesOut
      (do
        if options.truncate then
          truncateTables options.tables
        loadFiles options files)
      (plan options files) := by
  have fills := carriesOut_loadFiles options files
  by_cases truncate : options.truncate = true
  · simp only [plan, truncate, if_true]
    exact (carriesOut_truncateTables options.tables).bind fun _ => fills
  · simpa [plan, truncate] using fills

/-- A first table whose file has a fault ends the loading, or all files are there
and the statements of the plan follow. -/
theorem runs_run {files : FileState} {options : LoadOptions} {events : List Event}
    {outcome : Except Fault Unit} (running : (run options).outcome.Runs events outcome)
    (agree : ∀ event ∈ events, event.Agrees files) :
    (∃ before table after fault, options.tables = before ++ table :: after ∧
        (∀ earlier ∈ before, fileFault? files options.directory earlier = none) ∧
        fileFault? files options.directory table = some fault ∧
        exchanges events = [] ∧ outcome = .error fault) ∨
      ∃ found, found.map Prod.fst = options.tables ∧
        (∀ file ∈ found, files (filePath options.directory file.1) = some (.ok file.2)) ∧
        Follows (plan options found) (exchanges events) outcome := by
  have silent := silent_dataFiles options.directory options.tables
  rcases Procedure.runs_bind_iff.mp running with
    ⟨fault, firstRun, rfl⟩ | ⟨first, found, later, rfl, firstRun, laterRun⟩
  · rcases runs_dataFiles firstRun agree with
      ⟨found, impossible, -⟩ | ⟨before, table, after, told, tables_eq, fine, faulty, ended⟩
    · cases impossible
    · cases ended
      exact .inl ⟨before, table, after, fault, tables_eq, fine, faulty,
        silent events _ firstRun, rfl⟩
  · have agreeFirst := fun event member => agree event (List.mem_append_left _ member)
    rcases runs_dataFiles firstRun agreeFirst with
      ⟨others, ended, tables_eq, own⟩ | ⟨_, _, _, _, -, -, -, impossible⟩
    · cases ended
      have follows := carriesOut_fill options found later outcome laterRun
      have same : outcome.map (fun _ => ()) = outcome := by cases outcome <;> rfl
      rw [same] at follows
      exact .inr ⟨found, tables_eq, own, by simpa [silent first _ firstRun] using follows⟩
    · cases impossible

/-- The first table of the list whose file is no regular file, or cannot be told
by its absolute path, ends the loading before any statement.  Otherwise each
table is paired with its own file, all tables are emptied if that is asked for,
and then all are filled, up to the first statement that fails, whose fault is
told with the name of its table. -/
theorem files_found_before_statements {σ : Type} (environment : Environment σ) (state : σ)
    (files : FileState) (shows : environment.Shows files) (options : LoadOptions) :
    let played := (run options).outcome.play environment state
    let sent := exchanges played.events
    (∃ before table after fault, options.tables = before ++ table :: after ∧
        (∀ earlier ∈ before, fileFault? files options.directory earlier = none) ∧
        fileFault? files options.directory table = some fault ∧
        sent = [] ∧ played.value = .error fault) ∨
      ∃ found, found.map Prod.fst = options.tables ∧
        (∀ file ∈ found, files (filePath options.directory file.1) = some (.ok file.2)) ∧
        Follows (plan options found) sent played.value ∧
        (played.value = .ok () ↔ ∀ exchange ∈ sent, exchange.succeeded = true) := by
  intro played sent
  have running := Program.runs_play environment (run options).outcome state
  rcases runs_run running (shows.agrees_of_mem_play _ state) with
    stopped | ⟨found, tables_eq, own, follows⟩
  · exact .inl stopped
  · exact .inr ⟨found, tables_eq, own, follows,
      Batch.outcome_of_binding follows (binding_plan options found)⟩

/-- Every file that is asked for is regular, and still nothing is loaded: the absolute
path of one cannot be told. -/
theorem regular_file_not_loaded :
    let files : FileState := fun path =>
      if path = "/data/nation.csv" then some (.error "File name too long (os error 36)")
      else none
    let options : LoadOptions := ⟨"/data", [.nation], true, "\\t", "\\n", 1⟩
    let played := (run options).outcome.play (Environment.showing files) ()
    (Environment.showing files).Shows files ∧
      (∀ table ∈ options.tables, (files (filePath "/data" table)).isSome = true) ∧
      exchanges played.events = [] ∧
      played.value =
        .error ⟨.files, "resolve /data/nation.csv: File name too long (os error 36)"⟩ := by
  intro files options played
  exact ⟨Environment.shows_showing files, by decide, by decide, by decide⟩

/-- Nothing is emptied if the second of two files is missing. -/
theorem missing_region_empties_nothing :
    let files : FileState := fun path =>
      if path = "/data/nation.csv" then some (.ok "/srv/nation.csv") else none
    let options : LoadOptions := ⟨"/data", [.nation, .region], true, "\\t", "\\n", 1⟩
    let played := (run options).outcome.play (Environment.showing files) ()
    (Environment.showing files).Shows files ∧ exchanges played.events = [] ∧
      played.value =
        .error ⟨.files, "data file for region not found: /data/region.csv"⟩ := by
  intro files options played
  have shows := Environment.shows_showing files
  have nation : files (filePath "/data" .nation) = some (.ok "/srv/nation.csv") := rfl
  have region : files (filePath "/data" .region) = none := rfl
  rcases files_found_before_statements _ () files shows options with
    ⟨before, table, after, fault, tables_eq, -, faulty, silent, ended⟩ |
    ⟨found, tables_eq, own, -⟩
  · refine ⟨shows, silent, ?_⟩
    have asked : table ∈ [Table.nation, .region] := by
      change table ∈ options.tables
      rw [tables_eq]
      simp
    rcases List.mem_pair.mp asked with rfl | rfl
    · simp [fileFault?, options, nation] at faulty
    · simp only [fileFault?, options, region] at faulty
      cases faulty
      exact ended
  · have asked : Table.region ∈ found.map Prod.fst := by
      rw [tables_eq]
      exact List.mem_cons_of_mem _ List.mem_cons_self
    obtain ⟨file, member, table_eq⟩ := List.mem_map.mp asked
    have there := own file member
    rw [table_eq] at there
    exact absurd (region.symm.trans there) (by simp)

end Load

end DecisionBench
