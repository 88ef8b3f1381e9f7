import DecisionBench.CommandLine.Scan
import DecisionBench.Job

/-!
# The command line

A command line names a job, with its parameters, and perhaps the configuration file.  Parameters
stand in front of the subcommand or behind it; the part behind it is understood first, in full, so
that of two mistakes the one there is reported.
-/

namespace DecisionBench

/-- A command line that was understood. -/
structure CommandLine where
  /-- The configuration file, if it is not the standard one. -/
  config : Option String
  job : Job
  deriving DecidableEq, Repr

namespace CommandLine

/-- The name and version that are shown on request. -/
def versionText : String := "tpch-mysql 0.1.0\n"

/-- What is shown when the command line is not understood, or on request. -/
def helpText : String :=
  "Usage: tpch-mysql [--config <PATH>] <schema|gen|load|run|all|bench> [PARAMETERS]\n"

/-- The file of the report of a benchmark where none is given. -/
def standardReport : String := "tpch_timings.json"

/-- The variable that gives the connection URL where the command line does not. -/
def urlVariable : String := "DATABASE_URL"

/-- Takes the connection URL from the environment if the subcommand has one and it is not given. -/
def withUrl (verb : Verb) (url : Option String) (given : Given) : Given :=
  match url with
  | some url =>
    if verb.parameters.any (·.name == "url") && !given.has "url" then
      given.keep "url" [.text url]
    else given
  | none => given

/-- Checks which parameters are given together: those that exclude each other first, then those that
are required. -/
def check (verb : Verb) (given : Given) : Except Stop Unit :=
  let all := given.has Parameter.allQueries.name
  let query := given.has Parameter.query.name
  if all && query then .error .conflict
  else if verb = .run ∧ !all ∧ !query then .error .missingArgument
  else if verb.required.all fun parameter => given.has parameter.name then .ok ()
  else .error .missingArgument

/-- The parameters behind a subcommand. -/
def behind (verb : Verb) (url : Option String) (arguments : List String) : Except Stop Given := do
  let (scan, _) ← Scan.start.run (.behind verb) arguments
  let scan ← scan.settle
  let given := withUrl verb url scan.given
  check verb given
  return given

/-- The answer to the word for help: the words behind it must lead to a subcommand. -/
def helpOn : List String → Stop
  | [] => .help
  | [word] => if (Keyword.ofWord? word).isSome then .help else .unknownSubcommand
  | _ => .unknownSubcommand

def connectionOf (given : Given) : ConnectionFlags where
  url := given.text? "url"
  connection := given.text? "connection"
  settings :=
    { host := given.text? "host"
      port := given.natural? "port"
      user := given.text? "user"
      password := given.text? "password"
      database := given.text? "database" }

/-- The directory of the data files; `check` has seen that it is given. -/
def directoryOf (given : Given) : String :=
  (given.text? Parameter.dataDirectory.name).getD ""

/-- How the data is to be generated; `check` has seen that the scale is given. -/
def generationOf (given : Given) : GenerationArguments where
  directory := directoryOf given
  scaleFactor := (given.real? Parameter.scaleFactor.name).getD .nan
  threads := given.natural? "threads"
  delimiter := (given.text? "delimiter").getD Delimiter.standard
  generator := given.text? "generator"

/-- The tables that were given, or all of them. -/
def tablesOf (given : Given) : List Table :=
  if given.has Parameter.tables.name then given.tables Parameter.tables.name else Table.all

/-- The number of header lines that was given, or one. -/
def headerLinesOf (given : Given) : Nat :=
  (given.natural? Parameter.headerLines.name).getD 1

def loadOf (given : Given) : LoadOptions where
  directory := directoryOf given
  tables := tablesOf given
  truncate := given.has Parameter.truncate.name
  fieldEnd := (given.text? "field-terminated-by").getD Load.standardFieldEnd
  lineEnd := (given.text? "line-terminated-by").getD Load.standardLineEnd
  headerLines := headerLinesOf given

/-- How queries are to be run, with the file of the report. -/
def runOf (given : Given) (output : Option String) : RunArguments where
  seconds := (given.integer? "timeout-seconds").getD 0
  precheck := given.has "precheck"
  watched := given.natural? "monitor-pid"
  output

def selectionOf (given : Given) : Selection :=
  if given.has Parameter.allQueries.name then .all
  else .listed (given.texts Parameter.query.name)

def jobOf (verb : Verb) (given : Given) : Job :=
  match verb with
  | .schema => .schema (connectionOf given)
  | .gen => .gen (generationOf given)
  | .load => .load (connectionOf given) (loadOf given)
  | .run => .run (connectionOf given) (selectionOf given) (runOf given (given.text? "output"))
  | .all =>
    .all (connectionOf given) (generationOf given)
      ⟨tablesOf given, headerLinesOf given, given.has Parameter.truncate.name⟩
  | .bench =>
    .bench (connectionOf given) (generationOf given)
      ⟨Table.all, headerLinesOf given, (given.truth? "truncate").getD true⟩
      (runOf given (some ((given.text? "output").getD standardReport)))

/-- The configuration file: the one behind the subcommand goes before the one in front. -/
def configOf (front behind : Given) : Option String :=
  behind.text? Parameter.config.name <|> front.text? Parameter.config.name

/-- Understands a command line, without the name of the program.  The connection URL of the
environment stands in for one that is not given. -/
def read (url : Option String) (arguments : List String) : Except Stop CommandLine := do
  let (scan, reached) ← Scan.start.run .front arguments
  match reached with
  | none =>
    let scan ← scan.settle
    throw (if scan.given.entries.isEmpty then .helpInstead else .missingSubcommand)
  | some (.help, words) => throw (helpOn words)
  | some (.verb verb, rest) =>
    let given ← behind verb url rest
    let scan ← scan.settle
    return ⟨configOf scan.given given, jobOf verb given⟩

end CommandLine

end DecisionBench
