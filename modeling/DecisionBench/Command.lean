import DecisionBench.Batch
import DecisionBench.Generator
import DecisionBench.Load

/-!
# The commands

Each command does its work on an open session and then closes it, whether or not the work went
well.  The phases of a command follow each other, and a phase that fails ends the work.
-/

namespace DecisionBench

/-- How queries are run and where the report goes. -/
structure RunOptions where
  ids : List Nat
  timeout : Timeout
  precheck : Bool
  watched : Option Nat
  /-- The file of the report; without one it is printed. -/
  output : Option String
  deriving DecidableEq, Repr

namespace Command

/-- The precheck, if it is asked for, and then the timed batch. -/
def runQueries (catalog : Catalog) (options : RunOptions) : Procedure (List QueryResult) := do
  if options.precheck then
    let _ ← Precheck.run catalog options.ids options.timeout
  Batch.run catalog ⟨options.timeout, options.watched⟩ options.ids

/-- Creates the tables, generates the data files and loads them. -/
def setup (request : GeneratorRequest) (load : LoadOptions) : Procedure Unit := do
  Journal.tell .information .setup "schema: creating tables"
  Schema.create
  Journal.tell .information .setup ("gen: running " ++ request.command)
  Generator.run request
  Journal.tell .information .setup
    ("load: loading " ++ toString load.tables.length ++ " tables")
  Load.run load

/-- Does the work of a command on the open session and closes it. -/
def onSession {α : Type} (work : Procedure α) : Procedure α :=
  ExceptT.mk do
    let outcome ← work.outcome
    Lease.held.finish outcome

/-- Writes the report, and says so. -/
def finishReport (results : List QueryResult) (output : Option String) : Procedure Unit := do
  let succeeded := (results.filter QueryResult.isOk).length
  let total := results.foldl (fun sum result => sum.add result.seconds) Binary64.minusZero
  Journal.tell .information .report
    (toString succeeded ++ " of " ++ toString results.length ++ " queries succeeded, " ++
      total.fixed 3 ++ "s total")
  Report.write results output
  match output with
  | some path => Journal.tell .information .report ("Report written to " ++ path)
  | none => pure ()

/-- Creates the tables. -/
def schema : Procedure Unit :=
  onSession Schema.create

/-- Loads the data files. -/
def load (options : LoadOptions) : Procedure Unit :=
  onSession (Load.run options)

/-- Creates the tables, generates the data and loads it. -/
def all (request : GeneratorRequest) (options : LoadOptions) : Procedure Unit :=
  onSession (setup request options)

/-- Runs queries and writes the report.  Queries that fail are no fault; the report has them. -/
def run (catalog : Catalog) (options : RunOptions) : Procedure Unit := do
  let results ← onSession (runQueries catalog options)
  finishReport results options.output

/-- What a benchmark does on its open session. -/
def benchWork (catalog : Catalog) (request : GeneratorRequest) (load : LoadOptions)
    (options : RunOptions) : Procedure (List QueryResult) := do
  setup request load
  Journal.tell .information .report
    ("run: " ++ toString options.ids.length ++ " queries")
  runQueries catalog options

/-- Creates and loads the tables, runs queries and writes the report. -/
def bench (catalog : Catalog) (request : GeneratorRequest) (load : LoadOptions)
    (options : RunOptions) : Procedure Unit := do
  let results ← onSession (benchWork catalog request load options)
  finishReport results options.output

end Command

end DecisionBench
