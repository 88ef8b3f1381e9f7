import DecisionBench.Precheck
import DecisionBench.Report

/-!
# Timed batches

A batch runs a selection of queries in its order, each occurrence on its own.  The statements of a
query are sent one after the other up to the first that fails, and the rows of those that read are
added up; a query that fails does not keep the later ones from running.
-/

namespace DecisionBench.Batch

/-- Sends the statements of a query, up to the first that fails, and adds the rows of those that
read to a count. -/
def countFrom (timeout : Timeout) : Nat → List String → Procedure Nat
  | total, [] => pure total
  | total, statement :: rest => do
    let sent := Statement.hinted timeout statement
    if Statement.isReadOnly sent then
      let count ← Procedure.ofProgram (Session.countRows sent)
      countFrom timeout (total + count) rest
    else
      let _ ← Procedure.ofProgram (Session.execute sent)
      countFrom timeout total rest

def statements (timeout : Timeout) (query : Query) : Procedure Nat :=
  countFrom timeout 0 query.statements

/-- How a batch is run. -/
structure Options where
  timeout : Timeout
  /-- The process whose memory is watched. -/
  watched : Option Nat
  deriving DecidableEq, Repr

/-- Begins to watch a process, if one is to be watched. -/
def startWatch (id : Nat) : Option Nat → Program (Option Memory.Watch)
  | none => pure none
  | some pid => do
    let watch ← Memory.Watch.start pid
    match watch with
    | .running _ => pure ()
    | .impossible figures =>
      Journal.tell .warning .batch
        ("Q" ++ toString id ++ ": memory monitor unavailable: " ++
          (Fault.mk .files (figures.fault.getD "")).display)
    pure (some watch)

/-- Ends the watch. -/
def stopWatch (start stop : Nat) : Option Memory.Watch → Program (Option Memory.Figures)
  | none => pure none
  | some watch => do
    return some (← watch.stop start stop)

/-- Runs one query: the time limit, the watch, the statements.  The statements alone are timed. -/
def runQuery (options : Options) (query : Query) : Program QueryResult := do
  let _ ← Session.limit options.timeout
  let watch ← startWatch query.id options.watched
  let start ← Program.now
  let outcome ← (statements options.timeout query).outcome
  let stop ← Program.now
  let memory ← stopWatch start stop watch
  let ended := match outcome with
    | .ok rows => .rows rows
    | .error fault => .failure fault.message
  return ⟨query.id, query.title, .ofThousandths (stop - start), ended, memory⟩

/-- What the journal says of a result. -/
def tellResult (result : QueryResult) : Program Unit :=
  match result.ended with
  | .rows count =>
    Journal.tell .information .batch
      ("Q" ++ toString result.id ++ " ok in " ++ result.seconds.fixed 3 ++ "s (" ++
        toString count ++ " rows)")
  | .failure message =>
    Journal.tell .warning .batch
      ("Q" ++ toString result.id ++ " failed after " ++ result.seconds.fixed 3 ++ "s: " ++ message)

/-- Runs queries in their order. -/
def runQueries (options : Options) : List Query → Program (List QueryResult)
  | [] => pure []
  | query :: rest => do
    let result ← runQuery options query
    tellResult result
    return result :: (← runQueries options rest)

/-- Runs a selection of queries.  An unknown id fails the batch before anything is sent; after that
there is one result for every id, in the order of the selection. -/
def run (catalog : Catalog) (options : Options) (ids : List Nat) :
    Procedure (List QueryResult) := do
  let queries ← Procedure.ofOutcome (catalog.resolve ids)
  Journal.tell .information .batch
    ("Running " ++ toString queries.length ++ " queries (timeout: " ++
      options.timeout.display ++ ")")
  (runQueries options queries : Program (List QueryResult))

end DecisionBench.Batch
