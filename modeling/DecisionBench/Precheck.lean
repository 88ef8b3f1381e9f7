import DecisionBench.Catalog
import DecisionBench.Schema

/-!
# The precheck

Before a long run every query is tried once against empty tables.  The tables of the benchmark are
shadowed by temporary ones of the same names, which the session sees first; each query then runs
without data, and the shadows are dropped again.

The parts are `install`, `dropAll` and `tryQueries`; `run` puts them together.  A server that does
not know temporary tables makes the precheck impossible, which is no fault.
-/

namespace DecisionBench.Precheck

/-- What came of a precheck. -/
inductive Verdict where
  /-- Every query that can be tried ran against the shadows. -/
  | passed
  /-- The server does not accept temporary tables, and nothing was tried. -/
  | unsupported
  deriving DecidableEq, Repr

def Verdict.word : Verdict → String
  | .passed => "Passed"
  | .unsupported => "Unsupported"

/-- A definition of a table as the definition of a temporary table of the same name.  The blanks in
front stay, and any other statement stays as it is. -/
def temporaryText (text : List Char) : List Char :=
  match Text.afterFolded "create table".toList (Text.trimStart text) with
  | some rest => Text.indent text ++ "CREATE TEMPORARY TABLE".toList ++ rest
  | none => text

def temporaryDefinition (statement : String) : String :=
  String.ofList (temporaryText statement.toList)

/-- Whether a statement opens with the two words that define a view. -/
def opensViewText (text : List Char) : Bool :=
  match Text.words text with
  | first :: second :: _ =>
    Text.equalFolded first "create".toList && Text.equalFolded second "view".toList
  | _ => false

def opensView (statement : String) : Bool :=
  opensViewText statement.toList

/-- Whether a query defines a view.  A view cannot read a temporary table, so that such a query
cannot run against the shadows. -/
def definesView (query : Query) : Bool :=
  query.statements.any opensView

/-- Whether a fault says that the server does not know temporary tables: its text has the number of
a syntax error and the word, in either case. -/
def isUnsupported (fault : Fault) : Bool :=
  Text.contains fault.message "1064" &&
    Text.occurs "TEMPORARY".toList (fault.message.toList.map Char.toUpper)

def dropStatement (table : Table) : String :=
  "DROP TEMPORARY TABLE IF EXISTS `" ++ table.name ++ "`"

def dropFailed (table : Table) (message : String) : Fault :=
  ⟨.query, "precheck: drop temporary table `" ++ table.name ++ "`: " ++ message⟩

def installFailed (message : String) : Fault :=
  ⟨.query, "precheck: install temporary schema: " ++ message⟩

def queryFailed (query : Query) (index : Nat) (message : String) : Fault :=
  ⟨.query, "precheck failed (Q" ++ toString query.id ++ " - " ++ query.title ++ ") stmt#" ++
    toString index ++ ": " ++ message⟩

def dropTables : List Table → Procedure Unit
  | [] => pure ()
  | table :: rest => do
    let _ ← Procedure.rewording (Session.execute (dropStatement table)) (dropFailed table)
    dropTables rest

/-- Drops every shadow, so that later statements see the real tables again. -/
def dropAll : Procedure Unit :=
  dropTables Table.all

/-- Sends definitions of temporary tables, up to the first that fails. -/
def defineAll : List String → Procedure Unit
  | [] => pure ()
  | definition :: rest => do
    let _ ← Procedure.rewording (Session.execute definition) installFailed
    defineAll rest

def definitions : List String :=
  (Script.statements Schema.script).map temporaryDefinition

def install : Procedure Unit := do
  dropAll
  defineAll definitions

/-- Sends a statement in the way that fits it: one that reads for its rows, any other for its
effect. -/
def send (statement : String) : Program (Except Fault Nat) :=
  if Statement.isReadOnly statement then Session.countRows statement
  else Session.execute statement

/-- Tries the statements of a query from one position on, up to the first that fails. -/
def tryStatements (query : Query) (timeout : Timeout) : Nat → List String → Procedure Unit
  | _, [] => pure ()
  | index, statement :: rest => do
    let _ ← (Session.limit timeout : Program Bool)
    let _ ← Procedure.rewording (send (Statement.hinted timeout statement))
      (queryFailed query index)
    tryStatements query timeout (index + 1) rest

/-- Tries queries in their order, up to the first that fails; those that define a view are passed
over. -/
def tryQueries (timeout : Timeout) : List Query → Procedure Unit
  | [] => pure ()
  | query :: rest => do
    if definesView query then
      Journal.tell .information .precheck
        ("Precheck: Q" ++ toString query.id ++ " defines a view, skipped")
    else
      tryStatements query timeout 0 query.statements
    tryQueries timeout rest

/-- Tries queries and drops the shadows afterwards, whether or not a query failed.  The fault of a
query goes before a fault of dropping. -/
def tryAndDrop (timeout : Timeout) (queries : List Query) : Procedure Verdict :=
  ExceptT.mk do
    match ← (tryQueries timeout queries).outcome with
    | .error fault =>
      match ← dropAll.outcome with
      | .ok _ => pure ()
      | .error dropping =>
        Journal.tell .warning .precheck
          ("Failed to drop precheck tables: " ++ dropping.display)
      pure (.error fault)
    | .ok _ =>
      match ← dropAll.outcome with
      | .error dropping => pure (.error dropping)
      | .ok _ =>
        Journal.tell .information .precheck
          ("Precheck passed for " ++ toString queries.length ++ " queries")
        pure (.ok .passed)

/-- The precheck of a selection of queries. -/
def run (catalog : Catalog) (ids : List Nat) (timeout : Timeout) : Procedure Verdict := do
  let queries ← Procedure.ofOutcome (catalog.resolve ids)
  ExceptT.mk do
    match ← install.outcome with
    | .ok _ => (tryAndDrop timeout queries).outcome
    | .error fault =>
      if isUnsupported fault then
        Journal.tell .warning .precheck
          ("Precheck disabled: server does not support TEMPORARY TABLE (" ++ fault.display ++ ")")
        pure (.ok .unsupported)
      else pure (.error fault)

end DecisionBench.Precheck
