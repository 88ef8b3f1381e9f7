import DecisionBench.Catalog
import DecisionBench.Decimal.Layout
import DecisionBench.Memory

/-!
# Results and the report

The result of a query is its row count or the message of the statement that failed, with the time it
took and, if a process was watched, the memory figures.  The report is the list of results as a JSON
text, one object for each, with its keys in a fixed order.
-/

namespace DecisionBench

/-- How a query ended. -/
inductive Ended where
  | rows (count : Nat)
  | failure (message : String)
  deriving DecidableEq, Repr

structure QueryResult where
  id : Nat
  title : String
  seconds : Binary64
  ended : Ended
  memory : Option Memory.Figures
  deriving DecidableEq, Repr

namespace QueryResult

/-- Whether no statement of the query failed. -/
def isOk (result : QueryResult) : Bool :=
  match result.ended with
  | .rows _ => true
  | .failure _ => false

/-- The row count of a query that did not fail. -/
def rows? (result : QueryResult) : Option Nat :=
  match result.ended with
  | .rows count => some count
  | .failure _ => none

/-- The message of a query that failed. -/
def failure? (result : QueryResult) : Option String :=
  match result.ended with
  | .rows _ => none
  | .failure message => some message

end QueryResult

namespace Report

inductive Value where
  | text (content : String)
  | natural (number : Nat)
  | flag (value : Bool)
  | number (value : Binary64)
  deriving DecidableEq, Repr

/-- The entries for memory figures. -/
def memoryEntries (figures : Memory.Figures) : List (String × Value) :=
  [("monitor_pid", .natural figures.pid),
   ("monitor_rss_start_kb", .natural figures.first),
   ("monitor_rss_end_kb", .natural figures.last),
   ("monitor_rss_peak_kb", .natural figures.peak),
   ("monitor_samples", .natural figures.samples)] ++
  match figures.fault with
  | some fault => [("monitor_error", .text fault)]
  | none => []

/-- The entries for a result, in the order of the report. -/
def entries (result : QueryResult) : List (String × Value) :=
  [("query_id", .natural result.id),
   ("title", .text result.title),
   ("ok", .flag result.isOk),
   ("seconds", .number result.seconds)] ++
  [match result.ended with
   | .rows count => ("rows", .natural count)
   | .failure message => ("error", .text message)] ++
  match result.memory with
  | some figures => memoryEntries figures
  | none => []

/-- The two lowest digits of a number to the base 16. -/
def twoHexDigits (n : Nat) : List Char :=
  [Nat.digitChar (n / 16 % 16), Nat.digitChar (n % 16)]

/-- One character of a JSON string. -/
def escapedChar (c : Char) : List Char :=
  if c = '\x22' then ['\\', '\x22']
  else if c = '\\' then ['\\', '\\']
  else if c = '\x08' then ['\\', 'b']
  else if c = '\x0c' then ['\\', 'f']
  else if c = '\n' then ['\\', 'n']
  else if c = '\r' then ['\\', 'r']
  else if c = '\t' then ['\\', 't']
  else if c.toNat < 0x20 then ['\\', 'u', '0', '0'] ++ twoHexDigits c.toNat
  else [c]

def jsonString (text : String) : List Char :=
  '\x22' :: text.toList.flatMap escapedChar ++ ['\x22']

/-- A JSON value.  A number that is not finite has no JSON form and is written as null. -/
def jsonValue : Value → List Char
  | .text content => jsonString content
  | .natural number => Numeral.decimal number
  | .flag true => "true".toList
  | .flag false => "false".toList
  | .number value =>
    match value.scientific? with
    | some written => written.toList
    | none => "null".toList

def jsonEntry (entry : String × Value) : List Char :=
  "\n    ".toList ++ jsonString entry.1 ++ ": ".toList ++ jsonValue entry.2

/-- An object, indented by two blanks. -/
def jsonObject (result : QueryResult) : List Char :=
  "\n  \x7b".toList ++ List.intercalate [','] ((entries result).map jsonEntry) ++
    "\n  \x7d".toList

/-- A report without the line feed at its end. -/
def body (results : List QueryResult) : List Char :=
  if results.isEmpty then "[]".toList
  else '[' :: List.intercalate [','] (results.map jsonObject) ++ "\n]".toList

def characters (results : List QueryResult) : List Char :=
  body results ++ ['\n']

/-- The report as a text: JSON, indented, with a line feed at the end. -/
def render (results : List QueryResult) : String :=
  String.ofList (characters results)

/-- The report could not be written to a file. -/
def unwritten (path text : String) : Fault :=
  ⟨.files, "Failed to write " ++ path ++ ": " ++ text⟩

/-- The report could not be printed. -/
def unprinted (text : String) : Fault :=
  ⟨.files, "Failed to write report to stdout: " ++ text⟩

/-- Writes the report to a file, or prints it if there is no path. -/
def write (results : List QueryResult) : Option String → Procedure Unit
  | some path =>
    Procedure.orFault (Files.write path (render results)) (unwritten path)
  | none => Procedure.orFault (Program.request (.print (render results))) unprinted

end Report

end DecisionBench
