import DecisionBench.Schema
import DecisionBench.Decimal.Layout

/-!
# Loading the tables

The server loads each table from its data file.  The path and the terminators reach it inside
quoted literals of one statement.  Every data file is looked for before anything is emptied or
loaded.
-/

namespace DecisionBench

/-- What is loaded, from where, and how the files are written. -/
structure LoadOptions where
  directory : String
  tables : List Table
  truncate : Bool
  /-- What ends a field, in the escapes of the server. -/
  fieldEnd : String
  /-- What ends a line, in the escapes of the server. -/
  lineEnd : String
  headerLines : Nat
  deriving DecidableEq, Repr

namespace Load

/-- The field terminator where none is asked for. -/
def standardFieldEnd : String := "\\t"

/-- The line terminator where none is asked for. -/
def standardLineEnd : String := "\\n"

/-- One character of a quoted literal: backslashes and quotes are written twice. -/
def literalChar (c : Char) : List Char :=
  if c = '\\' then ['\\', '\\']
  else if c = '\x27' then ['\x27', '\x27']
  else [c]

/-- A value between single quotes, as the server's literals write it. -/
def literal (value : String) : String :=
  String.ofList (value.toList.flatMap literalChar)

/-- One character of a terminator: quotes are written twice. -/
def terminatorChar (c : Char) : List Char :=
  if c = '\x27' then ['\x27', '\x27'] else [c]

/-- A terminator between single quotes.  Its backslashes stay: the server reads its escapes. -/
def terminatorLiteral (value : String) : String :=
  String.ofList (value.toList.flatMap terminatorChar)

/-- The terminator that stands for one octet, in the escapes of the server. -/
def terminator (octet : Nat) : String :=
  if octet = 0x09 then "\\t"
  else if octet = 0x5C then "\\\\"
  else String.ofList [Char.ofNat octet]

def statement (table : Table) (path : String) (options : LoadOptions) : String :=
  "LOAD DATA INFILE '" ++ literal path ++ "' INTO TABLE `" ++ table.name ++
    "` FIELDS TERMINATED BY '" ++ terminatorLiteral options.fieldEnd ++
    "' LINES TERMINATED BY '" ++ terminatorLiteral options.lineEnd ++
    "' IGNORE " ++ String.ofList (Numeral.decimal options.headerLines) ++ " LINES"

def inDirectory (directory file : String) : String :=
  if directory.isEmpty ∨ directory.toList.getLast? = some '/' then directory ++ file
  else directory ++ "/" ++ file

def fileMissing (table : Table) (path : String) : Fault :=
  ⟨.files, "data file for " ++ table.name ++ " not found: " ++ path⟩

/-- The absolute path of a data file could not be found. -/
def pathUnresolved (path text : String) : Fault :=
  ⟨.files, "resolve " ++ path ++ ": " ++ text⟩

def truncateFailed (table : Table) (message : String) : Fault :=
  ⟨.query, "truncate table " ++ table.name ++ ": " ++ message⟩

def loadFailed (table : Table) (path message : String) : Fault :=
  ⟨.query, "load table " ++ table.name ++ " from " ++ path ++ ": " ++ message⟩

/-- The data file of a table as the server will find it. -/
def dataFile (directory : String) (table : Table) : Procedure String := do
  let path := inDirectory directory table.fileName
  if ← Files.isFile path then
    Procedure.orFault (Files.resolve path) (pathUnresolved path)
  else
    throw (fileMissing table path)

/-- The data files of some tables, unless one is missing. -/
def dataFiles (directory : String) : List Table → Procedure (List (Table × String))
  | [] => pure []
  | table :: rest => do
    let path ← dataFile directory table
    return (table, path) :: (← dataFiles directory rest)

/-- Empties tables, up to the first that fails. -/
def truncateTables : List Table → Procedure Unit
  | [] => pure ()
  | table :: rest => do
    let _ ← Procedure.rewording (Session.execute ("TRUNCATE TABLE `" ++ table.name ++ "`"))
      (truncateFailed table)
    truncateTables rest

/-- Loads tables from their files, up to the first that fails. -/
def loadFiles (options : LoadOptions) : List (Table × String) → Procedure Unit
  | [] => pure ()
  | (table, path) :: rest => do
    let start ← Program.now
    let rows ← Procedure.rewording (Session.execute (statement table path options))
      (loadFailed table path)
    let stop ← Program.now
    Journal.tell .information .load
      ("Loaded " ++ table.name ++ ": " ++ toString rows ++ " rows in " ++
        (Binary64.ofThousandths (stop - start)).fixed 2 ++ "s")
    loadFiles options rest

/-- Loads every requested table: first all data files are found, then the tables are emptied if that
is asked for, then they are loaded. -/
def run (options : LoadOptions) : Procedure Unit := do
  let files ← dataFiles options.directory options.tables
  if options.truncate then
    truncateTables options.tables
  loadFiles options files

end Load

end DecisionBench
