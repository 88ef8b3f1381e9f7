import DecisionBench.CommandLine.Value

/-!
# Parameters and vocabularies

A parameter has a long name and perhaps a letter.  The parameters that may be given at one place of
the command line, and the subcommands that may follow there, are its `Vocabulary`: there is one for
the front of the command line and one for each subcommand.
-/

namespace DecisionBench.CommandLine

/-- What giving a parameter means. -/
inductive Manner where
  /-- It has one value, and is given once. -/
  | single (form : Form)
  /-- It has values, with commas between them, and may be given again. -/
  | several (form : Form)
  /-- It has no value, and is given once. -/
  | switch
  /-- It asks for the help. -/
  | help
  /-- It asks for the version. -/
  | version
  deriving DecidableEq, Repr

structure Parameter where
  /-- The name behind two hyphens. -/
  name : String
  /-- The letter behind one hyphen. -/
  letter : Option Char
  manner : Manner
  /-- Whether a hyphen in front of a number may open its value. -/
  allowsNegative : Bool
  deriving DecidableEq, Repr

namespace Parameter

def takesValue (parameter : Parameter) : Bool :=
  match parameter.manner with
  | .single _ => true
  | .several _ => true
  | _ => false

/-- A parameter with one value. -/
def single (name : String) (form : Form) : Parameter :=
  ⟨name, none, .single form, false⟩

/-- A parameter without a value. -/
def switch (name : String) : Parameter :=
  ⟨name, none, .switch, false⟩

/-- A parameter that may also be given by a letter. -/
def withLetter (parameter : Parameter) (letter : Char) : Parameter :=
  { parameter with letter := some letter }

/-- A parameter whose value may be a negative number. -/
def negative (parameter : Parameter) : Parameter :=
  { parameter with allowsNegative := true }

def config : Parameter := single "config" .path

def help : Parameter := ⟨"help", some 'h', .help, false⟩

def version : Parameter := ⟨"version", some 'V', .version, false⟩

/-- The parameters that choose the connection. -/
def ofConnection : List Parameter :=
  [single "url" .text,
   (single "connection" .text).withLetter 'c',
   (single "host" .text).withLetter 'H',
   (single "port" (.upTo 65535)).withLetter 'P',
   (single "user" .text).withLetter 'u',
   (single "password" .text).withLetter 'p',
   (single "database" .text).withLetter 'D']

def dataDirectory : Parameter := single "data-dir" .path

def scaleFactor : Parameter := single "scale-factor" .real

def ofGenerator : List Parameter :=
  [dataDirectory, scaleFactor, single "threads" .unsigned, single "delimiter" .text,
   single "generator" .text]

def tables : Parameter := ⟨"tables", none, .several .table, false⟩

/-- The number of lines to pass over in each data file. -/
def headerLines : Parameter := single "ignore-header-lines" .unsigned

/-- The wish to empty tables first. -/
def truncate : Parameter := switch "truncate"

/-- The wish for all queries. -/
def allQueries : Parameter := switch "all"

/-- The ids of queries. -/
def query : Parameter := ⟨"query", some 'q', .several .text, false⟩

/-- The parameters of a timed run, the selection aside. -/
def ofRun : List Parameter :=
  [(single "timeout-seconds" .signed).negative,
   (single "output" .path).withLetter 'o',
   switch "precheck",
   single "monitor-pid" (.upTo 4294967295)]

end Parameter

/-- The name of a subcommand. -/
inductive Verb where
  | schema
  | gen
  | load
  | run
  | all
  | bench
  deriving DecidableEq, Repr

namespace Verb

def every : List Verb :=
  [.schema, .gen, .load, .run, .all, .bench]

def word : Verb → String
  | .schema => "schema"
  | .gen => "gen"
  | .load => "load"
  | .run => "run"
  | .all => "all"
  | .bench => "bench"

/-- The subcommand with a name. -/
def ofWord? (word : String) : Option Verb :=
  every.find? fun verb => verb.word == word

/-- The parameters of a subcommand's own. -/
def parameters : Verb → List Parameter
  | .schema => Parameter.ofConnection
  | .gen => Parameter.ofGenerator
  | .load =>
    Parameter.ofConnection ++
      [.dataDirectory, .tables, .headerLines, .truncate,
       .single "field-terminated-by" .text, .single "line-terminated-by" .text]
  | .run => Parameter.ofConnection ++ [.allQueries, .query] ++ Parameter.ofRun
  | .all =>
    Parameter.ofConnection ++ Parameter.ofGenerator ++ [.tables, .headerLines, .truncate]
  | .bench =>
    Parameter.ofConnection ++ Parameter.ofGenerator ++
      [.headerLines, .single "truncate" .truth] ++ Parameter.ofRun

/-- The parameters that a subcommand cannot do without. -/
def required : Verb → List Parameter
  | .gen => [.dataDirectory, .scaleFactor]
  | .load => [.dataDirectory]
  | .all => [.dataDirectory, .scaleFactor]
  | .bench => [.dataDirectory, .scaleFactor]
  | _ => []

end Verb

/-- The word that asks for help in the place of a subcommand. -/
def helpWord : String := "help"

/-- A word in the place of a subcommand: one of them, or the wish for help. -/
inductive Keyword where
  | verb (verb : Verb)
  | help
  deriving DecidableEq, Repr

/-- The meaning of a word in the place of a subcommand. -/
def Keyword.ofWord? (word : String) : Option Keyword :=
  if word = helpWord then some .help else (Verb.ofWord? word).map .verb

/-- What may stand at a place of the command line. -/
structure Vocabulary where
  parameters : List Parameter
  /-- Whether a subcommand may follow. -/
  hasSubcommands : Bool
  deriving DecidableEq, Repr

namespace Vocabulary

/-- What may stand at the front. -/
def front : Vocabulary :=
  ⟨[.config, .help, .version], true⟩

/-- What may stand behind a subcommand. -/
def behind (verb : Verb) : Vocabulary :=
  ⟨verb.parameters ++ [.config, .help], false⟩

def named? (vocabulary : Vocabulary) (name : String) : Option Parameter :=
  vocabulary.parameters.find? fun parameter => parameter.name == name

/-- The parameter with a letter. -/
def lettered? (vocabulary : Vocabulary) (letter : Char) : Option Parameter :=
  vocabulary.parameters.find? fun parameter => parameter.letter == some letter

/-- The meaning of a word as a subcommand. -/
def keyword? (vocabulary : Vocabulary) (word : String) : Option Keyword :=
  if vocabulary.hasSubcommands then Keyword.ofWord? word else none

end Vocabulary

end DecisionBench.CommandLine
