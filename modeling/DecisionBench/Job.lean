import DecisionBench.Command
import DecisionBench.Connection.Choice
import DecisionBench.Connection.Opening

/-!
# Jobs

A job is what one run of the program is asked to do, in the terms of the command line.  It is turned
into requests and options that are checked in full before a session is opened: a `Plan` can only be
made of arguments that make sense, and only a plan is carried out.
-/

namespace DecisionBench

/-- How the data is to be generated. -/
structure GenerationArguments where
  directory : String
  scaleFactor : Binary64
  threads : Option Nat
  delimiter : String
  /-- The generator, if it is not the configured one. -/
  generator : Option String
  deriving DecidableEq, Repr

/-- How generated data is to be loaded. -/
structure LoadingArguments where
  tables : List Table
  headerLines : Nat
  truncate : Bool
  deriving DecidableEq, Repr

/-- Which queries are asked for. -/
inductive Selection where
  | all
  /-- Those with the ids that some texts write. -/
  | listed (texts : List String)
  deriving DecidableEq, Repr

/-- How queries are to be run. -/
structure RunArguments where
  /-- The time limit in seconds. -/
  seconds : Int
  precheck : Bool
  watched : Option Nat
  output : Option String
  deriving DecidableEq, Repr

/-- What a run is asked to do. -/
inductive Job where
  | schema (connection : ConnectionFlags)
  | gen (generation : GenerationArguments)
  | load (connection : ConnectionFlags) (load : LoadOptions)
  | run (connection : ConnectionFlags) (selection : Selection) (run : RunArguments)
  | all (connection : ConnectionFlags) (generation : GenerationArguments)
      (loading : LoadingArguments)
  | bench (connection : ConnectionFlags) (generation : GenerationArguments)
      (loading : LoadingArguments) (run : RunArguments)
  deriving DecidableEq, Repr

namespace GenerationArguments

/-- The request to the generator, checked. -/
def request (generation : GenerationArguments) (config : Config) :
    Except Fault GeneratorRequest := do
  let request : GeneratorRequest :=
    { command := generation.generator.getD config.generator
      scaleFactor := generation.scaleFactor
      outputDirectory := generation.directory
      delimiter := generation.delimiter
      threads := generation.threads }
  request.validate
  return request

/-- The options that load the generated files: their fields end with the delimiter that they were
generated with. -/
def loadOptions (generation : GenerationArguments) (loading : LoadingArguments) :
    Except Fault LoadOptions := do
  let octet ← Delimiter.parse generation.delimiter
  return { directory := generation.directory
           tables := loading.tables
           truncate := loading.truncate
           fieldEnd := Load.terminator octet
           lineEnd := Load.standardLineEnd
           headerLines := loading.headerLines }

end GenerationArguments

namespace Selection

def invalidId (text : List Char) : Fault :=
  ⟨.configuration, "invalid query id: " ++ String.ofList text⟩

/-- The ids that texts write, blank texts aside, unless one is no number of 32 bits. -/
def readIds : List String → Except Fault (List Nat)
  | [] => .ok []
  | text :: rest =>
    let trimmed := Text.trim text.toList
    if trimmed.isEmpty then readIds rest
    else
      match Numeral.natural? (Nat.pow 2 32) trimmed with
      | some id => (readIds rest).map (id :: ·)
      | none => .error (invalidId trimmed)

def ids (catalog : Catalog) : Selection → Except Fault (List Nat)
  | .all => .ok catalog.ids
  | .listed texts => readIds texts

/-- The selected ids, of which none is unknown. -/
def knownIds (selection : Selection) (catalog : Catalog) : Except Fault (List Nat) := do
  let ids ← selection.ids catalog
  let _ ← catalog.resolve ids
  return ids

end Selection

namespace RunArguments

/-- Checks that the process that is to be watched can be. -/
def checkWatched (run : RunArguments) : Procedure Unit :=
  match run.watched with
  | some pid => Memory.check pid
  | none => pure ()

/-- The options for running queries with some ids. -/
def options (run : RunArguments) (ids : List Nat) : RunOptions :=
  ⟨ids, .ofSeconds run.seconds, run.precheck, run.watched, run.output⟩

/-- The options for running a selection, checked. -/
def optionsFor (run : RunArguments) (catalog : Catalog) (selection : Selection) :
    Procedure RunOptions := do
  let ids ← Procedure.ofOutcome (selection.knownIds catalog)
  run.checkWatched
  return run.options ids

/-- The options for running the whole catalog, checked. -/
def optionsForAll (run : RunArguments) (catalog : Catalog) : Procedure RunOptions := do
  run.checkWatched
  return run.options catalog.ids

end RunArguments

/-- A job whose arguments were checked. -/
inductive Plan where
  | schema (address : Address)
  | gen (request : GeneratorRequest)
  | load (address : Address) (load : LoadOptions)
  | run (address : Address) (options : RunOptions)
  | all (address : Address) (request : GeneratorRequest) (load : LoadOptions)
  | bench (address : Address) (request : GeneratorRequest) (load : LoadOptions)
      (options : RunOptions)
  deriving DecidableEq, Repr

namespace Job

/-- Checks the arguments of a job.  What is asked for is checked first, and the connection last. -/
def plan (catalog : Catalog) (config : Config) (lookup? : String → Option String) :
    Job → Procedure Plan
  | .schema connection => do
    let address ← Procedure.ofOutcome (connection.resolve config lookup?)
    return .schema address
  | .gen generation => do
    let request ← Procedure.ofOutcome (generation.request config)
    return .gen request
  | .load connection options => do
    let address ← Procedure.ofOutcome (connection.resolve config lookup?)
    return .load address options
  | .run connection selection arguments => do
    let options ← arguments.optionsFor catalog selection
    let address ← Procedure.ofOutcome (connection.resolve config lookup?)
    return .run address options
  | .all connection generation loading => do
    let request ← Procedure.ofOutcome (generation.request config)
    let options ← Procedure.ofOutcome (generation.loadOptions loading)
    let address ← Procedure.ofOutcome (connection.resolve config lookup?)
    return .all address request options
  | .bench connection generation loading arguments => do
    let request ← Procedure.ofOutcome (generation.request config)
    let loadOptions ← Procedure.ofOutcome (generation.loadOptions loading)
    let options ← arguments.optionsForAll catalog
    let address ← Procedure.ofOutcome (connection.resolve config lookup?)
    return .bench address request loadOptions options

end Job

/-- Opens a session and does the work of a command on it. -/
def Command.onServer (address : Address) (command : Procedure Unit) : Procedure Unit := do
  let _ ← Opening.run address
  command

def Plan.perform (catalog : Catalog) : Plan → Procedure Unit
  | .schema address => Command.onServer address Command.schema
  | .gen request => Generator.run request
  | .load address options => Command.onServer address (Command.load options)
  | .run address options => Command.onServer address (Command.run catalog options)
  | .all address request options => Command.onServer address (Command.all request options)
  | .bench address request loadOptions options =>
    Command.onServer address (Command.bench catalog request loadOptions options)

/-- Does a job: first its arguments are checked, then the plan is carried out. -/
def Job.perform (catalog : Catalog) (config : Config) (lookup? : String → Option String)
    (job : Job) : Procedure Unit := do
  let plan ← job.plan catalog config lookup?
  plan.perform catalog

end DecisionBench
