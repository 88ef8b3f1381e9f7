import DecisionBench.Rehearsal.Client
import DecisionBench.Rehearsal.Process
import DecisionBench.Rehearsal.Server
import DecisionBench.Rehearsal.Surroundings

/-!
# The stage of a rehearsal

A rehearsal plays a program without a server, a disk or a clock of its own.  The stage holds what
takes their place: a scripted session, a file tree, processes, and a time that passes only when
something waits.  `Stage.environment` answers every request from the stage.
-/

namespace DecisionBench.Rehearsal

/-- The far side of the session. -/
inductive Peer where
  | client (client : Client)
  | server (server : Server)
  deriving DecidableEq, Repr

/-- That a process is killed when a statement of some number is sent. -/
structure Killing where
  call : Nat
  pid : Nat
  remains : Remains
  deriving DecidableEq, Repr

/-- Everything that a rehearsal keeps. -/
structure Stage where
  peer : Peer
  /-- The time, in milliseconds. -/
  time : Nat
  processes : List ScriptedProcess
  killing : Option Killing
  files : FileTree
  /-- The working directory. -/
  directory : Names
  generator : Option ScriptedGenerator
  /-- The arguments of the generator, if it ran. -/
  arguments : Option (List String)
  /-- The journal, in order. -/
  journal : List Journal.Entry
  /-- What was printed. -/
  printed : String
  deriving DecidableEq, Repr

namespace Stage

/-- A stage with a session and files, on which nothing has happened yet. -/
def new (peer : Peer) (files : FileTree) (directory : Names) : Stage where
  peer
  time := 0
  processes := []
  killing := none
  files
  directory
  generator := none
  arguments := none
  journal := []
  printed := ""

/-- Kills a process if it is to die at a statement of some number. -/
def strike (stage : Stage) (number : Nat) : Stage :=
  match stage.killing with
  | some killing =>
    if killing.call = number then
      { stage with
        processes := stage.processes.map fun process =>
          if process.pid = killing.pid then process.die stage.time killing.remains else process }
    else stage
  | none => stage

/-- The answer to a statement of the session.  A client that counts rows finds one where its rules
say nothing. -/
def answer (stage : Stage) (countsRows : Bool) (statement : String) :
    Except Fault Nat × Stage :=
  match stage.peer with
  | .client client =>
    let struck := stage.strike (client.calls + 1)
    let (reply, millis, client) := client.answer (if countsRows then 1 else 0) statement
    (reply, { struck with peer := .client client, time := struck.time + millis })
  | .server server =>
    let (reply, server) := server.answer countsRows statement
    (reply, { stage with peer := .server server })

def connect (stage : Stage) (address : Address) : Except Refusal Unit × Stage :=
  match stage.peer with
  | .client _ => (.ok (), stage)
  | .server server =>
    let (reply, server) := server.connect address
    (reply, { stage with peer := .server server })

def closeSession (stage : Stage) : Except Fault Unit × Stage :=
  match stage.peer with
  | .client client =>
    let (reply, client) := client.close
    (reply, { stage with peer := .client client })
  | .server server => (.ok (), { stage with peer := .server server.close })

/-- A command cannot be handed to the operating system. -/
def zeroInCommand : String := "nul byte found in provided data"

/-- Where the program of a command stands.  A name without a slash is looked for in some directories
one after the other; something there that is no program is passed over, and refused if nothing else
is found. -/
def program (stage : Stage) (command : String) : Except OsError Names :=
  let isProgram (names : Names) : Bool :=
    (Utility.at? names).isSome ||
      (stage.generator.map ScriptedGenerator.place) == some names
  let there (path : String) : Except OsError Names :=
    match stage.files.locate .use stage.directory path with
    | .ok (.occupied names _) => if isProgram names then .ok names else .error .denied
    | .ok (.vacant _) => .error .missing
    | .error cause => .error cause
  let search (found : Except OsError Names) (directory : String) : Except OsError Names :=
    match found with
    | .error .missing => there (directory ++ "/" ++ command)
    | .error .denied =>
      match there (directory ++ "/" ++ command) with
      | .error .missing => .error .denied
      | found => found
    | found => found
  if command.contains '/' then there command
  else if command.isEmpty then .error .missing
  else searchedDirectories.foldl search (.error .missing)

/-- The answer to starting a process. -/
def spawn (stage : Stage) (command : String) (arguments : List String) :
    Except String Finished × Stage :=
  if (command :: arguments).any (·.contains '\x00') then (.error zeroInCommand, stage)
  else
    match stage.program command with
    | .error cause => (.error cause.text, stage)
    | .ok names =>
      match Utility.at? names, stage.generator with
      | some utility, _ => (.ok (utility.finished command arguments), stage)
      | none, some generator =>
        (.ok generator.finished,
          { stage with
            arguments := some arguments
            files := ScriptedGenerator.leaveFiles stage.files stage.directory
              (ScriptedGenerator.outputOf arguments) generator.files })
      | none, none => (.error OsError.denied.text, stage)

/-- An outcome of the file tree as a reply. -/
def replied {α : Type} (outcome : Except OsError α) : Except String α :=
  match outcome with
  | .ok value => .ok value
  | .error cause => .error cause.text

/-- The reply to a change of the file tree, and the stage after it. -/
def changed (stage : Stage) (outcome : Except OsError FileTree) : Except String Unit × Stage :=
  match outcome with
  | .ok files => (.ok (), { stage with files })
  | .error cause => (.error cause.text, stage)

/-- The answer to a request, and the stage after it. -/
def reply (effect : Effect) (stage : Stage) : effect.Reply × Stage :=
  match effect with
  | .connect address => stage.connect address
  | .execute statement => stage.answer false statement
  | .countRows statement => stage.answer true statement
  | .closeSession => stage.closeSession
  | .clock => (stage.time, stage)
  | .pause millis => ((), { stage with time := stage.time + millis })
  | .readStatus pid time =>
    (replied (statusOf stage.processes pid (time.getD stage.time)), stage)
  | .isFile path => (stage.files.isFile stage.directory path, stage)
  | .pathExists path => (stage.files.hasPath stage.directory path, stage)
  | .resolvePath path => (replied (stage.files.resolve stage.directory path), stage)
  | .readFile path => (replied (stage.files.read stage.directory path), stage)
  | .writeFile path content =>
    stage.changed (stage.files.write stage.directory path content)
  | .makeDirectories path => stage.changed (stage.files.makeDirectories stage.directory path)
  | .spawn command arguments => stage.spawn command arguments
  | .print text => (.ok (), { stage with printed := stage.printed ++ text })
  | .complain _ => (.ok (), stage)
  | .note entry => ((), { stage with journal := stage.journal ++ [entry] })

def environment : Environment Stage :=
  ⟨reply⟩

def play {α : Type} (stage : Stage) (program : Program α) : α × Stage :=
  program.run environment stage

end Stage

end DecisionBench.Rehearsal
