import DecisionBench.Invocation
import DecisionBench.OsError

/-!
# The program

The thin layer between a run and the operating system: it answers the requests of an invocation with
real files, a real clock and the real output.  It opens no network connections and starts no
processes; such requests are refused, and the run ends with the fault that tells so.
-/

namespace DecisionBench.Terminal

def refusalText (cause : IO.Error) : String :=
  toString cause

/-- The outcome of an action that the operating system may refuse. -/
def attempt {α : Type} (action : IO α) : IO (Except String α) := do
  try
    return .ok (← action)
  catch cause =>
    return .error (refusalText cause)

/-- What the operating system tells of the place that a path leads to, if there is anything. -/
def metadata? (path : String) : IO (Option IO.FS.Metadata) := do
  match ← attempt (System.mkFilePath [path]).metadata with
  | .ok metadata => return some metadata
  | .error _ => return none

/-- The line that the journal shows for an entry. -/
def entryLine (entry : Journal.Entry) : String :=
  entry.level.word ++ " " ++ entry.speaker.path ++ ": " ++ entry.shown

def answer (effect : Effect) : IO effect.Reply :=
  match effect with
  | .connect _ =>
    return .error ⟨false, "error communicating with database: " ++ OsError.networkUnreachable.text⟩
  | .execute _ => return .error .sessionClosed
  | .countRows _ => return .error .sessionClosed
  | .closeSession => return .ok ()
  | .clock => IO.monoMsNow
  | .pause millis => IO.sleep millis.toUInt32
  | .readStatus pid _ => attempt (IO.FS.readFile ("/proc/" ++ toString pid ++ "/status"))
  | .isFile path => do
    return (← metadata? path).any fun metadata => metadata.type == .file
  | .pathExists path => do
    return (← metadata? path).isSome
  | .resolvePath path => do
    match ← attempt (IO.FS.realPath path) with
    | .ok resolved => return .ok resolved.toString
    | .error text => return .error text
  | .readFile path => attempt (IO.FS.readFile path)
  | .writeFile path content => attempt (IO.FS.writeFile path content)
  | .makeDirectories path => attempt (IO.FS.createDirAll path)
  | .spawn _ _ => return .error OsError.denied.text
  | .print text => attempt (IO.print text)
  | .complain text => attempt (IO.eprint text)
  | .note entry => IO.eprintln (entryLine entry)

def play {α : Type} : Program α → IO α
  | .done value => return value
  | .ask effect next => do
    let reply ← answer effect
    play (next reply)

/-- The names of the variables that a run looks at. -/
def variableNames : List String :=
  [Invocation.filterVariable, CommandLine.urlVariable, "MYSQL_HOST", "MYSQL_TCP_PORT",
   "MYSQL_USER", "MYSQL_PWD", "MYSQL_DATABASE", "XDG_CONFIG_HOME", "HOME"]

/-- The variables around a run, as far as it looks at them. -/
def surroundings : IO Variables := do
  let mut entries := []
  for name in variableNames do
    if let some value ← IO.getEnv name then
      entries := entries ++ [(name, value)]
  return ⟨entries⟩

end DecisionBench.Terminal

/-- Runs the program; its value is the exit status. -/
def main (arguments : List String) : IO UInt32 := do
  let known ← DecisionBench.Terminal.surroundings
  let status ← DecisionBench.Terminal.play (DecisionBench.Invocation.run known arguments)
  return status.toUInt32
