import DecisionBench.Catalog.Benchmark
import DecisionBench.CommandLine
import DecisionBench.EnvironmentFile

/-!
# Invocations

An invocation is one whole run of the program, from its environment variables and arguments to its
exit status: the environment file is read, the command line is understood, the configuration is
loaded, and the job is done.  A fault ends it with an entry in the journal.
-/

namespace DecisionBench.Invocation

/-- The variable that sets the filter of the journal. -/
def filterVariable : String := "RUST_LOG"

/-- Loads the configuration and does the job of a command line. -/
def perform (known : Variables) (commandLine : CommandLine) : Procedure Unit := do
  let path := commandLine.config.getD (Config.standardPath known.get?)
  Journal.tell .information .program ("Loading config from: " ++ path)
  let config ← Config.load path
  commandLine.job.perform Catalog.benchmark config known.get?

/-- Shows why a run ends with its command line. -/
def showStop : CommandLine.Stop → Program Unit
  | .version => do
    let _ ← Program.request (.print CommandLine.versionText)
  | .help => do
    let _ ← Program.request (.print CommandLine.helpText)
  | _ => do
    let _ ← Program.request (.complain CommandLine.helpText)

/-- Follows a command line to the exit status. -/
def follow (known : Variables) (arguments : List String) : Program Nat := do
  match CommandLine.read (known.get? CommandLine.urlVariable) arguments with
  | .error stop =>
    showStop stop
    return stop.exitStatus
  | .ok commandLine =>
    match ← (perform known commandLine).outcome with
    | .ok _ => return 0
    | .error fault =>
      Journal.tell .error .program fault.summary
      return 1

/-- The exit status of a run that stops without a filter of its journal. -/
def abortStatus : Nat := 101

/-- One run of the program; its value is the exit status. -/
def run (known : Variables) (arguments : List String) : Program Nat := do
  let (known, loaded) ← EnvironmentFile.load known
  match Journal.Filter.ofSetting (known.get? filterVariable) with
  | none => return abortStatus
  | some filter =>
    filter.apply do
      match loaded with
      | some path => Journal.tell .detail .program ("Loaded environment from " ++ path)
      | none => pure ()
      follow known arguments

end DecisionBench.Invocation
