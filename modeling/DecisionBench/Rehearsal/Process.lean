import DecisionBench.OsError
import DecisionBench.Program
import DecisionBench.Rehearsal.FileTree

/-!
# Scripted processes

A process is known by its id.  While it runs its status file tells of its memory; after its death
the file is gone, or stays without the memory for as long as nobody collects the process.  The
generator is a process that leaves files in its output directory and ends as its script says.
-/

namespace DecisionBench.Rehearsal

/-- What is left of a process that died. -/
inductive Remains where
  | nothing
  /-- The process is not collected. -/
  | uncollected
  deriving DecidableEq, Repr

/-- A process, and when it died and what is left, if it did. -/
structure ScriptedProcess where
  pid : Nat
  death : Option (Nat × Remains)
  deriving DecidableEq, Repr

namespace ScriptedProcess

/-- The resident memory of every process that runs, in KiB. -/
def residentMemory : Nat := 1024

def runningStatus : String :=
  "State:\tS (sleeping)\nVmRSS:\t" ++ toString residentMemory ++ " kB\n"

def uncollectedStatus : String :=
  "State:\tZ (zombie)\n"

/-- What the status file of a process holds at a time. -/
def status (process : ScriptedProcess) (time : Nat) : Except OsError String :=
  match process.death with
  | none => .ok runningStatus
  | some (died, remains) =>
    if time < died then .ok runningStatus
    else
      match remains with
      | .nothing => .error .missing
      | .uncollected => .ok uncollectedStatus

def die (process : ScriptedProcess) (time : Nat) (remains : Remains) : ScriptedProcess :=
  { process with death := some (time, remains) }

end ScriptedProcess

/-- What the status file of a process holds at a time, for one of some processes. -/
def statusOf (processes : List ScriptedProcess) (pid time : Nat) : Except OsError String :=
  match processes.find? fun process => process.pid == pid with
  | some process => process.status time
  | none => .error .missing

/-- A generator that follows a script. -/
structure ScriptedGenerator where
  /-- Where its program stands. -/
  place : Names
  /-- The names of the files that it leaves in its output directory. -/
  files : List String
  finished : Finished
  deriving DecidableEq, Repr

namespace ScriptedGenerator

/-- The signals that end no process which does not wait for them. -/
def harmlessSignals : List Nat :=
  [0, 17, 18, 23, 28]

/-- How a process ends that sends itself a signal as the last thing it does. -/
def endingOf (signal : Nat) : Ending :=
  if harmlessSignals.contains signal then .exit 0 else .signal signal

/-- The tree after the generator has left its files in a directory. -/
def leaveFiles (tree : FileTree) (directory : Names) (output : String) :
    List String → FileTree
  | [] => tree
  | file :: rest =>
    match tree.write directory (output ++ "/" ++ file) "" with
    | .ok tree => leaveFiles tree directory output rest
    | .error _ => leaveFiles tree directory output rest

/-- The output directory among the arguments: the fourth one. -/
def outputOf (arguments : List String) : String :=
  (arguments.drop 3).headD ""

end ScriptedGenerator

end DecisionBench.Rehearsal
