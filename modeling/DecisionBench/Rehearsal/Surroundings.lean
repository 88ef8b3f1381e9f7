import DecisionBench.Program
import DecisionBench.Rehearsal.FileTree

/-!
# Surroundings of a rehearsal

Outside of the directory in which a rehearsal plays stands what every system has: the usual
directories, the device that swallows everything, and a few programs.  None of the programs knows
the arguments of the generator; those that look at their arguments refuse them.
-/

namespace DecisionBench.Rehearsal

inductive Utility where
  /-- Does nothing, and ends with a status. -/
  | idle (status : Nat)
  | echo
  /-- Refuses options that it does not know, with a status. -/
  | strict (status : Nat)
  /-- Reads commands, and refuses options that it does not know. -/
  | shell
  deriving DecidableEq, Repr

namespace Utility

/-- How a utility ends that is called by a name with arguments. -/
def finished (utility : Utility) (called : String) (arguments : List String) : Finished :=
  match utility with
  | .idle status => ⟨.exit status, "", ""⟩
  | .echo => ⟨.exit 0, " ".intercalate arguments ++ "\n", ""⟩
  | .strict status =>
    ⟨.exit status, "", called ++ ": unrecognized option '" ++ arguments.headD "" ++ "'\nTry '" ++
      called ++ " --help' for more information.\n"⟩
  | .shell => ⟨.exit 2, "", called ++ ": 0: Illegal option --\n"⟩

/-- The directory of the utilities. -/
def place : Names := ["usr", "bin"]

def all : List (String × Utility) :=
  [("true", .idle 0), ("false", .idle 1), ("echo", .echo), ("cat", .strict 1), ("ls", .strict 2),
   ("sh", .shell)]

/-- The utility that stands at some names. -/
def at? (names : Names) : Option Utility :=
  (all.find? fun entry => place ++ [entry.1] == names).map Prod.snd

end Utility

/-- The directories in which a program without a slash in its name is looked for. -/
def searchedDirectories : List String :=
  ["/usr/local/bin", "/usr/bin", "/bin"]

/-- The files and directories that every system has. -/
def FileTree.surroundings : FileTree :=
  ⟨[(["bin"], .link "usr/bin"), (["dev"], .directory), (["dev", "null"], .device),
    (["etc"], .directory), (["etc", "hosts"], .file ""), (["etc", "passwd"], .file ""),
    (["home"], .directory), (["lib"], .link "usr/lib"), (["opt"], .directory),
    (["proc"], .directory), (["root"], .directory), (["sbin"], .link "usr/sbin"),
    (["tmp"], .directory), (["usr"], .directory), (["usr", "bin"], .directory),
    (["usr", "lib"], .directory), (["usr", "local"], .directory),
    (["usr", "local", "bin"], .directory), (["usr", "sbin"], .directory),
    (["var"], .directory)] ++
    Utility.all.map fun entry => (Utility.place ++ [entry.1], .file "")⟩

end DecisionBench.Rehearsal
