import DecisionBench.Decimal.Layout
import DecisionBench.Program
import DecisionBench.Text.Pieces
import DecisionBench.Text.Quoted

/-!
# The data generator

The data files come from a separate program, which is given the scale, the output directory and the
delimiter of columns.  A request is checked before anything is started.
-/

namespace DecisionBench

namespace Delimiter

def invalid (text : String) : Fault :=
  ⟨.configuration, "invalid delimiter: " ++ Text.quoted text⟩

/-- The delimiter where none is asked for, as it is written. -/
def standard : String := "\\t"

/-- The octet that a text denotes: one ASCII character for itself, or one of the escapes for the
tab, the backslash and an octet of two hexadecimal digits. -/
def denoted? : List Char → Option Nat
  | [] => none
  | [c] => some c.toNat
  | ['\\', 't'] => some 0x09
  | ['\\', '\\'] => some 0x5C
  | ['\\', 'x', high, low] =>
    match Numeral.hexDigit? high, Numeral.hexDigit? low with
    | some h, some l => some (16 * h + l)
    | _, _ => none
  | _ :: _ :: _ => none

/-- An octet that may separate columns: ASCII, and none of the characters that end a line, quote a
value or end a text. -/
def isAllowed (octet : Nat) : Bool :=
  octet < 128 && octet != 0x00 && octet != 0x0A && octet != 0x0D && octet != 0x22

/-- The octet of a delimiter. -/
def parse (text : String) : Except Fault Nat :=
  match (denoted? text.toList).filter isAllowed with
  | some octet => .ok octet
  | none => .error (invalid text)

end Delimiter

/-- What the generator is asked for. -/
structure GeneratorRequest where
  command : String
  scaleFactor : Binary64
  outputDirectory : String
  delimiter : String
  threads : Option Nat
  deriving DecidableEq, Repr

namespace GeneratorRequest

/-- The scale is no positive number. -/
def invalidScale (scale : Binary64) : Fault :=
  ⟨.configuration, "--scale-factor must be greater than 0, got " ++ scale.plain⟩

def noThreads : Fault :=
  ⟨.configuration, "--threads must be at least 1"⟩

/-- Checks a request: its scale, its threads, its delimiter, in this order. -/
def validate (request : GeneratorRequest) : Except Fault Unit :=
  if !request.scaleFactor.isPositive then .error (invalidScale request.scaleFactor)
  else if request.threads = some 0 then .error noThreads
  else (Delimiter.parse request.delimiter).map fun _ => ()

def arguments (request : GeneratorRequest) : List String :=
  ["--scale-factor", request.scaleFactor.plain,
   "--output-dir", request.outputDirectory,
   "--format", "csv",
   "--delimiter", request.delimiter] ++
  match request.threads with
  | some count => ["--num-threads", toString count]
  | none => []

end GeneratorRequest

namespace Generator

def signalName : Nat → Option String
  | 1 => some "SIGHUP"
  | 2 => some "SIGINT"
  | 3 => some "SIGQUIT"
  | 4 => some "SIGILL"
  | 5 => some "SIGTRAP"
  | 6 => some "SIGABRT"
  | 7 => some "SIGBUS"
  | 8 => some "SIGFPE"
  | 9 => some "SIGKILL"
  | 10 => some "SIGUSR1"
  | 11 => some "SIGSEGV"
  | 12 => some "SIGUSR2"
  | 13 => some "SIGPIPE"
  | 14 => some "SIGALRM"
  | 15 => some "SIGTERM"
  | 16 => some "SIGSTKFLT"
  | 17 => some "SIGCHLD"
  | 18 => some "SIGCONT"
  | 19 => some "SIGSTOP"
  | 20 => some "SIGTSTP"
  | 21 => some "SIGTTIN"
  | 22 => some "SIGTTOU"
  | 23 => some "SIGURG"
  | 24 => some "SIGXCPU"
  | 25 => some "SIGXFSZ"
  | 26 => some "SIGVTALRM"
  | 27 => some "SIGPROF"
  | 28 => some "SIGWINCH"
  | 29 => some "SIGIO"
  | 30 => some "SIGPWR"
  | 31 => some "SIGSYS"
  | _ => none

/-- How a process ended, in words. -/
def endingText : Ending → String
  | .exit code => "exit status: " ++ toString code
  | .signal number =>
    match signalName number with
    | some name => "signal: " ++ toString number ++ " (" ++ name ++ ")"
    | none => "signal: " ++ toString number

/-- The output directory could not be made. -/
def directoryFailed (path text : String) : Fault :=
  ⟨.files, "create " ++ path ++ ": " ++ text⟩

def startFailed (command text : String) : Fault :=
  ⟨.generator, "failed to start " ++ command ++ ": " ++ text⟩

def endedBadly (command : String) (finished : Finished) : Fault :=
  ⟨.generator, command ++ " exited with " ++ endingText finished.ending ++ ": " ++
    String.ofList (Text.trim finished.complaints.toList)⟩

/-- Makes an entry for each line. -/
def tellLines (command : String) : List String → Program Unit
  | [] => pure ()
  | line :: rest => do
    Journal.tell .detail .generator (command ++ ": " ++ line)
    tellLines command rest

/-- Runs the generator to its end. -/
def run (request : GeneratorRequest) : Procedure Unit := do
  Procedure.ofOutcome request.validate
  Procedure.orFault (Files.makeDirectories request.outputDirectory)
    (directoryFailed request.outputDirectory)
  Journal.tell .information .generator
    ("Generating scale factor " ++ request.scaleFactor.plain ++ " into " ++
      request.outputDirectory)
  let start ← Program.now
  let finished ← Procedure.orFault (Program.request (.spawn request.command request.arguments))
    (startFailed request.command)
  tellLines request.command (Text.linesOf finished.output)
  if finished.ending = .exit 0 then
    let stop ← Program.now
    Journal.tell .information .generator
      ("Generated data in " ++ (Binary64.ofThousandths (stop - start)).fixed 2 ++ "s")
  else
    throw (endedBadly request.command finished)

end Generator

end DecisionBench
