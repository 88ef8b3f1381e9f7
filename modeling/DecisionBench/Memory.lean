import DecisionBench.Program
import DecisionBench.Text.Pieces
import DecisionBench.Text.Numeral

/-!
# Memory of a process

While a query runs, the resident memory of a process, usually the server, is read from its status
file: once at the start and then at every tick of a fixed interval, until the query ends or a
reading fails.  `Figures` is what comes of the readings.
-/

namespace DecisionBench.Memory

/-- The memory figures of one query, in KiB. -/
structure Figures where
  pid : Nat
  first : Nat
  last : Nat
  peak : Nat
  samples : Nat
  fault : Option String
  deriving DecidableEq, Repr

/-- The milliseconds between two readings. -/
def interval : Nat := 50

/-- The figures after the first reading. -/
def Figures.start (pid reading : Nat) : Figures :=
  ⟨pid, reading, reading, reading, 1, none⟩

/-- The figures of a query during which the process could not be read. -/
def Figures.unavailable (pid : Nat) (fault : String) : Figures :=
  ⟨pid, 0, 0, 0, 0, some fault⟩

/-- The figures after one more reading. -/
def Figures.record (figures : Figures) (reading : Nat) : Figures :=
  { figures with last := reading, peak := max figures.peak reading, samples := figures.samples + 1 }

/-- The text of a line behind the key of the resident memory. -/
def residentField? (line : List Char) : Option (List Char) :=
  Text.afterKey? "VmRSS:".toList (Text.trimStart line)

/-- The resident memory that a status file gives: the first word behind the key in the first line
that has it, if that is a number of 64 bits. -/
def resident? (status : String) : Option Nat :=
  match (Text.lines status.toList).findSome? residentField? with
  | none => none
  | some field =>
    match Text.words field with
    | [] => none
    | word :: _ => Numeral.natural? (Nat.pow 2 64) word

/-- What reading a status file comes to: the memory, or what is wrong. -/
def reading : Except String String → Except String Nat
  | .error text => .error text
  | .ok status =>
    match resident? status with
    | some kib => .ok kib
    | none => .error "VmRSS not found in /proc/<pid>/status"

/-- The memory of a process now, or at a time that has passed. -/
def read (pid : Nat) (time : Option Nat) : Program (Except String Nat) := do
  return reading (← Program.request (.readStatus pid time))

def unwatchable (pid : Nat) (text : String) : Fault :=
  ⟨.configuration, "--monitor-pid " ++ toString pid ++ ": " ++ text⟩

/-- Whether a process can be watched at all. -/
def check (pid : Nat) : Procedure Unit := do
  let _ ← Procedure.orFault (read pid none) (unwatchable pid)

/-- What the figures say of a reading that failed. -/
def unreadable (pid : Nat) (text : String) : String :=
  "read /proc/" ++ toString pid ++ "/status: " ++ text

/-- The times of the readings after the first in a query that begins at `start` and ends at `stop`:
every tick strictly between. -/
def tickTimes (start stop : Nat) : List Nat :=
  (List.range ((stop - start - 1) / interval)).map fun tick => start + interval * (tick + 1)

/-- Takes the readings at some times, up to the first that fails. -/
def sample (figures : Figures) : List Nat → Program Figures
  | [] => pure figures
  | time :: rest => do
    match ← read figures.pid (some time) with
    | .ok kib => sample (figures.record kib) rest
    | .error text => pure { figures with fault := some (unreadable figures.pid text) }

/-- A watch over the process during one query: the figures of the first reading, or that there are
none. -/
inductive Watch where
  | running (figures : Figures)
  | impossible (figures : Figures)
  deriving DecidableEq, Repr

/-- Takes the first reading. -/
def Watch.start (pid : Nat) : Program Watch := do
  match ← read pid none with
  | .ok kib => pure (.running (.start pid kib))
  | .error text => pure (.impossible (.unavailable pid (unreadable pid text)))

/-- Takes the readings up to the end of the query.  Ticks do not touch the session, so that the
readings between two times may be listed after the later one. -/
def Watch.stop (watch : Watch) (start stop : Nat) : Program Figures :=
  match watch with
  | .running figures => sample figures (tickTimes start stop)
  | .impossible figures => pure figures

end DecisionBench.Memory
