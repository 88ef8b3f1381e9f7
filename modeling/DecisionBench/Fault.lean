/-!
# Faults

Everything that can go wrong in a benchmark run is a `Fault`: its kind, and a message for the
reader.  `Fault.display` is the line that the log ends with, and `Fault.Kind.category` the heading
in front of it.  The wording of a particular fault stands beside the rule that raises it.
-/

namespace DecisionBench

/-- What a fault is about. -/
inductive Fault.Kind where
  /-- No session, or a session that is gone. -/
  | connection
  /-- A statement that the server rejected. -/
  | query
  /-- Arguments, settings or selections that do not make sense. -/
  | configuration
  | generator
  | files
  /-- A broken promise of the program itself. -/
  | internal
  deriving DecidableEq, Repr

/-- A fault: its kind and the text that says what happened. -/
structure Fault where
  kind : Fault.Kind
  message : String
  deriving DecidableEq, Repr

namespace Fault

/-- The heading of a kind of fault. -/
def Kind.category : Kind → String
  | .connection => "Connection Error"
  | .query => "Query Error"
  | .configuration => "Configuration Error"
  | .generator => "Generator Error"
  | .files => "I/O Error"
  | .internal => "Internal Error"

/-- The words that open a displayed fault. -/
def Kind.label : Kind → String
  | .connection => "Connection error"
  | .query => "Query error"
  | .configuration => "Configuration error"
  | .generator => "Generator error"
  | .files => "I/O error"
  | .internal => "Internal error"

/-- A fault in one line: what it is about, then what happened. -/
def display (fault : Fault) : String :=
  fault.kind.label ++ ": " ++ fault.message

/-- The last line of a failed run. -/
def summary (fault : Fault) : String :=
  fault.kind.category ++ ": " ++ fault.display

/-- The fault of using a session after it was closed. -/
def sessionClosed : Fault :=
  ⟨.connection, "connection is already closed"⟩

end Fault

end DecisionBench
