import DecisionBench.Program
import DecisionBench.Statement

/-!
# Sessions

What every part of the program does with the open session: sending a statement in the way that fits
it, and setting the time limit.  A `Lease` is the right to use the session until it is closed; it is
closed at most once, whoever asks.
-/

namespace DecisionBench

namespace Session

def execute (statement : String) : Program (Except Fault Nat) :=
  Program.request (.execute statement)

def countRows (statement : String) : Program (Except Fault Nat) :=
  Program.request (.countRows statement)

/-- Tries to set the time limit for the session, and tells whether it holds.  A server that refuses
the setting does no harm, and a disabled limit sends nothing. -/
def limit (timeout : Timeout) : Program Bool :=
  match timeout.sessionStatement? with
  | none => pure false
  | some statement => do
    match ← execute statement with
    | .ok _ => pure true
    | .error fault =>
      Journal.tell .detail .session
        ("Session execution-time limit not applied: " ++ fault.display)
      pure false

end Session

/-- The right to use the session: held, or given back. -/
inductive Lease where
  | held
  | released
  deriving DecidableEq, Repr

namespace Lease

def isConnected : Lease → Bool
  | .held => true
  | .released => false

/-- Does some work on the session, if it may still be used. -/
def work {α : Type} (lease : Lease) (procedure : Procedure α) : Procedure α :=
  match lease with
  | .held => procedure
  | .released => throw .sessionClosed

/-- Closes the session; a second time does nothing.  The lease is given back even if the session
does not close in order. -/
def close : Lease → Program (Except Fault Unit × Lease)
  | .held => do
    let closed ← Program.request .closeSession
    pure (closed, .released)
  | .released => pure (.ok (), .released)

/-- Closes the session and hands back the outcome of the work done on it.  A fault of the work goes
before a fault of closing. -/
def finish {α : Type} (lease : Lease) (outcome : Except Fault α) :
    Program (Except Fault α) := do
  let (closed, _) ← lease.close
  match outcome, closed with
  | .ok value, .ok _ => pure (.ok value)
  | .ok _, .error fault => pure (.error fault)
  | .error fault, .ok _ => pure (.error fault)
  | .error fault, .error closing =>
    Journal.tell .warning .session
      ("Failed to close connection after error: " ++ closing.display)
    pure (.error fault)

end Lease

end DecisionBench
