import DecisionBench.Session

/-!
# Scripts

A script is a text of statements with semicolons between them.  `statements` cuts it at every
semicolon, wherever it stands, and keeps the trimmed parts that are not empty.  `Script.run` sends
them one after the other up to the first that fails.
-/

namespace DecisionBench.Script

/-- The statements of a script, as lists of characters. -/
def fragments (script : List Char) : List (List Char) :=
  ((Text.pieces (· == ';') script).map Text.trim).filter (! ·.isEmpty)

/-- The statements of a script. -/
def statements (script : String) : List String :=
  (fragments script.toList).map String.ofList

def firstLine (statement : String) : String :=
  match Text.lines statement.toList with
  | [] => ""
  | line :: _ => String.ofList line

def failed (statement message : String) : Fault :=
  ⟨.query, "execute sql: " ++ firstLine statement ++ ": " ++ message⟩

/-- Sends statements for their effects, up to the first that fails. -/
def sendAll : List String → Procedure Unit
  | [] => pure ()
  | statement :: rest => do
    Journal.tell .detail .schema ("Executing: " ++ statement)
    let _ ← Procedure.rewording (Session.execute statement) (failed statement)
    sendAll rest

def run (script : String) : Procedure Unit :=
  sendAll (statements script)

end DecisionBench.Script
