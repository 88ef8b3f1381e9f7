import DecisionBench.Connection.Driver
import DecisionBench.OsError
import DecisionBench.Rehearsal.Client

/-!
# Scripted servers

A scripted server decides what becomes of each attempt to open a session, and answers the statements
of the session from rules.  It keeps what it has seen.  A network may lie before it that leads
nowhere; then no attempt reaches it.
-/

namespace DecisionBench.Rehearsal

structure ServerError where
  code : Nat
  state : Option String
  message : String
  deriving DecidableEq, Repr

namespace ServerError

/-- The number of an error, with its state if it has one. -/
def codeText (error : ServerError) : String :=
  match error.state with
  | some state => toString error.code ++ " (" ++ state ++ ")"
  | none => toString error.code

/-- An error in answer to a login. -/
def loginText (error : ServerError) : String :=
  "error returned from database: " ++ error.codeText ++ ": " ++ error.message

/-- An error in answer to a statement. -/
def statementText (error : ServerError) : String :=
  "ERROR " ++ error.codeText ++ ": " ++ error.message

end ServerError

/-- What becomes of an attempt to open a session. -/
inductive Reception where
  | accepted
  | rejected (error : ServerError)
  /-- The connection is closed at once. -/
  | dropped
  deriving DecidableEq, Repr

/-- What a server answers to a statement. -/
inductive ServerAnswer where
  | rows (count : Nat)
  /-- No result, but a number of affected rows. -/
  | affected (count : Nat)
  | error (error : ServerError)
  | drop
  deriving DecidableEq, Repr

/-- How a server is reached, and what it does. -/
structure ServerScript where
  /-- What keeps every attempt from reaching the server. -/
  obstacle : Option OsError
  receptions : List Reception
  /-- The error in answer to the first statement of a session. -/
  preparing : Option ServerError
  rules : List (Rule ServerAnswer)
  deriving DecidableEq, Repr

/-- A login that a server has seen. -/
structure Handshake where
  user : String
  database : String
  passwordGiven : Bool
  deriving DecidableEq, Repr

/-- The far side of a session. -/
inductive Line where
  | closed
  /-- A session in which so many statements were sent. -/
  | live (statements : Nat)
  | broken
  deriving DecidableEq, Repr

/-- A server with what it has seen. -/
structure Server where
  script : ServerScript
  attempts : Nat
  handshakes : List Handshake
  statements : List String
  line : Line
  deriving DecidableEq, Repr

namespace Server

def new (script : ServerScript) : Server :=
  ⟨script, 0, [], [], .closed⟩

/-- The text of a failure of the transport. -/
def transportText (text : String) : String :=
  "error communicating with database: " ++ text

/-- The text of a connection that was closed from the other side. -/
def droppedText : String :=
  transportText "expected to read 4 bytes, got 0 bytes at EOF"

/-- What becomes of the next attempt; those beyond the script are accepted. -/
def reception (server : Server) : Reception :=
  (server.script.receptions.drop server.attempts).headD .accepted

/-- The answer to an attempt to open a session, and the server after it. -/
def connect (server : Server) (address : Address) : Except Refusal Unit × Server :=
  match server.script.obstacle with
  | some cause => (.error ⟨true, transportText cause.text⟩, server)
  | none =>
    let reached := { server with attempts := server.attempts + 1 }
    let handshake := ⟨address.user, address.database, !address.password.isEmpty⟩
    let loggedIn := { reached with handshakes := reached.handshakes ++ [handshake] }
    match server.reception with
    | .dropped => (.error ⟨true, droppedText⟩, reached)
    | .rejected error => (.error ⟨false, error.loginText⟩, loggedIn)
    | .accepted => (.ok (), { loggedIn with line := .live 0 })

/-- What the server answers to a statement of a session in which so many were sent before. -/
def answerTo (server : Server) (number : Nat) (statement : String) : ServerAnswer :=
  match number, server.script.preparing with
  | 0, some error => .error error
  | _, _ => (firstAnswer? server.script.rules statement).getD (.affected 0)

/-- The answer to a statement as its sender sees it, which counts either rows or affected rows, and
the server after it. -/
def answer (server : Server) (countsRows : Bool) (statement : String) :
    Except Fault Nat × Server :=
  match server.line with
  | .closed => (.error .sessionClosed, server)
  | .broken => (.error (Driver.rejected droppedText), server)
  | .live number =>
    let seen :=
      { server with statements := server.statements ++ [statement], line := .live (number + 1) }
    match server.answerTo number statement with
    | .rows count => (.ok (if countsRows then count else 0), seen)
    | .affected count => (.ok (if countsRows then 0 else count), seen)
    | .error error => (.error (Driver.rejected error.statementText), seen)
    | .drop => (.error (Driver.rejected droppedText), { seen with line := .broken })

/-- The server after its session was closed. -/
def close (server : Server) : Server :=
  { server with line := .closed }

end Server

end DecisionBench.Rehearsal
