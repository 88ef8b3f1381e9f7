import DecisionBench.Fault
import DecisionBench.Text.Pieces

/-!
# Scripted clients

A scripted client stands in for an open session.  It records every statement and answers from its
rules, of which the first one with a pattern inside the statement applies; or it refuses every
statement.  A `Hitch` overrides the answer to a statement of a given number, counted from one.
-/

namespace DecisionBench.Rehearsal

/-- What a rule does with a statement. -/
inductive Reaction where
  /-- It counts so many rows. -/
  | rows (count : Nat)
  | delay (millis : Nat)
  | fail (message : String)
  deriving DecidableEq, Repr

/-- A rule for the statements that have a pattern in them. -/
structure Rule (Answer : Type) where
  pattern : String
  answer : Answer
  deriving DecidableEq, Repr

/-- The answer of the first rule that applies to a statement. -/
def firstAnswer? {Answer : Type} (rules : List (Rule Answer)) (statement : String) :
    Option Answer :=
  (rules.find? fun rule => Text.contains statement rule.pattern).map Rule.answer

structure Behaviour where
  rules : List (Rule Reaction)
  /-- The message that every statement is refused with, if there is one. -/
  refusal : Option String
  /-- The statements, by their numbers, that fail with a message whatever the client does. -/
  hitches : List (Nat × String)
  /-- The message that closing fails with. -/
  closing : Option String
  deriving DecidableEq, Repr

/-- A client with what has reached it. -/
structure Client where
  behaviour : Behaviour
  /-- The statements that were recorded. -/
  recorded : List String
  /-- The number of statements sent, recorded or not. -/
  calls : Nat
  /-- How often it was closed. -/
  closes : Nat
  deriving DecidableEq, Repr

namespace Client

def new (behaviour : Behaviour) : Client :=
  ⟨behaviour, [], 0, 0⟩

def isClosed (client : Client) : Bool :=
  client.closes != 0

/-- The answer to a statement by the rules, the milliseconds that it takes, and whether the
statement is recorded.  Where no rule says otherwise the answer is `standard`. -/
def consider (client : Client) (standard : Nat) (statement : String) :
    Except Fault Nat × Nat × Bool :=
  match client.behaviour.refusal with
  | some message => (.error ⟨.query, message⟩, 0, false)
  | none =>
    if client.isClosed then (.error .sessionClosed, 0, false)
    else
      match firstAnswer? client.behaviour.rules statement with
      | some (.rows count) => (.ok count, 0, true)
      | some (.delay millis) => (.ok standard, millis, true)
      | some (.fail message) => (.error ⟨.query, message⟩, 0, true)
      | none => (.ok standard, 0, true)

/-- The message that the statement with a number fails with in any case. -/
def hitch? (client : Client) (number : Nat) : Option String :=
  (client.behaviour.hitches.find? fun hitch => hitch.1 == number).map Prod.snd

/-- The answer to a statement, the milliseconds that it takes, and the client after it. -/
def answer (client : Client) (standard : Nat) (statement : String) :
    Except Fault Nat × Nat × Client :=
  let (reply, millis, isRecorded) := client.consider standard statement
  let number := client.calls + 1
  let reply := match client.hitch? number with
    | some message => .error ⟨.query, message⟩
    | none => reply
  let recorded := if isRecorded then client.recorded ++ [statement] else client.recorded
  (reply, millis, { client with recorded, calls := number })

/-- The answer to closing, and the client after it. -/
def close (client : Client) : Except Fault Unit × Client :=
  let closed := { client with closes := client.closes + 1 }
  match client.behaviour.closing with
  | some message => (.error ⟨.connection, message⟩, closed)
  | none => (.ok (), closed)

/-- The recorded statements that have a text in them. -/
def matching (client : Client) (text : String) : List String :=
  client.recorded.filter fun statement => Text.contains statement text

end Client

end DecisionBench.Rehearsal
