import DecisionBench.Fault
import DecisionBench.Journal.Filter

/-!
# Programs and their environments

A benchmark run talks to a database session, to the file system, to the data generator and to a
clock.  An `Effect` is one such request, and a `Program` asks for effects one after the other and
goes on with each reply.  An `Environment` answers the requests from a state of its own; playing a
program in an environment yields its value and the list of events, that is, of requests with their
replies.

Main statements: playing a sequence of programs plays one after the other (`play_bind`), and the
value and the state do not depend on whether events are kept (`run_eq_play`).
-/

namespace DecisionBench

/-- Where a session is opened: the address and the credentials. -/
structure Address where
  host : String
  port : Nat
  user : String
  password : String
  database : String
  deriving DecidableEq, Repr

/-- Why one attempt to open a session failed. -/
structure Refusal where
  /-- The transport failed, and not the server's answer. -/
  isTransport : Bool
  text : String
  deriving DecidableEq, Repr

inductive Ending where
  | exit (code : Nat)
  | signal (number : Nat)
  deriving DecidableEq, Repr

/-- What a finished process left behind. -/
structure Finished where
  ending : Ending
  output : String
  complaints : String
  deriving DecidableEq, Repr

/-- A request of a program to its environment. -/
inductive Effect where
  /-- One attempt to open a session. -/
  | connect (address : Address)
  /-- Executes a statement for its effect; the reply is the number of affected rows. -/
  | execute (statement : String)
  /-- Executes a statement for its rows; the reply is their number. -/
  | countRows (statement : String)
  | closeSession
  /-- Reads the clock, in milliseconds. -/
  | clock
  /-- Waits for so many milliseconds. -/
  | pause (millis : Nat)
  /-- Reads what the status file of a process holds now, or what it held at a time. -/
  | readStatus (pid : Nat) (time : Option Nat)
  /-- Whether a path leads to a regular file. -/
  | isFile (path : String)
  /-- Whether a path leads to anything. -/
  | pathExists (path : String)
  /-- The absolute path without symbolic links that a path stands for. -/
  | resolvePath (path : String)
  | readFile (path : String)
  | writeFile (path content : String)
  /-- Makes a directory and the ones above it. -/
  | makeDirectories (path : String)
  /-- Runs a process to its end. -/
  | spawn (command : String) (arguments : List String)
  | print (text : String)
  | complain (text : String)
  /-- Makes an entry in the journal. -/
  | note (entry : Journal.Entry)
  deriving DecidableEq, Repr

/-- The type of the replies to a request.  An error of the operating system is its text. -/
def Effect.Reply : Effect → Type
  | .connect _ => Except Refusal Unit
  | .execute _ => Except Fault Nat
  | .countRows _ => Except Fault Nat
  | .closeSession => Except Fault Unit
  | .clock => Nat
  | .pause _ => Unit
  | .readStatus _ _ => Except String String
  | .isFile _ => Bool
  | .pathExists _ => Bool
  | .resolvePath _ => Except String String
  | .readFile _ => Except String String
  | .writeFile _ _ => Except String Unit
  | .makeDirectories _ => Except String Unit
  | .spawn _ _ => Except String Finished
  | .print _ => Except String Unit
  | .complain _ => Except String Unit
  | .note _ => Unit

/-- A program: a value, or a request and a program for each reply. -/
inductive Program (α : Type) where
  | done (value : α)
  | ask (effect : Effect) (next : effect.Reply → Program α)

namespace Program

variable {α β γ : Type}

/-- Goes on with a second program after the first. -/
def bind : Program α → (α → Program β) → Program β
  | .done value, next => next value
  | .ask effect rest, next => .ask effect fun reply => (rest reply).bind next

instance : Monad Program where
  pure := .done
  bind := .bind

/-- The program that makes one request and returns the reply. -/
def request (effect : Effect) : Program effect.Reply :=
  .ask effect .done

def now : Program Nat :=
  request .clock

@[simp] theorem bind_done (value : α) (next : α → Program β) :
    (Program.done value).bind next = next value := rfl

@[simp] theorem bind_ask (effect : Effect) (rest : effect.Reply → Program α)
    (next : α → Program β) :
    (Program.ask effect rest).bind next = .ask effect fun reply => (rest reply).bind next := rfl

theorem bind_done_right (program : Program α) : program.bind .done = program := by
  induction program with
  | done value => rfl
  | ask effect rest induction => simp [induction]

theorem bind_assoc (program : Program α) (next : α → Program β) (last : β → Program γ) :
    (program.bind next).bind last = program.bind fun value => (next value).bind last := by
  induction program with
  | done value => rfl
  | ask effect rest induction => simp [induction]

instance : LawfulMonad Program :=
  LawfulMonad.mk' Program bind_done_right (fun _ _ => rfl) bind_assoc

end Program

structure Event where
  effect : Effect
  reply : effect.Reply

/-- What answers the requests of programs, from a state that each answer may change. -/
structure Environment (σ : Type) where
  answer : (effect : Effect) → σ → effect.Reply × σ

/-- A program that was played to its end. -/
structure Played (σ α : Type) where
  value : α
  events : List Event
  state : σ

namespace Program

variable {σ α β : Type}

/-- The value of a program in an environment, and the state that it leaves. -/
def run (environment : Environment σ) : Program α → σ → α × σ
  | .done value, state => (value, state)
  | .ask effect next, state =>
    let (reply, state) := environment.answer effect state
    (next reply).run environment state

/-- A program played in an environment, with the events in order. -/
def play (environment : Environment σ) : Program α → σ → Played σ α
  | .done value, state => ⟨value, [], state⟩
  | .ask effect next, state =>
    let (reply, state) := environment.answer effect state
    let rest := (next reply).play environment state
    ⟨rest.value, ⟨effect, reply⟩ :: rest.events, rest.state⟩

@[simp] theorem play_done (environment : Environment σ) (value : α) (state : σ) :
    (Program.done value).play environment state = ⟨value, [], state⟩ := rfl

theorem play_bind (environment : Environment σ) (program : Program α) (next : α → Program β)
    (state : σ) :
    (program.bind next).play environment state =
      let first := program.play environment state
      let second := (next first.value).play environment first.state
      ⟨second.value, first.events ++ second.events, second.state⟩ := by
  induction program generalizing state with
  | done value => rfl
  | ask effect rest induction => simp [play, induction]

theorem run_eq_play (environment : Environment σ) (program : Program α) (state : σ) :
    program.run environment state =
      ((program.play environment state).value, (program.play environment state).state) := by
  induction program generalizing state with
  | done value => rfl
  | ask effect rest induction => simp [run, play, induction]

end Program

/-- A program that may end with a fault. -/
abbrev Procedure (α : Type) := ExceptT Fault Program α

namespace Procedure

variable {α : Type}

/-- The procedure whose outcome a program computes. -/
def ofProgram (program : Program (Except Fault α)) : Procedure α :=
  ExceptT.mk program

/-- The procedure of an outcome that is already known. -/
def ofOutcome (outcome : Except Fault α) : Procedure α :=
  ExceptT.mk (pure outcome)

/-- The program of a procedure, which returns its outcome. -/
def outcome (procedure : Procedure α) : Program (Except Fault α) :=
  procedure.run

/-- The procedure of a program whose fault, if it ends with one, is told in other words. -/
def rewording (program : Program (Except Fault α)) (words : String → Fault) : Procedure α :=
  ExceptT.mk do
    match ← program with
    | .ok value => pure (.ok value)
    | .error fault => pure (.error (words fault.message))

/-- The procedure of a request to the operating system, whose refusal becomes a fault. -/
def orFault (program : Program (Except String α)) (words : String → Fault) : Procedure α :=
  ExceptT.mk do
    match ← program with
    | .ok value => pure (.ok value)
    | .error text => pure (.error (words text))

end Procedure

namespace Files

def isFile (path : String) : Program Bool :=
  Program.request (.isFile path)

def pathExists (path : String) : Program Bool :=
  Program.request (.pathExists path)

def resolve (path : String) : Program (Except String String) :=
  Program.request (.resolvePath path)

def read (path : String) : Program (Except String String) :=
  Program.request (.readFile path)

def makeDirectories (path : String) : Program (Except String Unit) :=
  Program.request (.makeDirectories path)

def write (path content : String) : Program (Except String Unit) :=
  Program.request (.writeFile path content)

end Files

namespace Journal

def tell (level : Level) (speaker : Speaker) (message : String) : Program Unit :=
  Program.request (.note ⟨level, speaker, message⟩)

/-- A program that makes only the entries that a filter shows, and is the same otherwise. -/
def Filter.apply {α : Type} (filter : Filter) : Program α → Program α
  | .done value => .done value
  | .ask (.note entry) next =>
    if filter.shows entry then .ask (.note entry) fun reply => filter.apply (next reply)
    else filter.apply (next ())
  | .ask effect next => .ask effect fun reply => filter.apply (next reply)

end Journal

end DecisionBench
