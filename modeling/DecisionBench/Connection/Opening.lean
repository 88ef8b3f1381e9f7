import DecisionBench.Connection.Settings
import DecisionBench.Session

/-!
# Opening a session

A session is opened in up to three attempts.  Only a failure that may pass, such as a lost
connection, is worth another attempt; each is followed by a longer wait.  A new session commits
every statement on its own.
-/

namespace DecisionBench.Opening

def attempts : Nat := 3

/-- The milliseconds between the first attempt and the second. -/
def firstDelay : Nat := 500

/-- A text with lower-case letters instead of capital ones: those of ASCII, and the two others whose
lower case has a letter of ASCII. -/
def lowered (text : String) : List Char :=
  text.toList.flatMap fun c =>
    if c.toNat = 0x130 then ['i', Char.ofNat 0x307]
    else if c.toNat = 0x212A then ['k']
    else [c.toLower]

/-- Whether a refusal has one of some phrases. -/
def mentions (refusal : Refusal) (phrases : List String) : Bool :=
  phrases.any fun phrase => Text.occurs phrase.toList (lowered refusal.text)

/-- Whether a refusal may pass: a failure of the transport, or a text that tells of one, unless it
tells of wrong credentials, a wrong database or encryption. -/
def isTransient (refusal : Refusal) : Bool :=
  refusal.isTransport ||
    (!mentions refusal ["access denied", "unknown database", "ssl", "tls"] &&
      mentions refusal ["connection refused", "timed out", "temporarily unavailable",
        "connection reset", "broken pipe", "too many connections"])

def explain (address : Address) (refusal : Refusal) : Fault :=
  let place := address.host ++ ":" ++ toString address.port
  ⟨.connection,
    if mentions refusal ["connection refused"] then
      "Cannot connect to " ++ place ++ ". Check that the server is running."
    else if mentions refusal ["access denied"] then
      "Access denied for user '" ++ address.user ++ "'. Check your credentials."
    else if mentions refusal ["unknown database"] then
      "Database '" ++ address.database ++
        "' does not exist. Create it before running tpch-mysql."
    else if mentions refusal ["timed out", "timeout"] then
      "Connection to " ++ place ++
        " timed out. The server may be overloaded or unreachable."
    else refusal.text⟩

/-- A wait in words: in milliseconds below a second, else in seconds. -/
def delayText (millis : Nat) : String :=
  if millis < 1000 then toString millis ++ "ms"
  else if millis % 1000 = 0 then toString (millis / 1000) ++ "s"
  else
    let fraction := (Numeral.padded 3 (millis % 1000)).reverse.dropWhile (· == '0')
    toString (millis / 1000) ++ "." ++ String.ofList fraction.reverse ++ "s"

/-- Makes every statement of a new session commit on its own. -/
def prepare : Procedure Unit := do
  let _ ← Procedure.rewording (Session.execute "SET autocommit = 1") (⟨.connection, ·⟩)

/-- The attempt with a number, of which `left` more may follow, and the wait after it. -/
def attempt (address : Address) : Nat → Nat → Nat → Program (Except Fault Unit)
  | left, number, delay => do
    Journal.tell .detail .server
      ("Connection attempt " ++ toString number ++ " of " ++ toString attempts)
    match ← Program.request (.connect address) with
    | .ok _ =>
      Journal.tell .detail .server ("Connected to " ++ address.display)
      prepare.outcome
    | .error refusal =>
      match left with
      | 0 => pure (.error (explain address refusal))
      | left + 1 =>
        if isTransient refusal then
          Journal.tell .warning .server
            ("Connection attempt " ++ toString number ++
              " failed (transient error), retrying in " ++ delayText delay)
          Program.request (.pause delay)
          attempt address left (number + 1) (2 * delay)
        else pure (.error (explain address refusal))

def run (address : Address) : Procedure Lease := do
  Journal.tell .information .session ("Connecting to " ++ address.display)
  Procedure.ofProgram (attempt address (attempts - 1) 1 firstDelay)
  return .held

end DecisionBench.Opening
