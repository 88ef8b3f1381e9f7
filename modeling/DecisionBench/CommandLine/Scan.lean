import DecisionBench.CommandLine.Parameter

/-!
# Scanning the command line

The arguments at one place of the command line are scanned from left to right.  An argument is a
parameter, a group of letters, the value that a parameter waits for, or a subcommand, which ends the
scan.  A parameter is settled, that is, its value is checked and kept, when the next one begins or
the arguments end.

`Given.settle` is the only way to keep a value, so that every kept value has the form of its
parameter.
-/

namespace DecisionBench.CommandLine

/-- The parameters that were given, by name, with their values. -/
structure Given where
  entries : List (String × List Value)
  deriving DecidableEq, Repr

namespace Given

def nothing : Given := ⟨[]⟩

def has (given : Given) (name : String) : Bool :=
  given.entries.any fun entry => entry.1 == name

/-- The values of a parameter, from all times that it is given. -/
def values (given : Given) (name : String) : List Value :=
  (given.entries.filter fun entry => entry.1 == name).flatMap Prod.snd

/-- Keeps values for a parameter. -/
def keep (given : Given) (name : String) (values : List Value) : Given :=
  ⟨given.entries ++ [(name, values)]⟩

/-- The texts between the commas of a text. -/
def commaSeparated (text : String) : List String :=
  (Text.pieces (· == ',') text.toList).map String.ofList

/-- The values of texts, unless one has none. -/
def readAll (form : Form) : List String → Except Stop (List Value)
  | [] => .ok []
  | text :: rest => do
    let value ← form.read text
    return value :: (← readAll form rest)

/-- Settles a parameter with the text that was given for it.  A missing text is reported first, then
a repeated parameter, then a value that is not of the form. -/
def settle (given : Given) (parameter : Parameter) (text : Option String) :
    Except Stop Given :=
  match parameter.manner, text with
  | .help, _ => .error .help
  | .version, _ => .error .version
  | .switch, _ =>
    if given.has parameter.name then .error .conflict
    else .ok (given.keep parameter.name [])
  | .single _, none => .error .invalidValue
  | .single form, some text =>
    if given.has parameter.name then .error .conflict
    else do
      let value ← form.read text
      return given.keep parameter.name [value]
  | .several _, none => .error .invalidValue
  | .several form, some text => do
    let values ← readAll form (commaSeparated text)
    return given.keep parameter.name values

def text? (given : Given) (name : String) : Option String :=
  (given.values name).findSome? fun
    | .text content => some content
    | _ => none

def texts (given : Given) (name : String) : List String :=
  (given.values name).filterMap fun
    | .text content => some content
    | _ => none

def integer? (given : Given) (name : String) : Option Int :=
  (given.values name).findSome? fun
    | .integer number => some number
    | _ => none

def natural? (given : Given) (name : String) : Option Nat :=
  (given.integer? name).map Int.toNat

def real? (given : Given) (name : String) : Option Binary64 :=
  (given.values name).findSome? fun
    | .real number => some number
    | _ => none

def truth? (given : Given) (name : String) : Option Bool :=
  (given.values name).findSome? fun
    | .truth value => some value
    | _ => none

/-- The tables of a parameter. -/
def tables (given : Given) (name : String) : List Table :=
  (given.values name).filterMap fun
    | .table table => some table
    | _ => none

end Given

/-- A parameter that is not settled yet, with its value if that has come. -/
structure Pending where
  parameter : Parameter
  text : Option String
  deriving DecidableEq, Repr

/-- The state of a scan. -/
structure Scan where
  given : Given
  pending : Option Pending
  /-- Whether only values may follow. -/
  trailing : Bool
  deriving DecidableEq, Repr

namespace Scan

/-- The state before the first argument. -/
def start : Scan :=
  ⟨.nothing, none, false⟩

/-- The parameter that waits for its value. -/
def awaiting? (scan : Scan) : Option Parameter :=
  match scan.pending with
  | some ⟨parameter, none⟩ => some parameter
  | _ => none

/-- Settles the pending parameter. -/
def settle (scan : Scan) : Except Stop Scan :=
  match scan.pending with
  | none => .ok scan
  | some pending => do
    let given ← scan.given.settle pending.parameter pending.text
    return { scan with given, pending := none }

/-- Settles the pending parameter and then one that is complete. -/
def complete (scan : Scan) (parameter : Parameter) (text : Option String) :
    Except Stop Scan := do
  let scan ← scan.settle
  let given ← scan.given.settle parameter text
  return { scan with given }

/-- Settles the pending parameter and lets another one wait for its value. -/
def await (scan : Scan) (parameter : Parameter) : Except Stop Scan := do
  let scan ← scan.settle
  return { scan with pending := some ⟨parameter, none⟩ }

/-- Scans what stands behind two hyphens: a name, and perhaps a value behind an equals sign. -/
def long (vocabulary : Vocabulary) (scan : Scan) (body : List Char) : Except Stop Scan :=
  let name := String.ofList (body.takeWhile (· != '='))
  let attached := match body.dropWhile (· != '=') with
    | [] => none
    | _ :: value => some (String.ofList value)
  match vocabulary.named? name with
  | none => .error .unknownArgument
  | some parameter =>
    match parameter.takesValue, attached with
    | true, some text => scan.complete parameter (some text)
    | true, none => scan.await parameter
    | false, some _ => .error .needlessValue
    | false, none => scan.complete parameter none

/-- A value that is attached to a letter, perhaps behind an equals sign. -/
def attachedToLetter : List Char → String
  | '=' :: value => String.ofList value
  | value => String.ofList value

/-- Scans what stands behind one hyphen: letters of switches, up to one of a parameter whose value
is the rest. -/
def letters (vocabulary : Vocabulary) : Scan → List Char → Except Stop Scan
  | scan, [] => .ok scan
  | scan, letter :: rest =>
    match vocabulary.lettered? letter with
    | none => .error .unknownArgument
    | some parameter =>
      if parameter.takesValue then
        if rest.isEmpty then scan.await parameter
        else scan.complete parameter (some (attachedToLetter rest))
      else do
        let scan ← scan.complete parameter none
        letters vocabulary scan rest

/-- Whether a text has the look of a number: digits, with a point somewhere behind the first, and
an exponent mark behind the first that digits follow.  The arguments tell whether the text has begun
and whether a point or a mark was seen. -/
def looksNumeric (begun point mark : Bool) : List Char → Bool
  | [] => true
  | c :: rest =>
    if c.isDigit then looksNumeric true point mark rest
    else if c = '.' then begun && !point && !mark && looksNumeric true true mark rest
    else if c = 'e' ∨ c = 'E' then
      begun && !mark && !rest.isEmpty && looksNumeric true point true rest
    else false

/-- Whether the text behind a hyphen is the rest of a negative number that a parameter waits for. -/
def awaitsNegative (scan : Scan) (body : List Char) : Bool :=
  match scan.awaiting? with
  | some parameter => parameter.allowsNegative && looksNumeric false false false body
  | none => false

/-- What is wrong with an argument that has no place. -/
def stray (vocabulary : Vocabulary) (scan : Scan) (argument : List Char) : Stop :=
  if vocabulary.hasSubcommands then
    if scan.trailing && (vocabulary.keyword? (String.ofList argument)).isSome then .unknownArgument
    else .unknownSubcommand
  else .unknownArgument

/-- Scans an argument as a value. -/
def value (vocabulary : Vocabulary) (scan : Scan) (argument : List Char) : Except Stop Scan :=
  match scan.awaiting? with
  | some parameter =>
    .ok { scan with pending := some ⟨parameter, some (String.ofList argument)⟩ }
  | none => .error (stray vocabulary scan argument)

/-- Scans one argument that is no subcommand. -/
def step (vocabulary : Vocabulary) (scan : Scan) (argument : List Char) : Except Stop Scan :=
  if scan.trailing then .error (stray vocabulary scan argument)
  else
    match argument with
    | ['-'] => scan.value vocabulary argument
    | ['-', '-'] => .ok { scan with trailing := true }
    | '-' :: '-' :: body => scan.long vocabulary body
    | '-' :: body =>
      if scan.awaitsNegative body then scan.value vocabulary argument
      else scan.letters vocabulary body
    | _ => scan.value vocabulary argument

/-- The subcommand that an argument names at this point. -/
def keyword? (vocabulary : Vocabulary) (scan : Scan) (argument : String) : Option Keyword :=
  if scan.trailing || scan.awaiting?.isSome then none else vocabulary.keyword? argument

/-- Scans arguments up to their end, or to a subcommand, which is returned with the arguments behind
it. -/
def run (vocabulary : Vocabulary) :
    Scan → List String → Except Stop (Scan × Option (Keyword × List String))
  | scan, [] => .ok (scan, none)
  | scan, argument :: rest =>
    match scan.keyword? vocabulary argument with
    | some keyword => .ok (scan, some (keyword, rest))
    | none => do
      let scan ← scan.step vocabulary argument.toList
      run vocabulary scan rest

end Scan

end DecisionBench.CommandLine
