import DecisionBench.Program
import DecisionBench.Text.Alphanumeric
import DecisionBench.Text.Pieces
import DecisionBench.Variables

/-!
# The environment file

A file named `.env`, in the working directory or the nearest one above it, sets variables that are
not set yet.  Each line assigns a value to a name; values may be quoted, go on over several lines
inside quotes, and refer to variables behind a dollar sign.  At a line that is malformed the file
ends, and what stands before it holds.
-/

namespace DecisionBench.EnvironmentFile

def fileName : String := ".env"

/-! ## Lines -/

/-- The lines of a text, each with the line feed that ends it. -/
def physicalLines : List Char → List (List Char)
  | [] => []
  | c :: rest =>
    if c = '\n' then [c] :: physicalLines rest
    else
      match physicalLines rest with
      | [] => [[c]]
      | line :: more => (c :: line) :: more

/-- How an assignment stands at the end of a line. -/
inductive Openness where
  /-- Nothing is open. -/
  | closed
  /-- A blank came last. -/
  | blank
  /-- A backslash came last, outside of quotes. -/
  | escape
  /-- Inside single quotes. -/
  | single
  | singleEscape
  /-- Inside double quotes. -/
  | double
  | doubleEscape
  deriving DecidableEq, Repr

/-- How an assignment stands after one more character; nothing where a comment begins. -/
def Openness.next? (c : Char) : Openness → Option Openness
  | .blank =>
    if c = '#' then none
    else if c = '\\' then some .escape
    else if c = '\x22' then some .double
    else if c = '\x27' then some .single
    else some .closed
  | .closed =>
    if Text.isBlank c && c != '\n' && c != '\r' then some .blank
    else if c = '\\' then some .escape
    else if c = '\x22' then some .double
    else if c = '\x27' then some .single
    else some .closed
  | .escape => some .closed
  | .double =>
    if c = '\\' then some .doubleEscape
    else if c = '\x22' then some .closed
    else some .double
  | .doubleEscape => some .double
  | .single =>
    if c = '\\' then some .singleEscape
    else if c = '\x27' then some .closed
    else some .single
  | .singleEscape => some .single

/-- The part of a line in front of a comment, if there is one, and how the assignment stands behind
the line. -/
def Openness.follow : Openness → List Char → List Char × Openness
  | openness, [] => ([], openness)
  | openness, c :: rest =>
    match openness.next? c with
    | none => ([], .closed)
    | some openness =>
      let (kept, openness) := openness.follow rest
      (c :: kept, openness)

/-- A line without the line feed that ends it, and without the carriage return before that. -/
def withoutEnd (line : List Char) : List Char :=
  if line.getLast? = some '\n' then Text.withoutReturn line.dropLast else line

def isComment (line : List Char) : Bool :=
  (Text.trimStart line).head? == some '#'

/-- The assignments of a list of lines, where the first one continues what is given and open.
Nothing stands for an assignment that is still open at the end. -/
def assignments : List Char → Openness → List (List Char) → List (Option (List Char))
  | _, openness, [] => if openness = .closed then [] else [none]
  | begun, openness, line :: rest =>
    if isComment (begun ++ line) then assignments [] .closed rest
    else
      let (kept, openness) := openness.follow line
      if openness = .closed then
        some (withoutEnd (begun ++ kept)) :: assignments [] .closed rest
      else assignments (begun ++ kept) openness rest

/-! ## Values -/

/-- Where the reading of a value stands. -/
inductive Mode where
  | plain
  /-- Behind the value: only blanks and a comment may follow. -/
  | ending
  | escaped
  /-- Inside single quotes. -/
  | single
  /-- Inside the name of a variable, which is read so far. -/
  | name (read : List Char)
  /-- Inside the name of a variable in braces, which is read so far. -/
  | braced (read : List Char)
  deriving DecidableEq, Repr

/-- The character that a backslash and a character write. -/
def escaped? (c : Char) : Option Char :=
  if c = 'n' then some '\n'
  else if ['\\', '\x27', '\x22', '$', ' '].contains c then some c
  else none

def expansion (known : Variables) (read : List Char) : List Char :=
  ((known.get? (String.ofList read.reverse)).getD "").toList

/-- What the end of the text makes of a value. -/
def closing (known : Variables) (inDouble : Bool) : Mode → Option (List Char)
  | .single => none
  | .braced _ => none
  | .name read => if inDouble then none else some (expansion known read)
  | _ => if inDouble then none else some []

/-- The value that the rest of a text writes.  A variable without braces takes the character that
ends its name as it stands, also where that is a quote. -/
def value? (known : Variables) : Mode → Bool → List Char → Option (List Char)
  | mode, inDouble, [] => closing known inDouble mode
  | .ending, inDouble, c :: rest =>
    if c = ' ' ∨ c = '\t' then value? known .ending inDouble rest
    else if c = '#' then some []
    else none
  | .escaped, inDouble, c :: rest =>
    match escaped? c with
    | some written => (value? known .plain inDouble rest).map (written :: ·)
    | none => none
  | .single, inDouble, c :: rest =>
    if c = '\x27' then value? known .plain inDouble rest
    else (value? known .single inDouble rest).map (c :: ·)
  | .name read, inDouble, c :: rest =>
    if Text.isAlphanumeric c then value? known (.name (c :: read)) inDouble rest
    else if c = '\x7b' ∧ read.isEmpty then value? known (.braced []) inDouble rest
    else
      let written := expansion known read
      if c = '$' then (value? known (.name []) inDouble rest).map (written ++ ·)
      else (value? known .plain inDouble rest).map (written ++ c :: ·)
  | .braced read, inDouble, c :: rest =>
    if c = '\x7d' then
      (value? known .plain inDouble rest).map (expansion known read ++ ·)
    else value? known (.braced (c :: read)) inDouble rest
  | .plain, inDouble, c :: rest =>
    if c = '$' then value? known (.name []) inDouble rest
    else if c = '\\' then value? known .escaped inDouble rest
    else if c = '\x22' then value? known .plain (!inDouble) rest
    else if inDouble then (value? known .plain inDouble rest).map (c :: ·)
    else if c = '\x27' then value? known .single inDouble rest
    else if c = ' ' ∨ c = '\t' then value? known .ending inDouble rest
    else (value? known .plain inDouble rest).map (c :: ·)

/-! ## Assignments -/

def name? (text : List Char) : Option (List Char × List Char) :=
  match text with
  | c :: _ =>
    if c.isAlpha || c == '_' then
      let belongs (c : Char) : Bool := c.isAlphanum || c == '_' || c == '.'
      some (text.takeWhile belongs, text.dropWhile belongs)
    else none
  | [] => none

/-- What follows an equals sign, with blanks around it. -/
def afterEquals? (text : List Char) : Option (List Char) :=
  match Text.trimStart text with
  | '=' :: rest => some (Text.trimStart rest)
  | _ => none

/-- The name at the front of an assignment and the text of the value.  The word `export` in front of
the name is passed over. -/
def parts? (text : List Char) : Option (List Char × List Char) := do
  let (name, rest) ← name? text
  if name = "export".toList then
    match afterEquals? rest with
    | some value => some (name, value)
    | none => do
      let (name, rest) ← name? (Text.trimStart rest)
      let value ← afterEquals? rest
      some (name, value)
  else
    let value ← afterEquals? rest
    some (name, value)

/-- The name and the value that an assignment gives; a blank one gives nothing. -/
def assignment? (known : Variables) (text : List Char) :
    Option (Option (String × String)) :=
  let text := Text.trim text
  if text.isEmpty || isComment text then some none
  else do
    let (name, written) ← parts? text
    if isComment written then some (some (String.ofList name, ""))
    else
      let value ← value? known .plain false written
      some (some (String.ofList name, String.ofList value))

/-- Offers the values of assignments one after the other, up to one that is malformed, and tells
whether there is none. -/
def offerAll : Variables → List (Option (List Char)) → Variables × Bool
  | known, [] => (known, true)
  | known, none :: _ => (known, false)
  | known, some text :: rest =>
    match assignment? known text with
    | none => (known, false)
    | some none => offerAll known rest
    | some (some (name, value)) => offerAll (known.offer name value) rest

def withoutMark : List Char → List Char
  | c :: rest => if c.toNat = 0xFEFF then rest else c :: rest
  | [] => []

/-- The variables after a file was read, and whether all of it was well-formed. -/
def apply (content : String) (known : Variables) : Variables × Bool :=
  offerAll known (assignments [] .closed (physicalLines (withoutMark content.toList)))

/-! ## Finding the file -/

/-- A directory and the ones above it, as lists of names, innermost name first. -/
def upwards : List (List Char) → List (List (List Char))
  | [] => [[]]
  | name :: rest => (name :: rest) :: upwards rest

/-- The path of a directory that is given by its names, innermost first, with a slash behind it. -/
def directoryPath (names : List (List Char)) : String :=
  String.ofList ('/' :: names.reverse.flatMap fun name => name ++ ['/'])

/-- The path of the file in each of the directories from one upwards. -/
def candidates (directory : String) : List String :=
  let names := (Text.pieces (· == '/') directory.toList).filter (! ·.isEmpty)
  (upwards names.reverse).map fun names => directoryPath names ++ fileName

/-- The first of some paths that leads to a file. -/
def firstFile : List String → Program (Option String)
  | [] => pure none
  | path :: rest => do
    if ← Files.isFile path then return some path else firstFile rest

/-- Reads the environment file.  The path is returned if all of the file was well-formed. -/
def load (known : Variables) : Program (Variables × Option String) := do
  match ← Files.resolve "." with
  | .error _ => return (known, none)
  | .ok directory =>
    match ← firstFile (candidates directory) with
    | none => return (known, none)
    | some path =>
      match ← Files.read path with
      | .error _ => return (known, none)
      | .ok content =>
        let (known, wellFormed) := apply content known
        return (known, if wellFormed then some path else none)

end DecisionBench.EnvironmentFile
