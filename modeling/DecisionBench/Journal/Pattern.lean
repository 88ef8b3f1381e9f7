import DecisionBench.Text.Alphanumeric
import DecisionBench.Text.Blank
import DecisionBench.Text.Numeral

/-!
# Patterns of field values

A filter may compare a field with a regular expression.  No field that is compared occurs in the
journal, so all that matters of a pattern is whether it is well-formed: `isPattern` recognizes those
that are.  The text of a pattern holds no closing brace, so that a repetition in braces is never
complete.  Classes and cases beyond ASCII are not known; what would need them is refused.
-/

namespace DecisionBench.Journal.Pattern

/-- How a part of a pattern is read. -/
structure Mode where
  /-- The case of letters does not matter. -/
  folded : Bool
  /-- Blanks and comments have no meaning. -/
  spaced : Bool
  /-- The pattern speaks of octets rather than characters. -/
  octets : Bool
  deriving DecidableEq, Repr

def Mode.plain : Mode := ⟨false, false, false⟩

/-- What follows blanks and comments, where these have no meaning.  The first argument bounds their
number. -/
def skipBlanks : Nat → List Char → List Char
  | 0, text => text
  | fuel + 1, text =>
    match Text.trimStart text with
    | '#' :: rest => skipBlanks fuel (rest.dropWhile (· != '\n'))
    | rest => rest

/-- The next part of a pattern that has a meaning. -/
def Mode.skip (mode : Mode) (text : List Char) : List Char :=
  if mode.spaced then skipBlanks text.length text else text

/-! ## Escapes -/

/-- What a backslash and the characters behind it mean. -/
inductive Escape where
  | letter (code : Nat)
  /-- A class of characters. -/
  | family
  /-- A place between characters. -/
  | place
  deriving DecidableEq, Repr

/-- The characters that have a meaning of their own in a pattern. -/
def isMeta (c : Char) : Bool :=
  ['\\', '.', '+', '*', '?', '(', ')', '|', '[', ']', '\x7b', '\x7d', '^', '$', '#', '&', '-',
    '~'].contains c

/-- Whether a backslash takes the meaning of a character away: the marks of ASCII, apart from the
two that have a meaning with it. -/
def isEscapable (c : Char) : Bool :=
  isMeta c || (c.toNat < 0x80 && !c.isAlphanum && c != '<' && c != '>')

/-- A number of so many hexadecimal digits, and what follows. -/
def hexNumber? (mode : Mode) : Nat → Nat → List Char → Option (Nat × List Char)
  | 0, value, text => some (value, text)
  | count + 1, value, text =>
    match mode.skip text with
    | c :: rest => (Numeral.hexDigit? c).bind fun d => hexNumber? mode count (16 * value + d) rest
    | [] => none

/-- The character of a number in so many hexadecimal digits, and what follows. -/
def numbered? (mode : Mode) (count : Nat) (text : List Char) : Option (Escape × List Char) :=
  (hexNumber? mode count 0 text).bind fun (value, rest) =>
    if count = 2 ∧ mode.octets ∧ 0x80 ≤ value then none
    else if value.isValidChar then some (.letter value, rest)
    else none

/-- The meaning of what follows a backslash, and the rest behind it. -/
def escape? (mode : Mode) : List Char → Option (Escape × List Char)
  | [] => none
  | c :: rest =>
    if isEscapable c then some (.letter c.toNat, rest)
    else if c = 'x' then numbered? mode 2 rest
    else if c = 'u' then numbered? mode 4 rest
    else if c = 'U' then numbered? mode 8 rest
    else if c = 'a' then some (.letter 0x07, rest)
    else if c = 'f' then some (.letter 0x0C, rest)
    else if c = 't' then some (.letter 0x09, rest)
    else if c = 'n' then some (.letter 0x0A, rest)
    else if c = 'r' then some (.letter 0x0D, rest)
    else if c = 'v' then some (.letter 0x0B, rest)
    else if c = 'A' ∨ c = 'z' then some (.place, rest)
    else if !mode.octets then none
    else if ['d', 's', 'w'].contains c then some (.family, rest)
    else if ['b', 'B', '<', '>'].contains c then some (.place, rest)
    else none

/-! ## Classes -/

/-- The names of the classes of ASCII. -/
def classNames : List String :=
  ["alnum", "alpha", "ascii", "blank", "cntrl", "digit", "graph", "lower", "print", "punct",
   "space", "upper", "word", "xdigit"]

/-- What follows a class of ASCII by its name, from behind its opening bracket on. -/
def namedClass? : List Char → Option (List Char)
  | ':' :: rest =>
    let rest := match rest with
      | '^' :: rest => rest
      | rest => rest
    match rest.dropWhile (· != ':') with
    | ':' :: ']' :: after =>
      if classNames.contains (String.ofList (rest.takeWhile (· != ':'))) then some after else none
    | _ => none
  | _ => none

/-- One member of a class, or an end of a range, and what follows. -/
def member? (mode : Mode) : List Char → Option (Escape × List Char)
  | '\\' :: rest => escape? mode rest
  | c :: rest => if mode.octets && 0x80 ≤ c.toNat then none else some (.letter c.toNat, rest)
  | [] => none

/-- What follows a member of a class or a range, whose ends stand in their order. -/
def range? (mode : Mode) (text : List Char) : Option (List Char) :=
  (member? mode text).bind fun (first, rest) =>
    match mode.skip rest with
    | [] => none
    | '-' :: after =>
      match mode.skip after, first with
      | ']' :: _, .place => none
      | ']' :: _, _ => some ('-' :: after)
      | '-' :: _, .place => none
      | '-' :: _, _ => some ('-' :: after)
      | after, .letter low =>
        (member? mode after).bind fun (last, rest) =>
          match last with
          | .letter high => if low ≤ high then some rest else none
          | _ => none
      | _, _ => none
    | rest => if first = .place then none else some rest

/-- What follows the marks at the front of a class: a circumflex, and hyphens or else a closing
bracket, which stand for themselves there. -/
def classFront? (mode : Mode) (text : List Char) : Option (List Char) :=
  let text := mode.skip text
  let front (text : List Char) : List Char :=
    match text with
    | ']' :: rest => rest
    | '-' :: _ =>
      if mode.spaced then text.dropWhile fun c => c == '-' || Text.isBlank c
      else text.dropWhile (· == '-')
    | _ => text
  match text with
  | '^' :: rest => if mode.octets then none else some (front (mode.skip rest))
  | _ => some (front text)

/-- What follows a class, from inside of it, where so many are open.  The first argument bounds the
number of steps. -/
def classRest? (mode : Mode) : Nat → Nat → List Char → Option (List Char)
  | 0, _, _ => none
  | fuel + 1, depth, text =>
    match mode.skip text with
    | [] => none
    | '[' :: rest =>
      match namedClass? rest with
      | some after => classRest? mode fuel depth after
      | none => (classFront? mode rest).bind (classRest? mode fuel (depth + 1))
    | ']' :: rest => if depth ≤ 1 then some rest else classRest? mode fuel (depth - 1) rest
    | '&' :: '&' :: rest => classRest? mode fuel depth rest
    | '-' :: '-' :: rest => classRest? mode fuel depth rest
    | '~' :: '~' :: rest => classRest? mode fuel depth rest
    | text => (range? mode text).bind (classRest? mode fuel depth)

/-- What follows a class, from behind its opening bracket on. -/
def bracketed? (mode : Mode) (text : List Char) : Option (List Char) :=
  if mode.folded && !mode.octets then none
  else (classFront? mode text).bind (classRest? mode (text.length + 1) 1)

/-! ## Groups -/

def isFlag (c : Char) : Bool :=
  ['i', 'm', 's', 'U', 'u', 'R', 'x'].contains c

/-- The mode after a flag was set or taken back. -/
def Mode.withFlag (mode : Mode) (set : Bool) (c : Char) : Mode :=
  if c = 'i' then { mode with folded := set }
  else if c = 'x' then { mode with spaced := set }
  else if c = 'u' then { mode with octets := !set }
  else mode

/-- The mode that flags set; a hyphen takes back those behind it, and none stands twice. -/
def flags? (mode : Mode) (seen : List Char) : List Char → Option Mode
  | [] => if seen.head? = some '-' then none else some mode
  | c :: rest =>
    if seen.contains c then none
    else if c = '-' then flags? mode ('-' :: seen) rest
    else if isFlag c then flags? (mode.withFlag (!seen.contains '-') c) (c :: seen) rest
    else none

def isGroupName : List Char → Bool
  | [] => false
  | c :: rest =>
    (c == '_' || (Text.isAlphanumeric c && !c.isDigit)) &&
      rest.all fun c => c == '_' || c == '.' || c == '[' || c == ']' || Text.isAlphanumeric c

/-- How a group begins. -/
inductive Opening where
  /-- A group, which may have a name. -/
  | group (name : Option (List Char)) (mode : Mode)
  /-- Flags for what follows them. -/
  | flags (mode : Mode)
  deriving DecidableEq, Repr

/-- A group with a name, and what follows the name. -/
def named? (mode : Mode) (text : List Char) : Option (Opening × List Char) :=
  let name := text.takeWhile (· != '>')
  match text.dropWhile (· != '>') with
  | _ :: rest => if isGroupName name then some (.group (some name) mode, rest) else none
  | [] => none

/-- The beginning of a group behind its parenthesis, and what follows it. -/
def opening? (mode : Mode) (text : List Char) : Option (Opening × List Char) :=
  match mode.skip text with
  | '?' :: 'P' :: '<' :: rest => named? mode rest
  | '?' :: '<' :: rest => named? mode rest
  | '?' :: rest =>
    let written := rest.takeWhile fun c => c != ':' && c != ')'
    match rest.dropWhile fun c => c != ':' && c != ')' with
    | ':' :: after => (flags? mode [] written).map fun mode => (.group none mode, after)
    | ')' :: after =>
      if written.isEmpty then none
      else (flags? mode [] written).map fun mode => (.flags mode, after)
    | _ => none
  | rest => some (.group none mode, rest)

/-! ## Patterns -/

/-- Whether a character may stand for itself in a pattern. -/
def mayStand (mode : Mode) (code : Nat) : Bool :=
  !mode.folded || (mode.octets && code < 0x80)

/-- Whether the rest of a pattern is well-formed.  The first argument bounds the number of steps;
`above` holds the modes around the groups that are open, `names` the names of groups so far, and
`full` tells whether something stands before that may be repeated. -/
def isRest : Nat → Mode → List Mode → List (List Char) → Bool → List Char → Bool
  | 0, _, _, _, _, _ => false
  | fuel + 1, mode, above, names, full, text =>
    match mode.skip text with
    | [] => above.isEmpty
    | '(' :: rest =>
      match opening? mode rest with
      | some (.group none inner, rest) => isRest fuel inner (mode :: above) names false rest
      | some (.group (some name) inner, rest) =>
        !names.contains name && isRest fuel inner (mode :: above) (name :: names) false rest
      | some (.flags mode, rest) => isRest fuel mode above names false rest
      | none => false
    | ')' :: rest =>
      match above with
      | mode :: above => isRest fuel mode above names true rest
      | [] => false
    | '|' :: rest => isRest fuel mode above names false rest
    | '[' :: rest =>
      match bracketed? mode rest with
      | some rest => isRest fuel mode above names true rest
      | none => false
    | '\\' :: rest =>
      match escape? mode rest with
      | some (.letter code, rest) => mayStand mode code && isRest fuel mode above names true rest
      | some (_, rest) => isRest fuel mode above names true rest
      | none => false
    | c :: rest =>
      if c = '*' ∨ c = '+' ∨ c = '?' then full && isRest fuel mode above names true rest
      else if c = '\x7b' then false
      else if c = '.' then !mode.octets && isRest fuel mode above names true rest
      else if c = '^' ∨ c = '$' then isRest fuel mode above names true rest
      else mayStand mode c.toNat && isRest fuel mode above names true rest

end DecisionBench.Journal.Pattern

namespace DecisionBench.Journal

/-- Whether a text is a well-formed pattern. -/
def isPattern (text : List Char) : Bool :=
  Pattern.isRest (text.length + 1) .plain [] [] false text

end DecisionBench.Journal
