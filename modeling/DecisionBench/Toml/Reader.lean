import DecisionBench.Toml.Scalar

/-!
# Reading TOML values

Arrays and inline tables hold values, which may be nested to a fixed depth.  A key of several parts
inside an inline table makes tables on the way; such tables may grow by more keys, and all others
are closed.
-/

namespace DecisionBench.Toml

/-- Arrays and inline tables are nested less deeply than this, and a key has fewer parts. -/
def depthLimit : Nat := 80

/-- A key with fewer parts than the limit. -/
def limitedKey? (text : List Char) : Option (List String × List Char) :=
  key? (depthLimit - 1) text

/-- An inline table while it is read: a value, or a table made by a key of several parts. -/
inductive Growing where
  | closed (value : Value)
  | dotted (entries : List (String × Growing))

/-- The value that a growing table has come to.  Nesting is bounded by the number of parts of keys
and is counted down by the first argument. -/
def Growing.settle : Nat → Growing → Value
  | _, .closed value => value
  | 0, .dotted _ => .table []
  | depth + 1, .dotted entries =>
    .table (entries.map fun entry => (entry.1, entry.2.settle depth))

/-- Entries with one more value behind a key of several parts.  A part on the way must be a table
that such a key made, and the last part must be new. -/
def insertDotted (value : Value) :
    List String → List (String × Growing) → Option (List (String × Growing))
  | [], _ => none
  | [key], entries =>
    match lookup? key entries with
    | none => some (store key (.closed value) entries)
    | some _ => none
  | key :: path, entries =>
    match lookup? key entries with
    | none =>
      (insertDotted value path []).map fun inner => store key (.dotted inner) entries
    | some (.dotted inner) =>
      (insertDotted value path inner).map fun inner => store key (.dotted inner) entries
    | some (.closed _) => none

/-- The items of an array from one on, up to the closing bracket.  The second argument bounds their
number. -/
def items? (item? : List Char → Option (Value × List Char)) :
    Nat → List Char → Option (List Value × List Char)
  | 0, _ => none
  | fuel + 1, text =>
    match skipLines text.length text with
    | ']' :: after => some ([], after)
    | start =>
      match item? start with
      | none => none
      | some (value, rest) =>
        match skipLines rest.length rest with
        | ',' :: more =>
          (items? item? fuel more).map fun (values, after) => (value :: values, after)
        | ']' :: after => some ([value], after)
        | _ => none

/-- The entries of an inline table from one on, up to the closing brace, added to those already
read. -/
def entries? (value? : List Char → Option (Value × List Char)) :
    Nat → List (String × Growing) → List Char → Option (List (String × Growing) × List Char)
  | 0, _, _ => none
  | fuel + 1, read, text =>
    match limitedKey? text with
    | none => none
    | some (path, rest) =>
      match rest with
      | '=' :: rest =>
        match value? (skipBlanks rest) with
        | none => none
        | some (value, rest) =>
          match insertDotted value path read with
          | none => none
          | some read =>
            match skipBlanks rest with
            | ',' :: more => entries? value? fuel read more
            | '\x7d' :: after => some (read, after)
            | _ => none
      | _ => none

/-- A value, of a nesting below the first argument. -/
def value? : Nat → List Char → Option (Value × List Char)
  | 0, _ => none
  | depth + 1, text =>
    match text with
    | [] => none
    | c :: rest =>
      if c = '\x22' ∨ c = '\x27' then
        (string? text).map fun (content, after) => (.text content, after)
      else if c = '[' ∧ 0 < depth then
        (items? (value? depth) (rest.length + 1) rest).map
          fun (values, after) => (.array values, after)
      else if c = '\x7b' ∧ 0 < depth then
        match skipBlanks rest with
        | '\x7d' :: after => some (.table [], after)
        | start =>
          (entries? (value? depth) (rest.length + 1) [] start).map
            fun (entries, after) =>
              ((Growing.dotted entries).settle (depthLimit + 1), after)
      else if c = '+' ∨ c = '-' ∨ c.isDigit then number? text
      else
        match text with
        | 't' :: 'r' :: 'u' :: 'e' :: after => some (.boolean true, after)
        | 'f' :: 'a' :: 'l' :: 's' :: 'e' :: after => some (.boolean false, after)
        | 'i' :: 'n' :: 'f' :: after => some (.fractional, after)
        | 'n' :: 'a' :: 'n' :: after => some (.fractional, after)
        | _ => none

end DecisionBench.Toml
