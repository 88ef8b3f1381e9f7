import DecisionBench.Text.Numeral

/-!
# Blanks, keys and strings of TOML

The small parts of a document.  A reader takes a list of characters and returns what it read with
the characters that follow, or nothing if the text breaks a rule.
-/

namespace DecisionBench.Toml

def isBlank (c : Char) : Bool :=
  c == ' ' || c == '\t'

def skipBlanks (text : List Char) : List Char :=
  text.dropWhile isBlank

/-- A character that may stand in a comment or a string: no control except the tab. -/
def isTextual (c : Char) : Bool :=
  c == '\t' || (0x20 ≤ c.toNat && c.toNat != 0x7F)

/-- What follows a line end, which is a line feed with or without a carriage return in front. -/
def afterNewline? : List Char → Option (List Char)
  | '\n' :: rest => some rest
  | '\r' :: '\n' :: rest => some rest
  | _ => none

/-- What follows a line end or the end of the text. -/
def afterLineEnd? : List Char → Option (List Char)
  | [] => some []
  | text => afterNewline? text

/-- A text without the comment at its front, if there is one. -/
def skipComment : List Char → List Char
  | '#' :: rest => rest.dropWhile isTextual
  | text => text

/-- What follows the rest of a line that may only hold blanks and a comment. -/
def afterLine? (text : List Char) : Option (List Char) :=
  afterLineEnd? (skipComment (skipBlanks text))

/-- Skips blanks, comments and line ends between the items of an array.  The first argument bounds
the number of lines. -/
def skipLines : Nat → List Char → List Char
  | 0, text => text
  | fuel + 1, text =>
    let rest := skipComment (skipBlanks text)
    match afterNewline? rest with
    | some after => skipLines fuel after
    | none => rest

/-- A character of a key without quotes. -/
def isBareKeyChar (c : Char) : Bool :=
  c.isAlphanum || c == '-' || c == '_'

/-- The character with a code point written in so many hexadecimal digits. -/
def codePoint? (count : Nat) (text : List Char) : Option (Char × List Char) :=
  let digits := text.take count
  if digits.length < count then none
  else
    let value := digits.foldl
      (fun value c =>
        match value, Numeral.hexDigit? c with
        | some value, some d => some (16 * value + d)
        | _, _ => none)
      (some 0)
    match value with
    | some n =>
      if n < 0xD800 ∨ (0xE000 ≤ n ∧ n < 0x110000) then some (Char.ofNat n, text.drop count)
      else none
    | none => none

/-- The character of an escape, from behind its backslash on. -/
def escape? : List Char → Option (Char × List Char)
  | 'b' :: rest => some ('\x08', rest)
  | 't' :: rest => some ('\t', rest)
  | 'n' :: rest => some ('\n', rest)
  | 'f' :: rest => some ('\x0c', rest)
  | 'r' :: rest => some ('\r', rest)
  | '\x22' :: rest => some ('\x22', rest)
  | '\\' :: rest => some ('\\', rest)
  | 'u' :: rest => codePoint? 4 rest
  | 'U' :: rest => codePoint? 8 rest
  | _ => none

/-- The rest of a string of one line in double quotes.  The first argument bounds its length. -/
def basicRest? : Nat → List Char → Option (List Char × List Char)
  | 0, _ => none
  | _ + 1, [] => none
  | fuel + 1, c :: rest =>
    if c = '\x22' then some ([], rest)
    else if c = '\\' then
      match escape? rest with
      | some (escaped, after) =>
        (basicRest? fuel after).map fun (content, after) => (escaped :: content, after)
      | none => none
    else if isTextual c then
      (basicRest? fuel rest).map fun (content, after) => (c :: content, after)
    else none

/-- The rest of a string of one line in single quotes. -/
def literalRest? : List Char → Option (List Char × List Char)
  | [] => none
  | c :: rest =>
    if c = '\x27' then some ([], rest)
    else if isTextual c then
      (literalRest? rest).map fun (content, after) => (c :: content, after)
    else none

/-- The number of quotes at the front of a text. -/
def quoteRun (quote : Char) (text : List Char) : Nat :=
  (text.takeWhile (· == quote)).length

def skipBlankLines : List Char → List Char
  | [] => []
  | '\r' :: '\n' :: rest => skipBlankLines rest
  | c :: rest => if isBlank c || c == '\n' then skipBlankLines rest else c :: rest

/-- What follows a backslash at the end of a line in a string of several lines: the blanks and line
ends behind it are dropped. -/
def afterContinuation? (text : List Char) : Option (List Char) :=
  (afterNewline? (skipBlanks text)).map skipBlankLines

/-- The rest of a string of several lines.  Its end is three quotes, in front of which two more may
stand that belong to the string; a carriage return in front of a line feed is dropped.  In a string
in double quotes a backslash begins an escape. -/
def longRest? (quote : Char) : Nat → List Char → Option (List Char × List Char)
  | 0, _ => none
  | _ + 1, [] => none
  | fuel + 1, c :: rest =>
    if c = quote then
      let count := quoteRun quote (c :: rest)
      if 3 ≤ count then
        if 5 < count then none
        else some (List.replicate (count - 3) quote, (c :: rest).drop count)
      else
        (longRest? quote fuel rest).map fun (content, after) => (c :: content, after)
    else if c = '\\' ∧ quote = '\x22' then
      match escape? rest with
      | some (escaped, after) =>
        (longRest? quote fuel after).map fun (content, after) => (escaped :: content, after)
      | none =>
        match afterContinuation? rest with
        | some after => longRest? quote fuel after
        | none => none
    else
      match afterNewline? (c :: rest) with
      | some after =>
        (longRest? quote fuel after).map fun (content, after) => ('\n' :: content, after)
      | none =>
        if isTextual c then
          (longRest? quote fuel rest).map fun (content, after) => (c :: content, after)
        else none

/-- A text without the line end at its front, if there is one. -/
def skipNewline (text : List Char) : List Char :=
  (afterNewline? text).getD text

def string? (text : List Char) : Option (String × List Char) :=
  let read := match text with
    | '\x22' :: '\x22' :: '\x22' :: rest =>
      longRest? '\x22' (rest.length + 1) (skipNewline rest)
    | '\x27' :: '\x27' :: '\x27' :: rest =>
      longRest? '\x27' (rest.length + 1) (skipNewline rest)
    | '\x22' :: rest => basicRest? (rest.length + 1) rest
    | '\x27' :: rest => literalRest? rest
    | _ => none
  read.map fun (content, after) => (String.ofList content, after)

/-- One part of a key: a string of one line, or a word. -/
def keyPart? (text : List Char) : Option (String × List Char) :=
  match text with
  | '\x22' :: rest =>
    (basicRest? (rest.length + 1) rest).map
      fun (content, after) => (String.ofList content, after)
  | '\x27' :: rest =>
    (literalRest? rest).map fun (content, after) => (String.ofList content, after)
  | _ =>
    let word := text.takeWhile isBareKeyChar
    if word.isEmpty then none else some (String.ofList word, text.dropWhile isBareKeyChar)

/-- A key of up to so many parts with dots between them, and blanks around each. -/
def key? : Nat → List Char → Option (List String × List Char)
  | 0, _ => none
  | parts + 1, text =>
    match keyPart? (skipBlanks text) with
    | none => none
    | some (part, after) =>
      match skipBlanks after with
      | '.' :: rest => (key? parts rest).map fun (more, after) => (part :: more, after)
      | rest => some ([part], rest)

end DecisionBench.Toml
