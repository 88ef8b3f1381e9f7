import DecisionBench.Decimal.Reading

/-!
# Reading JSON

`Json.read` reads a text in two passes, neither of which looks back.  The first cuts it into tokens,
one character after the other: `next` says what a character does between tokens, inside a word and
inside a string.  The second puts the tokens together, one after the other, with a stack of the
lists and objects that are open.  Members of an object stay in their order, and repeated keys stay.

A text is read only if all of it is one value with blanks around it.  Words are `null`, `true`,
`false` and numbers without leading zeros; strings have no raw control characters, their escapes are
the known ones, and surrogates come in pairs.
-/

namespace DecisionBench.Json

inductive Value where
  | null
  | flag (value : Bool)
  /-- The number `±digits · 10^exponent`. -/
  | number (negative : Bool) (digits : Nat) (exponent : Int)
  | text (content : String)
  | list (items : List Value)
  | object (members : List (String × Value))

/-! ### Words -/

/-- Digits in front of a point, without a zero that could be left out. -/
def isWhole : List Char → Bool
  | [] => false
  | [_] => true
  | first :: _ => first != '0'

/-- The digits behind a point, if there is one, and what follows them. -/
def fraction? : List Char → Option (List Char × List Char)
  | '.' :: rest =>
    let digits := rest.takeWhile Char.isDigit
    if digits.isEmpty then none else some (digits, rest.dropWhile Char.isDigit)
  | rest => some ([], rest)

/-- A number without its sign. -/
def magnitude? (negative : Bool) (text : List Char) : Option Value :=
  let whole := text.takeWhile Char.isDigit
  if isWhole whole then
    match fraction? (text.dropWhile Char.isDigit) with
    | some (fraction, rest) =>
      (Binary64.exponent? rest).map fun exponent =>
        .number negative (Nat.ofDigitChars 10 (whole ++ fraction) 0)
          (exponent - Int.ofNat fraction.length)
    | none => none
  else none

def number? : List Char → Option Value
  | '-' :: rest => magnitude? true rest
  | text => magnitude? false text

def word? (word : List Char) : Option Value :=
  if word = "null".toList then some .null
  else if word = "true".toList then some (.flag true)
  else if word = "false".toList then some (.flag false)
  else number? word

/-! ### Tokens -/

inductive Token where
  | openList
  | closeList
  | openObject
  | closeObject
  | comma
  | colon
  | scalar (value : Value)

/-- What the characters read so far leave open. -/
inductive Mode where
  | between
  | word (read : List Char)
  | text (read : List Char)
  /-- Behind a backslash in a string. -/
  | escape (read : List Char)
  /-- Behind some digits of a code unit in a string; another one, the first of a pair, may have come
  before it. -/
  | unit (read : List Char) (first : Option Nat) (digits : List Nat)
  /-- Behind the first code unit of a pair, where the escape of the second must follow. -/
  | pair (read : List Char) (first : Nat)
  /-- Behind the backslash of that escape. -/
  | pairEscape (read : List Char) (first : Nat)

def isBlank (c : Char) : Bool :=
  c == ' ' || c == '\t' || c == '\n' || c == '\r'

/-- A character that words are made of. -/
def isWordChar (c : Char) : Bool :=
  c.isAlphanum || c == '+' || c == '-' || c == '.'

def mark? : Char → Option Token
  | '[' => some .openList
  | ']' => some .closeList
  | '\x7b' => some .openObject
  | '\x7d' => some .closeObject
  | ',' => some .comma
  | ':' => some .colon
  | _ => none

/-- What a character does between tokens. -/
def begin? (c : Char) : Option (List Token × Mode) :=
  if isBlank c then some ([], .between)
  else
    match mark? c with
    | some token => some ([token], .between)
    | none =>
      if c = '\x22' then some ([], .text [])
      else if isWordChar c then some ([], .word [c])
      else none

/-- The character of an escape that is one letter long. -/
def escaped? : Char → Option Char
  | '\x22' => some '\x22'
  | '\\' => some '\\'
  | '/' => some '/'
  | 'b' => some '\x08'
  | 'f' => some '\x0c'
  | 'n' => some '\n'
  | 'r' => some '\r'
  | 't' => some '\t'
  | _ => none

def isFirstOfPair (unit : Nat) : Bool :=
  0xD800 ≤ unit && unit < 0xDC00

def isSecondOfPair (unit : Nat) : Bool :=
  0xDC00 ≤ unit && unit < 0xE000

/-- The mode behind a code unit. -/
def afterUnit? (read : List Char) (unit : Nat) : Option Nat → Option Mode
  | some first =>
    if isSecondOfPair unit then
      some (.text (read ++
        [Char.ofNat (0x10000 + 0x400 * (first - 0xD800) + (unit - 0xDC00))]))
    else none
  | none =>
    if isFirstOfPair unit then some (.pair read unit)
    else if isSecondOfPair unit then none
    else some (.text (read ++ [Char.ofNat unit]))

/-- What a character does: the tokens that it completes, and the mode behind it. -/
def next : Mode → Char → Option (List Token × Mode)
  | .between, c => begin? c
  | .word read, c =>
    if isWordChar c then some ([], .word (read ++ [c]))
    else
      match word? read, begin? c with
      | some value, some (tokens, mode) => some (.scalar value :: tokens, mode)
      | _, _ => none
  | .text read, c =>
    if c = '\x22' then some ([.scalar (.text (String.ofList read))], .between)
    else if c = '\\' then some ([], .escape read)
    else if c.toNat < 0x20 then none
    else some ([], .text (read ++ [c]))
  | .escape read, c =>
    if c = 'u' then some ([], .unit read none [])
    else (escaped? c).map fun meant => ([], .text (read ++ [meant]))
  | .unit read first digits, c =>
    match Numeral.hexDigit? c, digits with
    | some last, [a, b, d] =>
      (afterUnit? read (0x1000 * a + 0x100 * b + 0x10 * d + last) first).map ([], ·)
    | some digit, _ => some ([], .unit read first (digits ++ [digit]))
    | none, _ => none
  | .pair read first, c => if c = '\\' then some ([], .pairEscape read first) else none
  | .pairEscape read first, c => if c = 'u' then some ([], .unit read (some first) []) else none

/-- The tokens that some characters complete, and the mode behind them. -/
def scan : Mode → List Char → Option (List Token × Mode)
  | mode, [] => some ([], mode)
  | mode, c :: rest =>
    match next mode c with
    | some (tokens, mode) => (scan mode rest).map fun later => (tokens ++ later.1, later.2)
    | none => none

/-- The tokens that the end of the text completes. -/
def pending? : Mode → Option (List Token)
  | .between => some []
  | .word read => (word? read).map ([.scalar ·])
  | _ => none

def tokens? (text : List Char) : Option (List Token) :=
  match scan .between text with
  | some (tokens, mode) => (pending? mode).map (tokens ++ ·)
  | none => none

/-! ### Values -/

/-- A list that is open, with its items so far; or an object that is open, with its members so far
and the key of the next. -/
inductive Frame where
  | list (items : List Value)
  | member (members : List (String × Value)) (key : String)

/-- What may come next, with what is open around it from the inside out. -/
inductive State where
  /-- A value, or the end of the list if it has just been opened. -/
  | value (opened : Bool) (frames : List Frame)
  /-- A key, or the end of the object if it has just been opened. -/
  | key (opened : Bool) (members : List (String × Value)) (frames : List Frame)
  | colon (members : List (String × Value)) (key : String) (frames : List Frame)
  /-- What may follow a value: a comma, or the end of what is open. -/
  | behind (value : Value) (frames : List Frame)

def step : State → Token → Option State
  | .value _ frames, .scalar value => some (.behind value frames)
  | .value _ frames, .openList => some (.value true (.list [] :: frames))
  | .value _ frames, .openObject => some (.key true [] frames)
  | .value true (.list [] :: frames), .closeList => some (.behind (.list []) frames)
  | .key _ members frames, .scalar (.text key) => some (.colon members key frames)
  | .key true [] frames, .closeObject => some (.behind (.object []) frames)
  | .colon members key frames, .colon => some (.value false (.member members key :: frames))
  | .behind value (.list items :: frames), .comma =>
    some (.value false (.list (items ++ [value]) :: frames))
  | .behind value (.list items :: frames), .closeList =>
    some (.behind (.list (items ++ [value])) frames)
  | .behind value (.member members key :: frames), .comma =>
    some (.key false (members ++ [(key, value)]) frames)
  | .behind value (.member members key :: frames), .closeObject =>
    some (.behind (.object (members ++ [(key, value)])) frames)
  | _, _ => none

/-- The value that tokens make, if they make one. -/
def assemble? (tokens : List Token) : Option Value :=
  match tokens.foldlM step (.value false []) with
  | some (.behind value []) => some value
  | _ => none

/-- The value that a text writes, if it is the JSON text of one. -/
def read (text : String) : Option Value :=
  (tokens? text.toList).bind assemble?

/-- A comma too many, a missing colon, a zero in front, nothing behind a point, a line feed in a
string, an unknown escape, half a pair and a second value are errors. -/
example : ["[1,]", "\x7b\"a\" 1\x7d", "01", "1.", "\"\n\"", "\"\\q\"", "\"\\ud83d\"", "[1] 2"].all
    (fun text => (read text).isNone) = true := by decide +kernel

example : read " [-12.50e-3, \"\\ud83d\\ude00\"]\n" =
    some (.list [.number true 1250 (-5), .text "😀"]) := by rfl

end DecisionBench.Json
