import DecisionBench.Decimal.Reading
import DecisionBench.Toml.Text
import DecisionBench.Toml.Value

/-!
# Numbers and points in time of TOML

A text that starts with a digit or a sign is tried as a point in time, then as a number with a
fraction or an exponent, then as an integer.
-/

namespace DecisionBench.Toml

/-- The digits of a class that follow a digit.  A single underscore may stand in front of each. -/
def moreDigits? (isDigit : Char → Bool) : List Char → Option (List Char × List Char)
  | [] => some ([], [])
  | ['_'] => none
  | '_' :: d :: rest =>
    if isDigit d then
      (moreDigits? isDigit rest).map fun (digits, after) => (d :: digits, after)
    else none
  | c :: rest =>
    if isDigit c then
      (moreDigits? isDigit rest).map fun (digits, after) => (c :: digits, after)
    else some ([], c :: rest)

/-- A run of digits of a class, in which single underscores may stand between digits. -/
def underscored? (isDigit : Char → Bool) : List Char → Option (List Char × List Char)
  | [] => none
  | c :: rest =>
    if isDigit c then
      (moreDigits? isDigit rest).map fun (digits, after) => (c :: digits, after)
    else none

/-- A decimal integer with an optional sign and without leading zeros, as its characters. -/
def decimalInteger? (text : List Char) : Option (List Char × List Char) :=
  let (sign, digits) := match text with
    | '+' :: rest => (['+'], rest)
    | '-' :: rest => (['-'], rest)
    | _ => ([], text)
  match digits with
  | '0' :: rest => some (sign ++ ['0'], rest)
  | _ => (underscored? Char.isDigit digits).map fun (read, after) => (sign ++ read, after)

/-- The value of digits to a base. -/
def based (base : Nat) (digits : List Char) : Nat :=
  digits.foldl (fun value c => base * value + (Numeral.hexDigit? c).getD 0) 0

/-- An integer to a base other than ten. -/
def basedInteger? (base : Nat) (isDigit : Char → Bool) (text : List Char) :
    Option (Value × List Char) :=
  match underscored? isDigit text with
  | some (digits, after) =>
    if based base digits < Nat.pow 2 63 then some (.integer (based base digits), after) else none
  | none => none

def integer? (text : List Char) : Option (Value × List Char) :=
  match text with
  | '0' :: 'x' :: rest => basedInteger? 16 (fun c => (Numeral.hexDigit? c).isSome) rest
  | '0' :: 'o' :: rest => basedInteger? 8 (fun c => '0' ≤ c && c ≤ '7') rest
  | '0' :: 'b' :: rest => basedInteger? 2 (fun c => c == '0' || c == '1') rest
  | _ =>
    match decimalInteger? text with
    | some (digits, after) =>
      (Numeral.integer? (Nat.pow 2 63) digits).map fun value => (.integer value, after)
    | none => none

/-- The exponent of a number, as its characters. -/
def exponentPart? : List Char → Option (List Char × List Char)
  | c :: rest =>
    if c = 'e' ∨ c = 'E' then
      let (sign, digits) := match rest with
        | '+' :: more => (['+'], more)
        | '-' :: more => (['-'], more)
        | _ => ([], rest)
      (underscored? Char.isDigit digits).map fun (read, after) => ('e' :: sign ++ read, after)
    else none
  | [] => none

/-- What may come of trying to read a number with a fraction. -/
inductive Fractional where
  /-- The text is no such number, and may be something else. -/
  | other
  /-- The text is such a number, but a wrong one. -/
  | wrong
  | read (after : List Char)

/-- The fraction and the exponent of a number whose whole part is read. -/
def fractionalRest (whole text : List Char) : Fractional :=
  let finish (written after : List Char) : Fractional :=
    if Binary64.ofText? written = some (.infinite false) then .wrong else .read after
  match text with
  | '.' :: rest =>
    match underscored? Char.isDigit rest with
    | none => .wrong
    | some (digits, after) =>
      let written := whole ++ '.' :: digits
      match exponentPart? after with
      | some (exponent, last) => finish (written ++ exponent) last
      | none => finish written after
  | _ =>
    match exponentPart? text with
    | some (exponent, after) => finish (whole ++ exponent) after
    | none => .other

/-- A number with a fraction or an exponent, or a word for infinity or for no number. -/
def fractional (text : List Char) : Fractional :=
  let unsigned := match text with
    | '+' :: rest => rest
    | '-' :: rest => rest
    | _ => text
  match unsigned with
  | 'i' :: 'n' :: 'f' :: rest => .read rest
  | 'n' :: 'a' :: 'n' :: rest => .read rest
  | _ =>
    match decimalInteger? text with
    | some (whole, after) => fractionalRest whole after
    | none => .other

/-- A number of exactly so many digits, from `low` to `high`. -/
def field? (count low high : Nat) (text : List Char) : Option (Nat × List Char) :=
  let digits := text.take count
  if digits.length = count then
    match Numeral.unsigned? digits with
    | some value =>
      if low ≤ value ∧ value ≤ high then some (value, text.drop count) else none
    | none => none
  else none

/-- What follows a character. -/
def after? (c : Char) : List Char → Option (List Char)
  | [] => none
  | d :: rest => if c = d then some rest else none

def daysIn (year month : Nat) : Nat :=
  if month = 2 then
    if year % 4 = 0 ∧ (year % 100 ≠ 0 ∨ year % 400 = 0) then 29 else 28
  else if month = 4 ∨ month = 6 ∨ month = 9 ∨ month = 11 then 30
  else 31

def afterDate? (text : List Char) : Option (List Char) := do
  let (year, rest) ← field? 4 0 9999 text
  let rest ← after? '-' rest
  let (month, rest) ← field? 2 1 12 rest
  let rest ← after? '-' rest
  let (_, rest) ← field? 2 1 (daysIn year month) rest
  return rest

/-- What follows a time of day, whose seconds may have a fraction. -/
def afterTime? (text : List Char) : Option (List Char) := do
  let (_, rest) ← field? 2 0 23 text
  let rest ← after? ':' rest
  let (_, rest) ← field? 2 0 59 rest
  let rest ← after? ':' rest
  let (_, rest) ← field? 2 0 60 rest
  match rest with
  | '.' :: digits =>
    if (digits.takeWhile Char.isDigit).isEmpty then return rest
    else return digits.dropWhile Char.isDigit
  | _ => return rest

/-- What follows the distance of a time zone, if one stands there. -/
def afterZone (text : List Char) : List Char :=
  let distance? (rest : List Char) : Option (List Char) := do
    let (_, rest) ← field? 2 0 23 rest
    let rest ← after? ':' rest
    let (_, rest) ← field? 2 0 59 rest
    return rest
  match text with
  | 'Z' :: rest => rest
  | 'z' :: rest => rest
  | '+' :: rest => (distance? rest).getD text
  | '-' :: rest => (distance? rest).getD text
  | _ => text

/-- What follows a point in time: a date, a time, or both with an optional time zone. -/
def afterMoment? (text : List Char) : Option (List Char) :=
  match afterDate? text with
  | some rest =>
    match rest with
    | mark :: more =>
      if mark = 'T' ∨ mark = 't' ∨ mark = ' ' then
        match afterTime? more with
        | some after => some (afterZone after)
        | none => some rest
      else some rest
    | [] => some rest
  | none => afterTime? text

/-- A point in time or a number. -/
def number? (text : List Char) : Option (Value × List Char) :=
  match afterMoment? text with
  | some after => some (.moment, after)
  | none =>
    match fractional text with
    | .read after => some (.fractional, after)
    | .wrong => none
    | .other => integer? text

end DecisionBench.Toml
