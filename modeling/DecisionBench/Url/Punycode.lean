import DecisionBench.Text.Pieces

/-!
# Punycode

A name with characters beyond ASCII has a form in ASCII: its ASCII characters, a hyphen, and digits
to the base 36 that tell which other characters stand where.  `decode?` reads this form.  Each step
reads one number; the number of digits that it takes depends on the numbers before it.
-/

namespace DecisionBench.Url.Punycode

/-- The value of a digit: letters come before decimal digits. -/
def digit? (c : Char) : Option Nat :=
  if 'a' ≤ c ∧ c ≤ 'z' then some (c.toNat - 97)
  else if 'A' ≤ c ∧ c ≤ 'Z' then some (c.toNat - 65)
  else if '0' ≤ c ∧ c ≤ '9' then some (c.toNat - 22)
  else none

/-- The value from which on a digit at a place is followed by another one. -/
def threshold (bias place : Nat) : Nat :=
  if place ≤ bias then 1 else if bias + 26 ≤ place then 26 else place - bias

/-- The number at the front of a text, read up to a place where a digit has a weight; with what
follows it. -/
def number? (bias : Nat) : Nat → Nat → Nat → List Char → Option (Nat × List Char)
  | _, _, _, [] => none
  | place, weight, value, c :: rest =>
    match digit? c with
    | none => none
    | some d =>
      let value := value + d * weight
      let limit := threshold bias place
      if d < limit then some (value, rest)
      else number? bias (place + 36) (weight * (36 - limit)) value rest

/-- Reading a number takes at least one digit. -/
theorem number?_length {bias place weight value : Nat} {text : List Char}
    {found : Nat × List Char} (read : number? bias place weight value text = some found) :
    found.2.length < text.length := by
  induction text generalizing place weight value with
  | nil => simp [number?] at read
  | cons c rest induction =>
    simp only [number?] at read
    split at read
    · simp at read
    · split at read
      · simp only [Option.some.injEq] at read
        simp [← read]
      · have shorter := induction read
        simp only [List.length_cons]
        omega

/-- The bias that a number of a size leads to. -/
def biasOf (size places : Nat) : Nat :=
  if 455 < size then biasOf (size / 35) (places + 36) else places + 36 * size / (size + 38)
termination_by size

/-- The bias after a number was read, by which so many characters are there. -/
def nextBias (number count : Nat) (isFirst : Bool) : Nat :=
  let size := if isFirst then number / 700 else number / 2
  biasOf (size + size / count) 0

/-- The text that is found so far, completed by what the numbers in the rest tell: the next one is
to be added to the place `index` and the code point `code`. -/
def extended? (found : List Char) (code index bias : Nat) (isFirst : Bool) (rest : List Char) :
    Option (List Char) :=
  if rest.isEmpty then some found
  else
    match read : number? bias 36 1 0 rest with
    | none => none
    | some (number, after) =>
      let count := found.length + 1
      let index := index + number
      let code := code + index / count
      let place := index % count
      if code.isValidChar then
        extended? (found.take place ++ Char.ofNat code :: found.drop place) code (place + 1)
          (nextBias number count isFirst) false after
      else none
termination_by rest.length
decreasing_by exact number?_length read

/-- The text that a form in ASCII writes: the characters before the last hyphen, unless this stands
at the front, and those that the rest tells. -/
def decode? (code : List Char) : Option (List Char) :=
  let numbers := (code.reverse.takeWhile (· != '-')).reverse
  let basic := code.take (code.length - numbers.length - 1)
  let numbers := if basic.isEmpty then code else numbers
  if basic.all fun c => c.toNat < 0x80 then
    extended? basic 0x80 0 72 true numbers
  else none

end DecisionBench.Url.Punycode
