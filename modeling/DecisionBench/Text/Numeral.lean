/-!
# Decimal numerals

A numeral is a run of ASCII digits.  `natural?` reads one below a bound, with one plus sign allowed
in front; `integer?` also takes a minus sign and has a bound on either side.  `decimal` writes the
numeral without a sign and without leading zeros.
-/

namespace DecisionBench.Numeral

/-- The value of one ASCII digit. -/
def digit? (c : Char) : Option Nat :=
  if '0' ≤ c ∧ c ≤ '9' then some (c.toNat - 48) else none

/-- The value of a run of digits that continues the number `start`. -/
def digits? (start : Nat) : List Char → Option Nat
  | [] => some start
  | c :: rest =>
    match digit? c with
    | some d => digits? (10 * start + d) rest
    | none => none

/-- The value of a numeral, which has at least one digit. -/
def unsigned? : List Char → Option Nat
  | [] => none
  | text => digits? 0 text

/-- A numeral with an optional plus sign, if its value lies below `bound`. -/
def natural? (bound : Nat) (text : List Char) : Option Nat :=
  let value := match text with
    | '+' :: rest => unsigned? rest
    | _ => unsigned? text
  value.filter (· < bound)

/-- A numeral with an optional sign, if its value lies from `-bound` to `bound - 1`. -/
def integer? (bound : Nat) (text : List Char) : Option Int :=
  let value : Option Int := match text with
    | '+' :: rest => (unsigned? rest).map Int.ofNat
    | '-' :: rest => (unsigned? rest).map fun n => -(Int.ofNat n)
    | _ => (unsigned? text).map Int.ofNat
  value.filter fun n => -(Int.ofNat bound) ≤ n ∧ n < Int.ofNat bound

def decimal (n : Nat) : List Char :=
  Nat.toDigits 10 n

/-- The numeral of a number in at least `width` digits, filled up with zeros. -/
def padded (width n : Nat) : List Char :=
  let written := decimal n
  List.replicate (width - written.length) '0' ++ written

/-- The value of a hexadecimal digit of either case. -/
def hexDigit? (c : Char) : Option Nat :=
  if '0' ≤ c ∧ c ≤ '9' then some (c.toNat - 48)
  else if 'a' ≤ c ∧ c ≤ 'f' then some (c.toNat - 87)
  else if 'A' ≤ c ∧ c ≤ 'F' then some (c.toNat - 55)
  else none

/-- The digits of a number to the base 16, in lower case. -/
def hexadecimal (n : Nat) : List Char :=
  Nat.toDigits 16 n

end DecisionBench.Numeral
