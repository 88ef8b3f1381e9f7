import DecisionBench.Decimal.Binary64
import DecisionBench.Text.Numeral

/-!
# Reading decimal numbers

The text of a number is an optional sign, digits with at most one point among or beside them, and an
optional decimal exponent; or one of the words for infinity and for no number, in any ASCII case.
Its value is the binary number nearest to the decimal one.
-/

namespace DecisionBench.Binary64

open DecisionBench.Numeral

/-- The digits at the front of a text, as their values, and what follows them. -/
def leadingDigits : List Char → List Nat × List Char
  | [] => ([], [])
  | c :: rest =>
    match digit? c with
    | some d =>
      let (digits, after) := leadingDigits rest
      (d :: digits, after)
    | none => ([], c :: rest)

/-- The number that a list of digits writes to the base ten. -/
def ofDigits (digits : List Nat) : Nat :=
  digits.foldl (fun value d => 10 * value + d) 0

/-- The number nearest to `±digits · 10^exponent`.  Beyond four hundred places on either side of the
point the answer is infinity or zero whatever the digits are. -/
def ofDecimal (negative : Bool) (digits : List Nat) (exponent : Int) : Binary64 :=
  let digits := digits.dropWhile (· == 0)
  let places := Int.ofNat digits.length + exponent
  let significand := ofDigits digits
  if significand = 0 ∨ places < -400 then .finite negative 0 (-1074)
  else if 400 < places then .infinite negative
  else if 0 ≤ exponent then ofRatio negative (significand * Nat.pow 10 exponent.toNat) 1
  else ofRatio negative significand (Nat.pow 10 (-exponent).toNat)

/-- The exponent part of a number: nothing, or the letter, an optional sign and digits up to the end
of the text. -/
def exponent? : List Char → Option Int
  | [] => some 0
  | c :: rest =>
    if c = 'e' ∨ c = 'E' then
      match rest with
      | '-' :: digits => (unsigned? digits).map fun n => -(Int.ofNat n)
      | '+' :: digits => (unsigned? digits).map Int.ofNat
      | digits => (unsigned? digits).map Int.ofNat
    else none

def unsignedNumber? (negative : Bool) (text : List Char) : Option Binary64 :=
  let folded := String.ofList (text.map Char.toLower)
  if folded = "inf" ∨ folded = "infinity" then some (.infinite negative)
  else if folded = "nan" then some .nan
  else
    let (whole, rest) := leadingDigits text
    let (fraction, rest) := match rest with
      | '.' :: rest => leadingDigits rest
      | rest => ([], rest)
    if whole.isEmpty ∧ fraction.isEmpty then none
    else
      (exponent? rest).map fun exponent =>
        ofDecimal negative (whole ++ fraction) (exponent - Int.ofNat fraction.length)

/-- The number that a text writes. -/
def ofText? : List Char → Option Binary64
  | '+' :: rest => unsignedNumber? false rest
  | '-' :: rest => unsignedNumber? true rest
  | text => unsignedNumber? false text

end DecisionBench.Binary64
