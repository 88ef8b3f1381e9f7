import DecisionBench.Decimal.Shortest
import DecisionBench.Text.Numeral

/-!
# Writing numbers

`plain` writes the shortest digits that read back, never with an exponent.  `scientific` does so
within a range of magnitudes and uses an exponent outside it.  `fixed` rounds to a number of places.
-/

namespace DecisionBench.Binary64

open DecisionBench.Numeral

/-- The sign of a number, where only a minus is written. -/
def sign (negative : Bool) : List Char :=
  if negative then ['-'] else []

/-- A decimal with a point where it belongs, and no point in a whole number. -/
def positional (decimal : Decimal) : List Char :=
  let digits := Numeral.decimal decimal.digits
  if 0 ≤ decimal.exponent then digits ++ List.replicate decimal.exponent.toNat '0'
  else
    let places := (-decimal.exponent).toNat
    let filled := List.replicate (places + 1 - digits.length) '0' ++ digits
    filled.take (filled.length - places) ++ '.' :: filled.drop (filled.length - places)

/-- Shortest digits that read back, never an exponent, no point in a whole number; of two equally
near decimals the greater. -/
def plain : Binary64 → String
  | .nan => "NaN"
  | .infinite negative => String.ofList (sign negative ++ "inf".toList)
  | .finite negative significand exponent =>
    String.ofList (sign negative ++ positional (shortest .up significand exponent))

/-- A decimal whose leading digit stands at the place `10^leading`, with an exponent. -/
def withExponent (decimal : Decimal) (leading : Int) : List Char :=
  let digits := Numeral.decimal decimal.digits
  let mantissa := match digits with
    | first :: [] => [first]
    | first :: rest => first :: '.' :: rest
    | [] => []
  let mark := if leading < 0 then ['e', '-'] else ['e', '+']
  mantissa ++ mark ++ Numeral.decimal leading.natAbs

/-- A number of a report: shortest digits that read back, of two equally near decimals the even one.
The leading digit of a number written with a point stands at a place from `10^-5` to `10^15`, and
such a number has at least one digit behind the point; any other has an exponent with its sign.
What is no finite number has no such form. -/
def scientific? : Binary64 → Option String
  | .nan => none
  | .infinite _ => none
  | .finite negative significand exponent =>
    let decimal := shortest .even significand exponent
    let leading := Int.ofNat (Numeral.decimal decimal.digits).length + decimal.exponent - 1
    let body :=
      if significand = 0 then "0.0".toList
      else if -5 ≤ leading ∧ leading ≤ 15 then
        if decimal.exponent < 0 then positional decimal else positional decimal ++ ".0".toList
      else withExponent decimal leading
    some (String.ofList (sign negative ++ body))

/-- A number rounded to so many places behind the point, a tie to the even last digit. -/
def fixed (places : Nat) : Binary64 → String
  | .nan => "NaN"
  | .infinite negative => String.ofList (sign negative ++ "inf".toList)
  | .finite negative significand exponent =>
    let (numerator, denominator) := magnitude significand exponent
    let count := roundToEven (numerator * Nat.pow 10 places) denominator
    String.ofList (sign negative ++ padded 1 (count / Nat.pow 10 places) ++ '.' ::
      padded places (count % Nat.pow 10 places))

end DecisionBench.Binary64
