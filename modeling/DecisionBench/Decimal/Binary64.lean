/-!
# Binary floating-point numbers of 64 bits

A finite number is `±m · 2^q` with a significand `m` below `2^53` and an exponent `q` from `-1074`
to `971`.  `ofRatio` rounds a quotient of natural numbers to the nearest such number, a tie going to
the even significand, and to infinity beyond the largest one; every other way to make a number goes
through it.
-/

namespace DecisionBench

/-- A number of the format, or infinity, or no number. -/
inductive Binary64 where
  | nan
  | infinite (negative : Bool)
  | finite (negative : Bool) (significand : Nat) (exponent : Int)
  deriving DecidableEq, Repr

namespace Binary64

/-- The quotient rounded to the nearest integer, a tie to the even one. -/
def roundToEven (numerator denominator : Nat) : Nat :=
  let quotient := numerator / denominator
  let twice := 2 * (numerator % denominator)
  if twice < denominator then quotient
  else if denominator < twice then quotient + 1
  else if quotient % 2 = 0 then quotient
  else quotient + 1

/-- `numerator / denominator · 2^shift` as a quotient of natural numbers. -/
def scaled (numerator denominator : Nat) (shift : Int) : Nat × Nat :=
  if 0 ≤ shift then (numerator * Nat.pow 2 shift.toNat, denominator)
  else (numerator, denominator * Nat.pow 2 (-shift).toNat)

/-- The binary exponent of a positive quotient: the greatest `e` with `2^e` at most the quotient. -/
def exponentOf (numerator denominator : Nat) : Int :=
  let estimate : Int := Int.ofNat numerator.log2 - Int.ofNat denominator.log2
  let (n, d) := scaled numerator denominator (-estimate)
  if d ≤ n then estimate else estimate - 1

/-- The number nearest to `±numerator / denominator`, where the denominator is positive. -/
def ofRatio (negative : Bool) (numerator denominator : Nat) : Binary64 :=
  if numerator = 0 then .finite negative 0 (-1074)
  else
    let exponent := max (exponentOf numerator denominator - 52) (-1074)
    let (n, d) := scaled numerator denominator (-exponent)
    let significand := roundToEven n d
    if significand = Nat.pow 2 53 then
      if exponent + 1 ≤ 971 then .finite negative (Nat.pow 2 52) (exponent + 1)
      else .infinite negative
    else if exponent ≤ 971 then .finite negative significand exponent
    else .infinite negative

/-- Zero with a minus sign, which added to any number leaves it as it is. -/
def minusZero : Binary64 :=
  .finite true 0 (-1074)

/-- So many thousandths. -/
def ofThousandths (count : Nat) : Binary64 :=
  ofRatio false count 1000

/-- The magnitude of `±m · 2^q` as a quotient. -/
def magnitude (significand : Nat) (exponent : Int) : Nat × Nat :=
  scaled significand 1 exponent

/-- The sum of two numbers, rounded to the nearest one. -/
def add : Binary64 → Binary64 → Binary64
  | .nan, _ => .nan
  | _, .nan => .nan
  | .infinite a, .infinite b => if a = b then .infinite a else .nan
  | .infinite a, .finite _ _ _ => .infinite a
  | .finite _ _ _, .infinite b => .infinite b
  | .finite a m p, .finite b n q =>
    let low := min p q
    let left : Int := Int.ofNat (m * Nat.pow 2 (p - low).toNat)
    let right : Int := Int.ofNat (n * Nat.pow 2 (q - low).toNat)
    let total := (if a then -left else left) + (if b then -right else right)
    let negative := if total = 0 then a && b else total < 0
    let (numerator, denominator) := magnitude total.natAbs low
    ofRatio negative numerator denominator

def isPositive : Binary64 → Bool
  | .finite false significand _ => significand ≠ 0
  | _ => false

end Binary64

end DecisionBench
