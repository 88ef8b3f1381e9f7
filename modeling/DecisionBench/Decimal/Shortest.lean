import DecisionBench.Decimal.Binary64

/-!
# The shortest decimal that reads back

Of the decimals that round to a given binary number, `shortest` takes one with the fewest digits,
and among these the nearest to the number.  For each count of digits only the two decimals next to
the number on the grid of that count come into question.
-/

namespace DecisionBench.Binary64

/-- Which of two equally near decimals is taken. -/
inductive Tie where
  /-- The one with the even last digit. -/
  | even
  /-- The greater one. -/
  | up
  deriving DecidableEq, Repr

/-- A decimal `digits · 10^exponent`. -/
structure Decimal where
  digits : Nat
  exponent : Int
  deriving DecidableEq, Repr

/-- `10^exponent` as a quotient. -/
def tenTo (exponent : Int) : Nat × Nat :=
  if 0 ≤ exponent then (Nat.pow 10 exponent.toNat, 1) else (1, Nat.pow 10 (-exponent).toNat)

/-- Twice the distance from a number to the next one below it, in quarters of the last place: half
as much at a power of two, where the numbers below lie closer together. -/
def marginBelow (significand : Nat) (exponent : Int) : Nat :=
  if significand = Nat.pow 2 52 ∧ -1074 < exponent then 1 else 2

/-- Whether `candidate · 10^grid` rounds to `m · 2^q`.  Both ends of the interval that rounds to the
number belong to it just when `m` is even. -/
def readsBack (significand : Nat) (exponent : Int) (candidate : Nat) (grid : Int) : Bool :=
  let (quarter, unit) := scaled 1 1 (exponent - 2)
  let (up, down) := tenTo grid
  let point := candidate * up * unit
  let low := (4 * significand - marginBelow significand exponent) * quarter * down
  let high := (4 * significand + 2) * quarter * down
  if significand % 2 = 0 then low ≤ point && point ≤ high else low < point && point < high

/-- The decimal exponent of a positive quotient: the greatest `e`, from `start` downwards, with
`10^e` at most the quotient. -/
def decimalExponent : Nat → Int → Nat → Nat → Int
  | 0, start, _, _ => start
  | fuel + 1, start, numerator, denominator =>
    let (up, down) := tenTo start
    if up * denominator ≤ numerator * down then start
    else decimalExponent fuel (start - 1) numerator denominator

/-- The shortest decimal with at least `count` digits, of at most `count + fuel` digits. -/
def shortestFrom (tie : Tie) (significand : Nat) (exponent leading : Int) :
    Nat → Nat → Option Decimal
  | 0, _ => none
  | fuel + 1, count =>
    let grid := leading - Int.ofNat count + 1
    let (numerator, denominator) := magnitude significand exponent
    let (up, down) := tenTo grid
    let scaledUp := numerator * down
    let scaledDown := denominator * up
    let below := scaledUp / scaledDown
    let twice := 2 * (scaledUp % scaledDown)
    let fits := readsBack significand exponent below grid
    let fitsAbove := readsBack significand exponent (below + 1) grid
    let takeAbove :=
      decide (scaledDown < twice) ||
        (twice == scaledDown && match tie with
          | .even => below % 2 == 1
          | .up => true)
    if fits && fitsAbove then some ⟨if takeAbove then below + 1 else below, grid⟩
    else if fits then some ⟨below, grid⟩
    else if fitsAbove then some ⟨below + 1, grid⟩
    else shortestFrom tie significand exponent leading fuel (count + 1)

/-- A decimal without zeros at the end of its digits. -/
def Decimal.stripped : Nat → Decimal → Decimal
  | 0, decimal => decimal
  | fuel + 1, decimal =>
    if decimal.digits % 10 = 0 ∧ decimal.digits ≠ 0 then
      Decimal.stripped fuel ⟨decimal.digits / 10, decimal.exponent + 1⟩
    else decimal

/-- The shortest decimal that reads back as `m · 2^q`.  Seventeen digits always suffice. -/
def shortest (tie : Tie) (significand : Nat) (exponent : Int) : Decimal :=
  if significand = 0 then ⟨0, 0⟩
  else
    let (numerator, denominator) := magnitude significand exponent
    let start := (Int.ofNat significand.log2 + exponent) * 30103 / 100000 + 1
    let leading := decimalExponent 4 start numerator denominator
    match shortestFrom tie significand exponent leading 17 1 with
    | some decimal => decimal.stripped 18
    | none => ⟨0, 0⟩

end DecisionBench.Binary64
