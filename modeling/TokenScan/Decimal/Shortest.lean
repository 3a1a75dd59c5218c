import TokenScan.Decimal.Binary64

/-! The shortest decimal text of a binary number: the fewest digits that read back as the same
number, and among those the nearest. -/
namespace TokenScan.Decimal

/-- `coefficient * 10 ^ exponent`. -/
structure Numeral where
  coefficient : Nat
  exponent : Int
  deriving DecidableEq, Repr

/-- The decimals that read back as one binary number: those between `low` and `high`, the ends
included or not, with the number itself between them. All three have one denominator. -/
structure Interval where
  low : Nat
  value : Nat
  high : Nat
  denominator : Nat
  closed : Bool

/-- Half a step reaches to either side, a quarter step down from a power of two. The even
neighbour is preferred in reading, so it keeps the ends. -/
def Interval.around (significand : Nat) (exponent : Int) : Interval :=
  let below := if significand = Nat.pow 2 52 ∧ Binary64.leastExponent < exponent then 1 else 2
  let unit := scaled 2 1 1 (exponent - 2)
  ⟨(4 * significand - below) * unit.1, 4 * significand * unit.1, (4 * significand + 2) * unit.1,
    unit.2, significand % 2 = 0⟩

def Interval.contains (interval : Interval) (numerator denominator : Nat) : Bool :=
  let low := interval.low * denominator
  let high := interval.high * denominator
  let here := numerator * interval.denominator
  if interval.closed then low ≤ here && here ≤ high else low < here && here < high

/-- How many digits stand before the decimal point; not positive for a number below a tenth. -/
def magnitude (numerator denominator : Nat) : Int :=
  let guess : Int := (digitCount numerator : Int) - digitCount denominator
  let parts := scaled 10 numerator denominator (-guess)
  if parts.2 ≤ parts.1 then guess + 1 else guess

/-- A multiple of `10 ^ exponent` that reads back as the number: of the two multiples around it
the nearer, the upper one at equal distance. -/
def Interval.onGrid (interval : Interval) (exponent : Int) : Option Numeral :=
  let parts := scaled 10 interval.value interval.denominator (-exponent)
  let lower := parts.1 / parts.2
  let reads (coefficient : Nat) : Bool :=
    let point := scaled 10 coefficient 1 exponent
    interval.contains point.1 point.2
  let preferred := if 2 * (parts.1 % parts.2) < parts.2 then lower else lower + 1
  let other := if preferred = lower then lower + 1 else lower
  if reads preferred then some ⟨preferred, exponent⟩
  else if reads other then some ⟨other, exponent⟩
  else none

/-- Seventeen digits always suffice. -/
def shortest (significand : Nat) (exponent : Int) : Numeral :=
  let interval := Interval.around significand exponent
  let place := magnitude interval.value interval.denominator
  let grids := (List.range 17).map fun (count : Nat) => place - (count + 1)
  (grids.findSome? interval.onGrid).getD ⟨0, 0⟩

/-- Without an exponent, with at least one digit on either side of the point. -/
def Numeral.positional (numeral : Numeral) : String :=
  let digits := Nat.toDigits 10 numeral.coefficient
  let zeros (count : Nat) : List Char := List.replicate count '0'
  match numeral.exponent with
  | .ofNat power => String.ofList (digits ++ zeros power) ++ ".0"
  | .negSucc power =>
    let padded := zeros (power + 2 - digits.length) ++ digits
    let whole := padded.take (padded.length - (power + 1))
    let part := (padded.drop (padded.length - (power + 1))).reverse.dropWhile (· == '0')
    let part := if part.isEmpty then ['0'] else part.reverse
    String.ofList whole ++ "." ++ String.ofList part

def Binary64.text : Binary64 → String
  | .finite negative significand exponent =>
    (if negative then "-" else "") ++
      (if significand = 0 then "0.0" else (shortest significand exponent).positional)
  | .infinite negative => if negative then "-inf" else "inf"
  | .notANumber => "NaN"

end TokenScan.Decimal
