/-! Binary floating point numbers of 64 bits, and the one nearest to a decimal number. All
arithmetic is on natural numbers and exact. -/
namespace TokenScan.Decimal

inductive Binary64 where
  /-- `significand * 2 ^ exponent`, the significand below `2 ^ 53`. -/
  | finite (negative : Bool) (significand : Nat) (exponent : Int)
  | infinite (negative : Bool)
  | notANumber
  deriving DecidableEq, Repr

/-- A fraction of natural numbers times a power of a base, again as a fraction. -/
def scaled (base : Nat) (numerator denominator : Nat) (exponent : Int) : Nat × Nat :=
  match exponent with
  | .ofNat power => (numerator * base.pow power, denominator)
  | .negSucc power => (numerator, denominator * base.pow (power + 1))

/-- The nearest natural number; halfway between two, the even one. -/
def roundedToEven (numerator denominator : Nat) : Nat :=
  let quotient := numerator / denominator
  let twice := 2 * (numerator % denominator)
  if twice < denominator ∨ (twice = denominator ∧ quotient % 2 = 0) then quotient else quotient + 1

def digitCount (value : Nat) : Nat := (Nat.toDigits 10 value).length

namespace Binary64

/-- The exponent of the smallest positive number, and of all numbers below `2 ^ -1022`. -/
def leastExponent : Int := -1074

def greatestExponent : Int := 971

/-- The exponent for which the significand of a positive fraction has 53 bits before its point,
or the least exponent if that is greater. -/
def exponentFor (numerator denominator : Nat) : Int :=
  let guess : Int := (numerator.log2 : Int) - denominator.log2
  let parts := scaled 2 numerator denominator (-guess)
  let leading := if parts.2 ≤ parts.1 then guess else guess - 1
  max (leading - 52) leastExponent

/-- Numbers too large become infinite, numbers too small zero. Far beyond either end the
answer is given without forming the power of ten. -/
def nearest (negative : Bool) (coefficient : Nat) (exponent : Int) : Binary64 :=
  let magnitude := (digitCount coefficient : Int) + exponent
  if coefficient = 0 ∨ magnitude < -330 then .finite negative 0 leastExponent
  else if 309 < magnitude then .infinite negative
  else
    let value := scaled 10 coefficient 1 exponent
    let power := exponentFor value.1 value.2
    let parts := scaled 2 value.1 value.2 (-power)
    let rounded := roundedToEven parts.1 parts.2
    let significand := if rounded = Nat.pow 2 53 then Nat.pow 2 52 else rounded
    let power := if rounded = Nat.pow 2 53 then power + 1 else power
    if greatestExponent < power then .infinite negative else .finite negative significand power

end Binary64

end TokenScan.Decimal
