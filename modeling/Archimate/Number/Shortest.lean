import Archimate.Number.Binary64

namespace Archimate.Binary64

/-- A positive number and the ends of the interval that rounds to it, over one denominator. -/
structure Interval where
  low : Nat
  value : Nat
  high : Nat
  unit : Nat
  closed : Bool

/-- The ends lie half way to the neighbours; below a power of two the neighbour is nearer. -/
def interval (significand : Nat) (exponent : Int) : Interval :=
  let below := if significand = twoTo 52 ∧ leastExponent < exponent then 1 else 2
  let scale := exponent - 2
  let factor := twoTo scale.toNat
  { low := (4 * significand - below) * factor
    value := 4 * significand * factor
    high := (4 * significand + 2) * factor
    unit := twoTo (-scale).toNat
    closed := significand % 2 == 0 }

def Interval.firstExponent (i : Interval) : Int :=
  if i.unit ≤ i.value then (Nat.toDigits 10 (i.value / i.unit)).length - 1
  else match (List.range 400).find? fun j => i.unit ≤ i.value * tenTo j with
    | some j => -(j : Int)
    | none => 0

/-- The same interval measured in units of `10 ^ exponent`. -/
def Interval.inUnitsOf (i : Interval) (exponent : Int) : Interval :=
  if 0 ≤ exponent then { i with unit := i.unit * tenTo exponent.toNat }
  else
    let factor := tenTo (-exponent).toNat
    { i with low := i.low * factor, value := i.value * factor, high := i.high * factor }

def Interval.holds (i : Interval) (n : Nat) : Bool :=
  if i.closed then i.low ≤ n * i.unit && n * i.unit ≤ i.high
  else i.low < n * i.unit && n * i.unit < i.high

/-- The integer next to the value that reads back as it; of two the nearer, the even at a tie. -/
def Interval.gridPoint? (i : Interval) : Option Nat :=
  let floor := i.value / i.unit
  let nearest := roundDiv i.value i.unit
  let other := if nearest = floor then floor + 1 else floor
  [nearest, other].find? i.holds

/-- Digits and the exponent of the last one, for the least precision that reads back. -/
def shortestDigits (significand : Nat) (exponent : Int) : Nat × Int :=
  let i := interval significand exponent
  let first := i.firstExponent
  let attempt (precision : Nat) : Option (Nat × Int) :=
    let last := first - precision
    ((i.inUnitsOf last).gridPoint?).map fun digits => (digits, last)
  ((List.range 17).findSome? attempt).getD (significand, exponent)

def dropZeros (digits : List Char) : List Char :=
  match (digits.reverse.dropWhile (· == '0')).reverse with
  | [] => ['0']
  | kept => kept

/-- Digits `d₁d₂…` with the exponent of `d₁`, with a point and at least one place after it. -/
def positional (digits : List Char) (first : Int) : List Char :=
  if first < 0 then
    '0' :: '.' :: List.replicate (-first - 1).toNat '0' ++ digits
  else
    let whole := first.toNat + 1
    let padded := digits ++ List.replicate (whole - digits.length) '0'
    let places := padded.drop whole
    padded.take whole ++ '.' :: (if places.isEmpty then ['0'] else places)

/-- One digit before the point, the others after it, and an exponent of at least two digits. -/
def scientific (digits : List Char) (first : Int) : List Char :=
  let mantissa := match digits with
    | d :: e :: rest => d :: '.' :: e :: rest
    | short => short
  let power := Nat.toDigits 10 first.natAbs
  let padding := List.replicate (2 - power.length) '0'
  mantissa ++ 'e' :: (if first < 0 then '-' else '+') :: padding ++ power

def magnitudeText (significand : Nat) (exponent : Int) : List Char :=
  if significand = 0 then ['0', '.', '0']
  else
    let (number, last) := shortestDigits significand exponent
    let digits := Nat.toDigits 10 number
    let first := last + (digits.length - 1 : Nat)
    let kept := dropZeros digits
    if -4 ≤ first ∧ first < 16 then positional kept first else scientific kept first

def toText : Binary64 → String
  | .finite negative significand exponent =>
    (if negative then "-" else "") ++ String.ofList (magnitudeText significand exponent)
  | .infinite negative => if negative then "-inf" else "inf"
  | .undefined => "nan"

end Archimate.Binary64
