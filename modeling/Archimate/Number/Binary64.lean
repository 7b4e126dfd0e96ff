namespace Archimate

/-- A finite number is `significand * 2 ^ exponent`, with 53 bits unless the exponent is least. -/
inductive Binary64 where
  | finite (negative : Bool) (significand : Nat) (exponent : Int)
  | infinite (negative : Bool)
  | undefined
deriving DecidableEq, Inhabited, Repr

namespace Binary64

def twoTo (n : Nat) : Nat := Nat.pow 2 n

def tenTo (n : Nat) : Nat := Nat.pow 10 n

def leastExponent : Int := -1074

def greatestExponent : Int := 971

def zero (negative : Bool) : Binary64 :=
  .finite negative 0 leastExponent

/-- Division rounded to the nearest integer; a half goes to the even neighbour. -/
def roundDiv (n d : Nat) : Nat :=
  let q := n / d
  let r := n % d
  if 2 * r < d then q
  else if d < 2 * r then q + 1
  else q + q % 2

/-- The largest power of two that is at most `n / d`. -/
def floorLog2 (n d : Nat) : Int :=
  let k := (n.log2 : Int) - d.log2
  let reached := if 0 ≤ k then d * twoTo k.toNat ≤ n else d ≤ n * twoTo (-k).toNat
  if reached then k else k - 1

def significandAt (n d : Nat) (exponent : Int) : Nat :=
  if 0 ≤ exponent then roundDiv n (d * twoTo exponent.toNat)
  else roundDiv (n * twoTo (-exponent).toNat) d

def ofRatio (negative : Bool) (n d : Nat) : Binary64 :=
  if n = 0 then zero negative
  else
    let exponent := max (floorLog2 n d - 52) leastExponent
    let significand := significandAt n d exponent
    let carried := significand = twoTo 53
    let exponent := if carried then exponent + 1 else exponent
    let significand := if carried then twoTo 52 else significand
    if greatestExponent < exponent then .infinite negative
    else .finite negative significand exponent

/-- The decimal exponent from which every whole number is beyond all finite ones. -/
def greatestScale : Int := 400

/-- The number nearest to `digits * 10 ^ scale`; far out of range the powers are not computed. -/
def ofDecimal (negative : Bool) (digits : Nat) (scale : Int) : Binary64 :=
  if digits = 0 then zero negative
  else if greatestScale < scale then .infinite negative
  else if digits.log2 + scale < -greatestScale then zero negative
  else if 0 ≤ scale then ofRatio negative (digits * tenTo scale.toNat) 1
  else ofRatio negative digits (tenTo (-scale).toNat)

def isFinite : Binary64 → Bool
  | .finite .. => true
  | _ => false

end Binary64

end Archimate
