/-! Binary64 numbers. Rounding goes to the nearest of them, and from a tie to the even one. -/

namespace DeviceAllocation

inductive Binary64 where
  -- The number `mantissa · 2^exponent`, or its opposite. Zero has a sign as well.
  | finite (negative : Bool) (mantissa : Nat) (exponent : Int)
  | infinite (negative : Bool)
  | notANumber
  deriving DecidableEq, Repr

namespace Binary64

/-- The quotient `n / d` rounded to the nearest integer, a tie going to the even one. -/
def roundHalfEven (n d : Nat) : Nat :=
  let q := n / d
  let r := n % d
  if 2 * r < d ∨ (2 * r = d ∧ q % 2 = 0) then q else q + 1

def scale (b n d : Nat) (e : Int) : Nat × Nat :=
  if 0 ≤ e then (n * b.pow e.toNat, d) else (n, d * b.pow (-e).toNat)

/-- The exponent `k` with `2^k ≤ n / d < 2^(k+1)`, for positive `n` and `d`. -/
def binaryOrder (n d : Nat) : Int :=
  let k : Int := (n.log2 : Int) - (d.log2 : Int)
  let (n', d') := scale 2 n d (-k)
  if d' ≤ n' then k else k - 1

/-- The least mantissa of 53 digits. Mantissas are smaller than its double. -/
def leastFull : Nat := 0x10000000000000

def ofQuotient (negative : Bool) (n d : Nat) : Binary64 :=
  if n = 0 then .finite negative 0 0 else
    let e := max (-1074) (binaryOrder n d - 52)
    let (n', d') := scale 2 n d (-e)
    let q := roundHalfEven n' d'
    let (q, e) := if q = 2 * leastFull then (leastFull, e + 1) else (q, e)
    if 971 < e then .infinite negative else .finite negative q e

/--
The number nearest to `coefficient · 10^exponent`, or to its opposite. Exponents that put it far
outside the range of binary64 are settled without computing the power.
-/
def ofDecimal (negative : Bool) (coefficient : Nat) (exponent : Int) : Binary64 :=
  let order : Int := exponent + (Nat.toDigits 10 coefficient).length
  if coefficient = 0 ∨ order < -400 then .finite negative 0 0
  else if 400 < order then .infinite negative
  else
    let (n, d) := scale 10 coefficient 1 exponent
    ofQuotient negative n d

def ofInt (n : Int) : Binary64 :=
  ofQuotient (n < 0) n.natAbs 1

def withSign (negative : Bool) (n : Nat) : Int :=
  if negative then -(n : Int) else n

def toInt? : Binary64 → Option Int
  | finite negative mantissa exponent =>
    let (n, d) := scale 2 mantissa 1 exponent
    if n % d = 0 then some (withSign negative (n / d)) else none
  | _ => none

def truncate? : Binary64 → Option Int
  | finite negative mantissa exponent =>
    let (n, d) := scale 2 mantissa 1 exponent
    some (withSign negative (n / d))
  | _ => none

def isZero : Binary64 → Bool
  | finite _ mantissa _ => mantissa = 0
  | _ => false

end Binary64

end DeviceAllocation
