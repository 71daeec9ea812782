import DeviceAllocation.Binary64

/-! The shortest digits that read back as a number. Of two decimals of the same length that do, the
nearer one is taken, and of two equally near ones the even one. -/

namespace DeviceAllocation

/-- The decimal number `0.d₁d₂…dₙ · 10^point` with the digits `d₁ … dₙ`. -/
structure DecimalDigits where
  digits : List Char
  point : Int
  deriving DecidableEq, Repr

namespace Binary64

def decimalOrder (n d : Nat) : Int :=
  if d ≤ n then (Nat.toDigits 10 (n / d)).length
  else 1 - ((Nat.toDigits 10 ((d - 1) / n)).length : Int)

/-- Whether `c · 10^p` rounds to `mantissa · 2^exponent`. The decimal must lie between the middles
to the two neighbours, and may be such a middle when the mantissa is even. The neighbour below the
least mantissa of full length is only half as far away. -/
def readsBack (mantissa : Nat) (exponent : Int) (c : Nat) (p : Int) : Bool :=
  let below := if mantissa = leastFull ∧ -1074 < exponent then 1 else 2
  let (n, d) := scale 10 c 1 p
  let (n, d) := scale 2 n d (2 - exponent)
  let low := (4 * mantissa - below) * d
  let high := (4 * mantissa + 2) * d
  if mantissa % 2 = 0 then low ≤ n && n ≤ high else low < n && n < high

/-- Of the two multiples of `10^p` next to `mantissa · 2^exponent`, the better one that reads back
as it. -/
def candidate? (mantissa : Nat) (exponent p : Int) : Option Nat :=
  let (n, d) := scale 2 mantissa 1 exponent
  let (n, d) := scale 10 n d (-p)
  let low := n / d
  let near := roundHalfEven n d
  let far := if near = low then low + 1 else low
  if readsBack mantissa exponent near p then some near
  else if readsBack mantissa exponent far p then some far
  else none

def stripZeros (digits : List Char) : List Char :=
  (digits.reverse.dropWhile (· = '0')).reverse

/-- The fewest digits that read back as `mantissa · 2^exponent`, which is not zero. All digits of
the number stand in when seventeen should not suffice. -/
def shortestDigits (mantissa : Nat) (exponent : Int) : DecimalDigits :=
  let (n, d) := scale 2 mantissa 1 exponent
  let order := decimalOrder n d
  let found := ((List.range 17).map fun k : Nat => order - 1 - (k : Int)).findSome? fun p =>
    (candidate? mantissa exponent p).map fun c => (c, p)
  let (c, p) := found.getD (roundHalfEven (n * Nat.pow 10 1100) d, -1100)
  let digits := Nat.toDigits 10 c
  ⟨stripZeros digits, digits.length + p⟩

def zeros (n : Int) : List Char :=
  List.replicate n.toNat '0'

def exponentText (mark : Char) (exponent : Int) : List Char :=
  let digits := Nat.toDigits 10 exponent.natAbs
  mark :: (if exponent < 0 then '-' else '+') :: zeros (2 - digits.length) ++ digits

def positional (x : DecimalDigits) : List Char :=
  if x.point ≤ 0 then '0' :: '.' :: zeros (-x.point) ++ x.digits
  else if x.digits.length ≤ x.point then x.digits ++ zeros (x.point - x.digits.length) ++ ['.', '0']
  else x.digits.take x.point.toNat ++ '.' :: x.digits.drop x.point.toNat

def scientific (mark : Char) (pointAlways : Bool) (x : DecimalDigits) : List Char :=
  let point := if pointAlways || 1 < x.digits.length then ['.'] else []
  x.digits.take 1 ++ point ++ x.digits.drop 1 ++ exponentText mark (x.point - 1)

/-- The shortest text of a magnitude: by places from `0.0001` up to sixteen whole digits, else with
an exponent. -/
def shortestText (mantissa : Nat) (exponent : Int) : List Char :=
  if mantissa = 0 then ['0', '.', '0']
  else
    let x := shortestDigits mantissa exponent
    if -4 < x.point ∧ x.point ≤ 16 then positional x else scientific 'e' false x

def fixedText (places : Nat) (pointAlways : Bool) (mantissa : Nat) (exponent : Int) : List Char :=
  let (n, d) := scale 2 mantissa 1 exponent
  let digits := Nat.toDigits 10 (roundHalfEven (n * Nat.pow 10 places) d)
  let digits := zeros (places + 1 - digits.length) ++ digits
  let whole := digits.length - places
  let point := if pointAlways || 0 < places then ['.'] else []
  digits.take whole ++ point ++ digits.drop whole

def significantDigits (count mantissa : Nat) (exponent : Int) : DecimalDigits :=
  if mantissa = 0 then ⟨List.replicate count '0', 1⟩
  else
    let (n, d) := scale 2 mantissa 1 exponent
    let order := decimalOrder n d
    let (n, d) := scale 10 n d (count - order)
    let c := roundHalfEven n d
    if c = Nat.pow 10 count then ⟨'1' :: List.replicate (count - 1) '0', order + 1⟩
    else ⟨Nat.toDigits 10 c, order⟩

def exponentForm (mark : Char) (places : Nat) (pointAlways : Bool) (mantissa : Nat)
    (exponent : Int) : List Char :=
  scientific mark pointAlways (significantDigits (places + 1) mantissa exponent)

/-- A magnitude rounded to a number of digits, by places when its exponent is at least -4 and
smaller than that number. Zeros at the end go, unless a point is always wanted. -/
def generalText (mark : Char) (count : Nat) (pointAlways : Bool) (mantissa : Nat)
    (exponent : Int) : List Char :=
  let count := max count 1
  let ⟨digits, point⟩ := significantDigits count mantissa exponent
  let digits :=
    if pointAlways then digits else digits.take 1 ++ stripZeros (digits.drop 1)
  if point ≤ -4 ∨ (count : Int) < point then scientific mark pointAlways ⟨digits, point⟩
  else if point ≤ 0 then '0' :: '.' :: zeros (-point) ++ digits
  else
    let whole := digits ++ zeros (point - digits.length)
    let dot := if pointAlways || point < whole.length then ['.'] else []
    whole.take point.toNat ++ dot ++ whole.drop point.toNat

def signed (x : Binary64) (magnitude : Nat → Int → List Char) (infinity notANumber : String) :
    String :=
  match x with
  | .finite negative mantissa exponent =>
    String.ofList ((if negative then ['-'] else []) ++ magnitude mantissa exponent)
  | .infinite negative => (if negative then "-" else "") ++ infinity
  | .notANumber => notANumber

end Binary64

end DeviceAllocation
