
set_option autoImplicit false

/-!
# The fewest digits that read back

The shortest decimal digits of a binary number: for one digit, two digits and so on, the two
neighbours of the number on the decimal grid are tested against the interval of reals that round to
the number.
-/

namespace BindingStubs.Decimal

/-! ## Binary floating point numbers

Double precision numbers as a sign and `mantissa · 2 ^ power`, found from a fraction by rounding
to the nearest one, a tie to the even mantissa. All arithmetic is on natural numbers. -/

inductive Binary where
  | finite (negative : Bool) (mantissa : Nat) (power : Int)
  | infinite (negative : Bool)
  deriving DecidableEq, Repr

namespace Binary

def precision : Nat := 53

def leastPower : Int := -1074

def greatestPower : Int := 971

def zero : Binary := .finite false 0 leastPower

def negate : Binary → Binary
  | .finite negative m p => .finite (!negative) m p
  | .infinite negative => .infinite (!negative)

def isNegative : Binary → Bool
  | .finite negative _ _ => negative
  | .infinite negative => negative

def isZero : Binary → Bool
  | .finite _ m _ => m == 0
  | .infinite _ => false

/-- The quotient rounded to the nearest number, a half to the even one. -/
def roundDiv (num den : Nat) : Nat :=
  let q := num / den
  let r := num % den
  if den < 2 * r then q + 1 else if 2 * r == den then q + q % 2 else q

def shifted (num den : Nat) (shift : Int) : Nat × Nat :=
  match shift with
  | .ofNat k => (num * Nat.pow 2 k, den)
  | .negSucc k => (num, den * Nat.pow 2 (k + 1))

/-- The number nearest to `num / den`; `den` must not be zero. -/
def ofRatio (negative : Bool) (num den : Nat) : Binary :=
  if num == 0 then .finite negative 0 leastPower
  else
    let guess : Int := (num.log2 : Int) - (den.log2 : Int)
    let (a, b) := shifted num den (-guess)
    let exponent := if b ≤ a then guess else guess - 1
    let power := max (exponent - ((precision : Int) - 1)) leastPower
    let (n, d) := shifted num den (-power)
    let m := roundDiv n d
    let (m, power) :=
      if m == Nat.pow 2 precision then (Nat.pow 2 (precision - 1), power + 1) else (m, power)
    if greatestPower < power then .infinite negative else .finite negative m power

def ofInt (n : Int) : Binary := ofRatio (n < 0) n.natAbs 1

/-- Powers of ten beyond which every number is infinite or zero. -/
def farExponent : Int := 400

/-- The number nearest to `digits · 10 ^ exponent`, where `digits` has `count` decimal digits. -/
def ofScientific (digits count : Nat) (exponent : Int) : Binary :=
  if digits == 0 then zero
  else if farExponent < exponent + count then .infinite false
  else if exponent + count < -farExponent then zero
  else match exponent with
    | .ofNat k => ofRatio false (digits * Nat.pow 10 k) 1
    | .negSucc k => ofRatio false digits (Nat.pow 10 (k + 1))

end Binary

def scaled (num den : Nat) (tens : Int) : Nat × Nat :=
  match tens with
  | .ofNat k => (num * Nat.pow 10 k, den)
  | .negSucc k => (num, den * Nat.pow 10 (k + 1))

/-- The greatest `e` with `10 ^ e ≤ num / den`, looked for from `e` downwards. -/
def tenExponent (num den : Nat) : (fuel : Nat) → Int → Int
  | 0, e => e
  | fuel + 1, e =>
    let (n, d) := scaled num den (-e)
    if d ≤ n then e else tenExponent num den fuel (e - 1)

/-- The reals that round to a number, over a common denominator: the bounds and whether they
belong to it. -/
structure Interval where
  low : Nat
  value : Nat
  high : Nat
  den : Nat
  closed : Bool

def Interval.has (i : Interval) (num den : Nat) : Bool :=
  let x := num * i.den
  if i.closed then i.low * den ≤ x && x ≤ i.high * den else i.low * den < x && x < i.high * den

def intervalOf (mantissa : Nat) (power : Int) : Interval :=
  let edge := mantissa == Nat.pow 2 (Binary.precision - 1) && Binary.leastPower < power
  let low := if edge then 4 * mantissa - 1 else 4 * mantissa - 2
  let (unit, den) := Binary.shifted 1 1 (power - 2)
  { low := low * unit, value := 4 * mantissa * unit, high := (4 * mantissa + 2) * unit, den := den,
    closed := mantissa % 2 == 0 }

/-- The better of the two neighbours on the grid of `10 ^ grid`, if one lies in the interval. -/
def gridHit? (i : Interval) (grid : Int) : Option Nat :=
  let (n, d) := scaled i.value i.den (-grid)
  let below := n / d
  let (unit, unitDen) := scaled 1 1 grid
  let hit (k : Nat) := i.has (k * unit) unitDen
  match hit below, hit (below + 1) with
  | true, true =>
    let r := n % d
    if 2 * r < d then some below
    else if d < 2 * r then some (below + 1)
    else some (below + below % 2)
  | true, false => some below
  | false, true => some (below + 1)
  | false, false => none

/-- The digits of the first grid with a hit and the power of ten of that grid. -/
def shortestFrom (i : Interval) (top : Int) : (fuel count : Nat) → Nat × Int
  | 0, count => ((scaled i.value i.den (count - 1 - top)).1, top + 1 - count)
  | fuel + 1, count =>
    match gridHit? i (top + 1 - count) with
    | some k => (k, top + 1 - count)
    | none => shortestFrom i top fuel (count + 1)

def withoutTrailingZeros : (fuel : Nat) → Nat → Int → Nat × Int
  | 0, k, e => (k, e)
  | fuel + 1, k, e => if k != 0 && k % 10 == 0 then withoutTrailingZeros fuel (k / 10) (e + 1) else (k, e)

def shortest (mantissa : Nat) (power : Int) : Nat × Int :=
  let i := intervalOf mantissa power
  let top := tenExponent i.value i.den 700 310
  let (k, e) := shortestFrom i top 17 1
  withoutTrailingZeros 20 k e

structure NumberFormat where
  /-- Least exponent written positionally. -/
  lowest : Int
  /-- Greatest exponent written positionally. -/
  highest : Int
  /-- Whether a whole number keeps a point and a zero. -/
  pointZero : Bool
  infinity : String

/-- Numbers between `1e-4` and `1e16` are positional and always show a point. -/
def realFormat : NumberFormat := ⟨-4, 15, true, "inf"⟩

/-- The parts of a complex number, without a needless point. -/
def partFormat : NumberFormat := { realFormat with pointZero := false }

def natDigits (n : Nat) : List Char := Nat.toDigits 10 n

def exponentText (e : Int) : List Char :=
  let digits := natDigits e.natAbs
  (if e < 0 then '-' else '+') :: (if digits.length < 2 then '0' :: digits else digits)

/-- The digits of a number written with the point in its place; `e` is the power of ten of the
first digit. -/
def positional (pointZero : Bool) (digits : List Char) (e : Int) : List Char :=
  match e with
  | .negSucc k => '0' :: '.' :: List.replicate k '0' ++ digits
  | .ofNat k =>
    if digits.length ≤ k + 1 then
      digits ++ List.replicate (k + 1 - digits.length) '0' ++
        (if pointZero then ['.', '0'] else [])
    else digits.take (k + 1) ++ '.' :: digits.drop (k + 1)

def exponential (digits : List Char) (e : Int) : List Char :=
  match digits with
  | [] => []
  | [d] => d :: 'e' :: exponentText e
  | d :: rest => d :: '.' :: rest ++ 'e' :: exponentText e

def NumberFormat.magnitude (f : NumberFormat) (mantissa : Nat) (power : Int) : List Char :=
  if mantissa == 0 then positional f.pointZero ['0'] 0
  else
    let (k, last) := shortest mantissa power
    let digits := natDigits k
    let e := last + digits.length - 1
    if f.lowest ≤ e && e ≤ f.highest then positional f.pointZero digits e else exponential digits e

def NumberFormat.write (f : NumberFormat) : Binary → String
  | .finite negative m p => String.ofList ((if negative then ['-'] else []) ++ f.magnitude m p)
  | .infinite negative => (if negative then "-" else "") ++ f.infinity

end BindingStubs.Decimal
