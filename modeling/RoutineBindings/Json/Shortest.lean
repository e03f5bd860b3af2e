/-!
# Shortest decimals of doubles

The shortest decimal that reads back as a given double, and of several the nearest. The
double is taken apart into `m * 2 ^ q`; the reals that round to it form an interval, whose
ends belong to it when `m` is even. For each number of digits only the two neighbours of the
double on that decimal grid can lie in the interval nearest to it.
-/
namespace RoutineBindings.Json

/-- A positive binary number `mantissa * 2 ^ exponent`. -/
structure Binary where
  mantissa : Nat
  exponent : Int
  /-- Whether the next smaller double is only half as far away as the next larger. -/
  atBoundary : Bool
  deriving Repr, DecidableEq

/-- A decimal `digits * 10 ^ exponent`. -/
structure Decimal where
  digits : Nat
  exponent : Int
  deriving Repr, DecidableEq

/-- The number of fractions that the bits of a double can state. -/
def fractionCount : Nat := Nat.pow 2 52

/-- The number of exponents that the bits of a double can state; the last is no number's. -/
def scaleCount : Nat := Nat.pow 2 11

/-- The exponent in the bits of a double. -/
def scaleOf (bits : Nat) : Nat := bits / fractionCount % scaleCount

/-- Whether the bits of a double have the sign set. -/
def isNegative (bits : Nat) : Bool := bits / (fractionCount * scaleCount) = 1

/-- Takes the bits of a finite double apart, the sign left out. -/
def Binary.ofBits (bits : Nat) : Binary :=
  let fraction := bits % fractionCount
  let scale := scaleOf bits
  if scale = 0 then ⟨fraction, -1074, false⟩
  else ⟨fractionCount + fraction, Int.ofNat scale - 1075, fraction = 0 && scale > 1⟩

/-- A non-negative number as a fraction. -/
structure Ratio where
  num : Nat
  den : Nat
  deriving Repr

def Ratio.le (a b : Ratio) : Bool := a.num * b.den ≤ b.num * a.den

def Ratio.lt (a b : Ratio) : Bool := a.num * b.den < b.num * a.den

/-- The fraction `n * base ^ e`. -/
def scaled (n base : Nat) (e : Int) : Ratio :=
  if 0 ≤ e then ⟨n * Nat.pow base e.toNat, 1⟩ else ⟨n, Nat.pow base (-e).toNat⟩

/-- The number itself, in quarters of its last place. -/
def Binary.quarters (b : Binary) (n : Nat) : Ratio := scaled n 2 (b.exponent - 2)

def Binary.value (b : Binary) : Ratio := b.quarters (4 * b.mantissa)

def Binary.lowEnd (b : Binary) : Ratio :=
  b.quarters (4 * b.mantissa - (if b.atBoundary then 1 else 2))

def Binary.highEnd (b : Binary) : Ratio := b.quarters (4 * b.mantissa + 2)

/-- Whether a number rounds to the binary number. -/
def Binary.takes (b : Binary) (r : Ratio) : Bool :=
  if b.mantissa % 2 = 0 then b.lowEnd.le r && r.le b.highEnd
  else b.lowEnd.lt r && r.lt b.highEnd

def Decimal.value (d : Decimal) : Ratio := scaled d.digits 10 d.exponent

/-- The number of decimal digits. -/
def digitCount (n : Nat) : Nat := (toString n).length

/-- The power of ten just above a fraction: `10 ^ (k - 1) ≤ r < 10 ^ k`. -/
def Ratio.magnitude (r : Ratio) : Int :=
  let k := Int.ofNat (digitCount r.num) - Int.ofNat (digitCount r.den)
  if r.lt (scaled 1 10 k) then k else k + 1

/-- The neighbour of the binary number with a given number of digits, if one rounds to it. -/
def Binary.nearest? (b : Binary) (count : Nat) : Option Decimal :=
  let v := b.value
  let e := v.magnitude - count
  let unit := scaled 1 10 e
  let below := v.num * unit.den / (v.den * unit.num)
  let low : Decimal := ⟨below, e⟩
  let high : Decimal := ⟨below + 1, e⟩
  let middle := scaled (2 * below + 1) 10 e
  let doubled : Ratio := ⟨2 * v.num, v.den⟩
  let first := doubled.lt middle || (doubled.le middle && below % 2 = 0)
  let (near, far) := if first then (low, high) else (high, low)
  if b.takes near.value then some near
  else if b.takes far.value then some far
  else none

/-- Drops zeros at the end of the digits. -/
def Decimal.strip (d : Decimal) : Nat → Decimal
  | 0 => d
  | n + 1 => if d.digits % 10 = 0 && d.digits ≠ 0 then
      Decimal.strip ⟨d.digits / 10, d.exponent + 1⟩ n else d

/-- The shortest decimal, trying `count` digits and then more. -/
def Binary.shortestFrom (b : Binary) (count : Nat) : Nat → Decimal
  | 0 => ⟨b.mantissa, 0⟩
  | more + 1 =>
    match b.nearest? count with
    | some d => d.strip 20
    | none => b.shortestFrom (count + 1) more

def Binary.shortest (b : Binary) : Decimal := b.shortestFrom 1 17

end RoutineBindings.Json
