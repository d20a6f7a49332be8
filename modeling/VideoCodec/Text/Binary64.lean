/-!
# Binary64 values

A 64-bit binary floating-point number is not a number, an infinity, or a sign
with an integer significand `m` and a power of two `e`, of value `m · 2^e`,
where `m` has at most 53 bits and `e ≥ -1074`. Finite values are kept in the
one form the 64-bit encoding gives them (`Binary64.ofBits`): `2⁵² ≤ m < 2⁵³`
for normal numbers and `e = -1074` for the subnormal ones.

`Binary64.ofDecimal` reads a decimal `m · 10^e` to the nearest such number, a
half going to the even significand, and to an infinity past the largest
finite one. `Binary64.mul` and `Binary64.div` multiply and divide with the
same rounding, `Binary64.mulNat` multiplies by a natural number, and `Binary64.toNatSat` cuts the fraction off a value and clamps
it into `[0, 2⁶⁴ - 1]`, not-a-number giving 0.
-/

namespace VideoCodec.Text

/-- A binary64 value: not a number, an infinity, or `(-1)^neg · m · 2^e`. -/
inductive Binary64 where
  | nan
  | inf (neg : Bool)
  | finite (neg : Bool) (m : Nat) (e : Int)
  deriving DecidableEq, Repr

/-- The quotient `num / den` rounded to the nearest integer, a half going to
the even neighbour. -/
def roundHalfEven (num den : Nat) : Nat :=
  let q := num / den
  let r := num % den
  if 2 * r < den then q
  else if 2 * r > den then q + 1
  else if q % 2 = 0 then q else q + 1

namespace Binary64

/-- Decodes the 64 bits of a binary64 value. -/
def ofBits (b : UInt64) : Binary64 :=
  let bits : Nat := b.toNat
  let neg := decide (bits / Nat.pow 2 63 = 1)
  let ex : Nat := (bits / Nat.pow 2 52) % Nat.pow 2 11
  let frac : Nat := bits % Nat.pow 2 52
  if ex = 2047 then (if frac = 0 then .inf neg else .nan)
  else if ex = 0 then .finite neg frac (-1074)
  else .finite neg (frac + Nat.pow 2 52) ((ex : Int) - 1075)

/-- The fraction `num / den` scaled by `2^(-q)`, as a numerator and a
denominator. -/
def scaled (num den : Nat) (q : Int) : Nat × Nat :=
  if 0 ≤ q then (num, den * Nat.pow 2 q.toNat) else (num * Nat.pow 2 (-q).toNat, den)

/-- The nearest binary64 value of sign `neg` to the positive fraction
`num / den`. -/
def ofFraction (neg : Bool) (num den : Nat) : Binary64 :=
  if num = 0 ∨ den = 0 then .finite neg 0 (-1074)
  else
    let q0 : Int := (num.log2 : Int) - den.log2 - 52
    let (a0, b0) := scaled num den q0
    let q1 := if a0 / b0 ≥ Nat.pow 2 52 then q0 else q0 - 1
    let q := max q1 (-1074)
    let (a, b) := scaled num den q
    let m := roundHalfEven a b
    let (m, q) := if m = Nat.pow 2 53 then (Nat.pow 2 52, q + 1) else (m, q)
    if q > 971 then .inf neg else .finite neg m q

/-- The nearest binary64 value to the decimal `(-1)^neg · m · 10^e`. -/
def ofDecimal (neg : Bool) (m : Nat) (e : Int) : Binary64 :=
  if 0 ≤ e then ofFraction neg (m * Nat.pow 10 e.toNat) 1 else ofFraction neg m (Nat.pow 10 (-e).toNat)

/-- The value times a natural number, rounded to the nearest binary64 value. -/
def mulNat (x : Binary64) (k : Nat) : Binary64 :=
  match x with
  | .nan => .nan
  | .inf neg => if k = 0 then .nan else .inf neg
  | .finite neg m e =>
    if 0 ≤ e then ofFraction neg (m * k * Nat.pow 2 e.toNat) 1 else ofFraction neg (m * k) (Nat.pow 2 (-e).toNat)

/-- The exact value of a finite number as a sign, a numerator and a
denominator; nothing for not-a-number and the infinities. -/
def fraction? : Binary64 → Option (Bool × Nat × Nat)
  | .finite neg m e => some (neg, if 0 ≤ e then (m * Nat.pow 2 e.toNat, 1) else (m, Nat.pow 2 (-e).toNat))
  | _ => none

/-- Whether the value is a zero of either sign. -/
def isZero : Binary64 → Bool
  | .finite _ m _ => m = 0
  | _ => false

/-- The product of two values, rounded to the nearest binary64 value: not a
number when either is or when an infinity meets a zero, an infinity when one
factor is, and otherwise the exact product rounded; the sign is the
exclusive or of the signs. -/
def mul (x y : Binary64) : Binary64 :=
  match x, y with
  | .nan, _ | _, .nan => .nan
  | .inf a, .inf b => .inf (a != b)
  | .inf a, .finite b m _ | .finite b m _, .inf a => if m = 0 then .nan else .inf (a != b)
  | .finite a m e, .finite b n f =>
    match (Binary64.finite a m e).fraction?, (Binary64.finite b n f).fraction? with
    | some (_, p, q), some (_, r, t) => ofFraction (a != b) (p * r) (q * t)
    | _, _ => .nan

/-- The quotient of two values, rounded to the nearest binary64 value: not a
number when either is, for two infinities and for two zeros; an infinity over
a finite value is an infinity, a finite value over an infinity a zero, a
nonzero value over a zero an infinity, and otherwise the exact quotient
rounded; the sign is the exclusive or of the signs. -/
def div (x y : Binary64) : Binary64 :=
  match x, y with
  | .nan, _ | _, .nan => .nan
  | .inf _, .inf _ => .nan
  | .inf a, .finite b _ _ => .inf (a != b)
  | .finite a _ _, .inf b => .finite (a != b) 0 (-1074)
  | .finite a m e, .finite b n f =>
    match (Binary64.finite a m e).fraction?, (Binary64.finite b n f).fraction? with
    | some (_, p, q), some (_, r, t) =>
      if n = 0 then (if m = 0 then .nan else .inf (a != b))
      else ofFraction (a != b) (p * t) (q * r)
    | _, _ => .nan

/-- The value with its sign flipped; not-a-number stays. -/
def negate : Binary64 → Binary64
  | .nan => .nan
  | .inf neg => .inf (!neg)
  | .finite neg m e => .finite (!neg) m e

/-- The greater of the value and zero; not-a-number gives zero. -/
def maxZero : Binary64 → Binary64
  | .nan => .finite false 0 (-1074)
  | .inf true => .finite false 0 (-1074)
  | .finite true _ _ => .finite false 0 (-1074)
  | x => x

/-- The largest 64-bit unsigned value. -/
def natLimit : Nat := 0xFFFFFFFFFFFFFFFF

/-- The value without its fraction, clamped into `[0, 2⁶⁴ - 1]`; not a number
gives 0. -/
def toNatSat : Binary64 → Nat
  | .nan => 0
  | .inf neg => if neg then 0 else natLimit
  | .finite true _ _ => 0
  | .finite false m e =>
    min natLimit (if 0 ≤ e then m * Nat.pow 2 e.toNat else m / Nat.pow 2 (-e).toNat)

example : ofDecimal false 1 0 = .finite false (2 ^ 52) (-52) := by decide +kernel
example : (ofDecimal false 1 1).div (ofDecimal false 1 1) = ofDecimal false 1 0 := by decide +kernel
example : ofBits 0x3FF0000000000000 = .finite false (2 ^ 52) (-52) := by decide +kernel

end Binary64

end VideoCodec.Text
