import VideoCodec.Text.Binary64
/-!
# Decimal text of binary floating-point numbers

`Binary64.fixed places x` writes the *exact* value of `x` rounded to `places`
decimals, a half going to the even neighbour, with as many integer digits as
the value needs and a minus sign whenever the sign bit is set, negative zero
included. Not-a-number is written `NaN` and the infinities `inf` and `-inf`.

`Binary64.shortest x` writes the fewest significant digits that read back as
`x`, the way a decoder quotes a floating-point value it did not expect.
-/

namespace VideoCodec.Text

namespace Binary64

/-- A number written with exactly `width` digits, zeros in front. -/
def padDigits (width n : Nat) : String :=
  let d := toString n
  String.ofList (List.replicate (width - d.length) '0') ++ d

/-- The exact value rounded to `places` decimals. -/
def fixed (places : Nat) : Binary64 → String
  | .nan => "NaN"
  | .inf neg => if neg then "-inf" else "inf"
  | .finite neg m e =>
    let unit := Nat.pow 10 places
    let scaled :=
      if 0 ≤ e then m * Nat.pow 2 e.toNat * unit else roundHalfEven (m * unit) (Nat.pow 2 (-e).toNat)
    let whole := toString (scaled / unit)
    let frac := if places = 0 then "" else "." ++ padDigits places (scaled % unit)
    (if neg then "-" else "") ++ whole ++ frac

example : fixed 2 (.finite false 1 (-3)) = "0.12" := by decide +kernel
example : fixed 2 (.finite false 3 (-3)) = "0.38" := by decide +kernel
example : fixed 2 (.finite true 0 (-1074)) = "-0.00" := by decide +kernel

/-- The position of the decimal point in the digits of the positive fraction
`num / den`: the `p` with `10^(p-1) ≤ num / den < 10^p`. -/
def pointOf (num den : Nat) : Int :=
  if num ≥ den then (toString (num / den)).length
  else -(((List.range 400).find? fun t => num * Nat.pow 10 (t + 1) ≥ den).getD 0 : Nat)

/-- The shortest digits of `x`, of value `num / den` with sign `neg`, that read
back as `x`, with their power of ten: for each length from 1 to 17, the
digits nearest to the value, kept at the first length that reads back. Every
finite value reads back from its 17 nearest digits. -/
def shortestDigits (x : Binary64) (neg : Bool) (num den : Nat) : List Char × Int :=
  let p := pointOf num den
  let pick := (List.range 17).findSome? fun (k : Nat) =>
    let q : Int := p - ((k : Int) + 1)
    let r := if q ≤ 0 then roundHalfEven (num * Nat.pow 10 q.natAbs) den
      else roundHalfEven num (den * Nat.pow 10 q.natAbs)
    if ofDecimal neg r q = x then some ((toString r).toList, q) else none
  pick.getD (['0'], 0)

/-- Digits `ds` with their point after `point` of them: positionally while the
point lies within sixteen digits of the front or at most five zeros before
them, a whole number keeping a `.0`; otherwise as `d.ddd` with an exponent. -/
def layout (ds : List Char) (point : Int) : String :=
  let n : Int := ds.length
  let zeros (z : Int) := String.ofList (List.replicate z.toNat '0')
  let e := toString (point - 1)
  if 0 ≤ point - n && point ≤ 16 then String.ofList ds ++ zeros (point - n) ++ ".0"
  else if 0 < point && point ≤ 16 then
    String.ofList (ds.take point.toNat) ++ "." ++ String.ofList (ds.drop point.toNat)
  else if -5 < point && point ≤ 0 then "0." ++ zeros (-point) ++ String.ofList ds
  else match ds with
    | c :: rest@(_ :: _) => String.ofList [c] ++ "." ++ String.ofList rest ++ "e" ++ e
    | _ => String.ofList ds ++ "e" ++ e

/-- The shortest decimal text that reads back as `x`; zeros are `0.0` and
`-0.0`. -/
def shortest (x : Binary64) : String :=
  match x.fraction? with
  | none => fixed 0 x
  | some (neg, num, den) =>
    let sign := if neg then "-" else ""
    if num = 0 then sign ++ "0.0" else
    let (s, q) := shortestDigits x neg num den
    let ds := (s.reverse.dropWhile (· == '0')).reverse
    sign ++ layout ds (s.length + q)

example : shortest (ofDecimal false 15 (-1)) = "1.5" := by decide +kernel
example : shortest (ofDecimal false 1 20) = "1e20" := by decide +kernel
example : shortest (ofDecimal true 64 0) = "-64.0" := by decide +kernel
example : shortest (ofDecimal false 1 (-7)) = "1e-7" := by decide +kernel

end Binary64

end VideoCodec.Text
