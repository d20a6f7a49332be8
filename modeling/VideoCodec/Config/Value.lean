import VideoCodec.Error
import VideoCodec.Text.Blank
import VideoCodec.Text.Decimal
/-!
# Option values: sizes, frame rates, bitrates and quantisers

The value syntaxes of the options that are more than one number.

* A **resolution** is `W x H` or `W , H`: the text is cut at its first `x`, or
  failing that its first `,`, and each side, trimmed, is a 32-bit number.
* A **frame rate** is a decimal with at most two fractional digits kept:
  `29.97` is `2997/100`, `23.976` is cut to `2397/100`, `60` is `60/1`. The
  rate must not be zero. The fraction is cut after its first two *bytes*;
  a cut that falls inside a character stops the program
  (`CodecError.halted`), with the text that names the byte and the character.
* A **bitrate** is a 32-bit number with an optional suffix `k`/`K` (times
  1024) or `m`/`M` (times 1024²); a product that does not fit 32 bits is
  refused, never wrapped.
* A **quantiser triple** is one number for all three frame types or
  `p,b,i`.

Every failure quotes the whole value as given, untrimmed.
-/

namespace VideoCodec

/-- Quantisation parameters for inter P, inter B and intra frames. -/
structure Qp where
  interP : Nat
  interB : Nat
  intra : Nat
  deriving DecidableEq, Repr

namespace Qp

/-- The same parameter for all three frame types. -/
def uniform (q : Nat) : Qp := ⟨q, q, q⟩

/-- All parameters zero. -/
def zero : Qp := uniform 0

/-- The constant quantisers of a fresh rate control: 28, 31 and 25. -/
def defaultConst : Qp := ⟨28, 31, 25⟩

/-- Reads one quantiser or a `p,b,i` triple; any other shape, or a part that
is no 32-bit number, gives nothing. -/
def read? (s : String) : Option Qp :=
  match (s.splitOn ",").mapM (fun v => Text.readNat? Text.limitU32 (Text.trim v)) with
  | some [q] => some (uniform q)
  | some [p, b, i] => some ⟨p, b, i⟩
  | _ => none

end Qp

/-- Splits a character list at the first occurrence of `c`. -/
def splitAtFirst (c : Char) (cs : List Char) : Option (List Char × List Char) :=
  match cs.span (· ≠ c) with
  | (l, _ :: r) => some (l, r)
  | (_, []) => none

/-- Reads `WxH` or `W,H` into a width and a height. -/
def readResolution (s : String) : Except CodecError (Nat × Nat) :=
  let cs := s.toList
  let halves := (splitAtFirst 'x' cs).orElse fun _ => splitAtFirst ',' cs
  match halves with
  | none => .error (.invalidResolution s)
  | some (l, r) =>
    match Text.readNat? Text.limitU32 (Text.trim (String.ofList l)),
        Text.readNat? Text.limitU32 (Text.trim (String.ofList r)) with
    | some w, some h => .ok (w, h)
    | _, _ => .error (.invalidResolution s)

/-- Number of bytes of a character list in UTF-8. -/
def utf8Length (cs : List Char) : Nat :=
  (cs.map Char.utf8Size).foldr (· + ·) 0

/-- The longest prefix of a character list that fits in `n` bytes of UTF-8. -/
def prefixWithin : Nat → List Char → List Char
  | n, c :: cs => if c.utf8Size ≤ n then c :: prefixWithin (n - c.utf8Size) cs else []
  | _, [] => []

/-- The text a program stops with when it ends a slice of `s` at byte `index`
inside a character: the index, the character and its byte range in `s`. -/
def cutInsideText (s : List Char) (index : Nat) : String :=
  let before := prefixWithin index s
  let start := utf8Length before
  let ch := (s.drop before.length).headD ' '
  let stop := start + ch.utf8Size
  s!"end byte index {index} is not a char boundary; it is inside " ++ Text.quoteChar ch ++
    s!" (bytes {start}..{stop} of string)"

/-- The first two bytes of a fraction, or the stop when the cut falls inside
a character. -/
def fractionDigits (frac : List Char) : Except CodecError (List Char) :=
  let kept := prefixWithin 2 frac
  if utf8Length kept = min 2 (utf8Length frac) then .ok kept
  else .error (.halted (cutInsideText frac 2))

/-- Reads a decimal frame rate into an exact numerator and denominator. -/
def readFrameRate (s : String) : Except CodecError (Nat × Nat) := do
  let t := (Text.trim s).toList
  let (int, frac) := (splitAtFirst '.' t).getD (t, [])
  let frac ← fractionDigits frac
  if int = [] ∨ ¬ (int ++ frac).all Char.isDigit then throw (.invalidFrameRate s)
  match Text.readNat? Text.limitU32 (String.ofList (int ++ frac)) with
  | some num => if num = 0 then throw (.invalidFrameRate s) else pure (num, Nat.pow 10 frac.length)
  | none => throw (.invalidFrameRate s)

/-- The multiplier of a bitrate suffix. -/
def bitrateUnit? : Char → Option Nat
  | 'k' | 'K' => some 1024
  | 'm' | 'M' => some (1024 * 1024)
  | _ => none

/-- Reads a bitrate with an optional `k`/`K` or `m`/`M` suffix. -/
def readBitrate (s : String) : Except CodecError Nat :=
  let t := (Text.trim s).toList
  match t.getLast? with
  | none => .error (.invalidBitrate s)
  | some last =>
    let (digits, unit) := match bitrateUnit? last with
      | some u => (t.dropLast, u)
      | none => (t, 1)
    match Text.readNat? Text.limitU32 (String.ofList digits) with
    | some n => if n * unit < Text.limitU32 then .ok (n * unit) else .error (.invalidBitrate s)
    | none => .error (.invalidBitrate s)

example : readFrameRate "29.97" = .ok (2997, 100) := by cbv
example : readFrameRate "23.976" = .ok (2397, 100) := by cbv
example : readBitrate "4095M" = .ok 4293918720 := by cbv
example : readBitrate "4096M" = .error (.invalidBitrate "4096M") := by cbv

end VideoCodec
