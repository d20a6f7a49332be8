/-!
# Decimal integers of a fixed width

Numbers in option text are plain decimal numerals: an optional sign, then one
or more ASCII digits, nothing else. No blank, no digit separator, no other
script's digits. A value outside the width of the target integer is refused,
never wrapped.

* `Text.readNat? limit s` reads an unsigned numeral: an optional `+`, then
  digits denoting a value below `limit`.
* `Text.readInt? limit s` reads a signed numeral: an optional `+` or `-`, then
  digits denoting a value in `[-limit, limit)`.
-/

namespace VideoCodec.Text

/-- The value of a non-empty run of ASCII digits, most significant first. -/
def digitsValue? (cs : List Char) : Option Nat :=
  if cs ≠ [] ∧ cs.all Char.isDigit then
    some (cs.foldl (fun n c => 10 * n + (c.toNat - '0'.toNat)) 0)
  else none

/-- The digits after an optional plus sign. -/
def unsignedDigits : List Char → List Char
  | '+' :: cs => cs
  | cs => cs

/-- Reads an unsigned numeral whose value lies below `limit`. -/
def readNatChars? (limit : Nat) (cs : List Char) : Option Nat :=
  match digitsValue? (unsignedDigits cs) with
  | some n => if n < limit then some n else none
  | none => none

/-- Reads an unsigned numeral whose value lies below `limit`. -/
def readNat? (limit : Nat) (s : String) : Option Nat :=
  readNatChars? limit s.toList

/-- Reads a signed numeral whose value lies in `[-limit, limit)`. -/
def readInt? (limit : Nat) (s : String) : Option Int :=
  match s.toList with
  | '-' :: cs =>
    match digitsValue? cs with
    | some n => if n ≤ limit then some (-(n : Int)) else none
    | none => none
  | cs =>
    match digitsValue? (unsignedDigits cs) with
    | some n => if n < limit then some (n : Int) else none
    | none => none

/-- One more than the greatest 8-bit unsigned value. -/
def limitU8 : Nat := 0x100
/-- One more than the greatest 16-bit unsigned value. -/
def limitU16 : Nat := 0x10000
/-- One more than the greatest 32-bit unsigned value. -/
def limitU32 : Nat := 0x100000000
/-- One more than the greatest 64-bit unsigned value. -/
def limitU64 : Nat := 0x10000000000000000
/-- The magnitude bound of a 32-bit signed value. -/
def limitI32 : Nat := 0x80000000

example : readNat? limitU32 "+42" = some 42 := by decide +kernel
example : readNat? limitU32 "4294967296" = none := by decide +kernel
example : readNat? limitU32 "-0" = none := by decide +kernel
example : readInt? limitI32 "-2147483648" = some (-2147483648) := by decide +kernel
example : readInt? limitI32 "2147483648" = none := by decide +kernel

end VideoCodec.Text
