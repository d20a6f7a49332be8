/-!
# Hexadecimal text

Addresses in messages are written in lowercase hexadecimal after `0x`, and byte
strings are written as two lowercase hexadecimal digits per byte.
-/

namespace VideoCodec.Text

/-- The lowercase hexadecimal digits of a number, without leading zeros. -/
def hexDigits (n : Nat) : String :=
  String.ofList (Nat.toDigits 16 n)

/-- A number as `0x` followed by its lowercase hexadecimal digits. -/
def hexPrefixed (n : Nat) : String :=
  "0x" ++ hexDigits n

/-- A byte as exactly two lowercase hexadecimal digits. -/
def hexByte (b : UInt8) : String :=
  let d := Nat.toDigits 16 b.toNat
  String.ofList (if d.length < 2 then '0' :: d else d)

/-- A byte string as two lowercase hexadecimal digits per byte. -/
def hexBytes (bs : List UInt8) : String :=
  String.join (bs.map hexByte)

example : hexPrefixed 255 = "0xff" := by decide +kernel
example : hexBytes [0, 10, 255] = "000aff" := by decide +kernel

end VideoCodec.Text
