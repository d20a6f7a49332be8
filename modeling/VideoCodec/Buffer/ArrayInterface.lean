import VideoCodec.Error
/-!
# Array interfaces and streams

An **array interface** describes one array in device memory the way the
version-3 CUDA array interface does: shape, optional byte strides, a type
string, the address with a read-only flag, the interface version and an
optional stream handle.

Stream handle 0 is refused by that protocol; handles 1 and 2 are the two
default streams and mean "no particular stream" (`normalizeStream`); every
other handle is kept.
-/

namespace VideoCodec

/-- The interface version this library writes. -/
def arrayInterfaceVersion : Nat := 3

/-- A description of one array in device memory. -/
structure ArrayInterface where
  shape : List Nat
  strides : Option (List Nat)
  typestr : String
  data : Nat
  readOnly : Bool
  version : Nat
  stream : Option Nat
  deriving DecidableEq, Repr

/-- The stream an array is ordered on: nothing for the default streams 1 and
2 and for no stream, a failure for the forbidden stream 0, and the handle
otherwise. -/
def normalizeStream : Option Nat → Except CodecError (Option Nat)
  | some 0 => .error .invalidStream
  | none | some 1 | some 2 => .ok none
  | some h => .ok (some h)

end VideoCodec
