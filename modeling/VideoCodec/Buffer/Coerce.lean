import VideoCodec.Buffer.PlaneView
/-!
# Checking a caller's plane

`coerce` turns an array interface that a caller hands in as plane `p` of a
`w × h` frame into a `PlaneView`, or says why it cannot. The checks run in a
fixed order, so that of two faults the earlier one is reported:

1. the layout of the plane (sizes, format, plane index);
2. the stream (0 is refused);
3. the type string against the format's sample type;
4. the shape against the layout's, exactly;
5. the strides, when given, against the layout's;
6. the device the address lives on (a null address is unknown);
7. that device against the session's.

A view keeps the caller's address and read-only flag and the normalised
stream; everything else comes from the layout.
-/

namespace VideoCodec

/-- Device memory as the session sees it: every address but null lives on one
device, `ordinal`. -/
structure DeviceMemory where
  ordinal : Int
  deriving DecidableEq, Repr

/-- The device an address lives on; the null address is not device memory. -/
def DeviceMemory.deviceOf (m : DeviceMemory) (ptr : Nat) : Except CodecError Int :=
  if ptr = 0 then .error (.cudaError "invalid device pointer") else .ok m.ordinal

/-- Checks an array interface as plane `plane` of a frame, for a session on
`device`. -/
def coerce (m : DeviceMemory) (device : Int) (desc : ArrayInterface) (f : PixelFormat)
    (width height plane : Nat) : Except CodecError PlaneView := do
  let l ← PlaneLayout.resolve f width height plane
  let stream ← normalizeStream desc.stream
  if !l.element.accepts desc.typestr then
    throw (.formatMismatch l.element.typestr desc.typestr)
  if desc.shape ≠ l.shape.toList then
    throw (.shapeMismatch l.shape.toList desc.shape)
  match desc.strides with
  | some s => if s ≠ l.strides.toList then throw (.strideMismatch l.strides.toList s)
  | none => pure ()
  let found ← m.deviceOf desc.data
  if found ≠ device then throw (.deviceMismatch device found)
  pure { PlaneView.ofLayout l desc.data stream found with readOnly := desc.readOnly }

end VideoCodec
