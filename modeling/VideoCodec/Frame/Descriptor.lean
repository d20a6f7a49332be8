import VideoCodec.Buffer.PlaneView
import VideoCodec.Buffer.Tensor
/-!
# Frame descriptors

A decoded frame is one address in device memory; `assemble` cuts it into its
planes, which lie back to back without padding at `planeOffsets`. Plane
addresses are 64-bit, so a plane whose address would pass `2⁶⁴ - 1` is a
failure (`CodecError.addressOverflow`), never a wrapped address.

The frames of the two formats whose planes are rows of single bytes or
byte pairs of the frame's width can also be seen as one tensor of all their
rows (`FrameDescriptor.coalesce`): `3h/2` rows for NV12 and `3h` rows for
planar 4:4:4, each `w` wide.
-/

namespace VideoCodec

/-- The largest address plus one. -/
def addressLimit : Nat := 0x10000000000000000

/-- A frame in device memory, plane by plane. -/
structure FrameDescriptor where
  timestamp : Int
  format : PixelFormat
  width : Nat
  height : Nat
  planes : List PlaneView
  deriving DecidableEq, Repr

/-- The plane `plane` of a frame at `ptr`, placed at `offset`. -/
def placePlane (ptr : Nat) (f : PixelFormat) (width height : Nat) (stream : Option Nat)
    (device : Int) (offsets : List Nat) (plane : Nat) : Except CodecError PlaneView := do
  let l ← PlaneLayout.resolve f width height plane
  let offset := offsets.getD plane 0
  if ptr + offset < addressLimit then pure (PlaneView.ofLayout l (ptr + offset) stream device)
  else throw (.addressOverflow ptr offset)

/-- Cuts the frame at `ptr` into its planes. -/
def assemble (ptr : Nat) (f : PixelFormat) (width height : Nat) (timestamp : Int)
    (stream : Option Nat) (device : Int) : Except CodecError FrameDescriptor := do
  let offsets ← planeOffsets f width height
  let planes ← (List.range f.planeCount).mapM (placePlane ptr f width height stream device offsets)
  pure { timestamp := timestamp, format := f, width := width, height := height, planes := planes }

namespace FrameDescriptor

/-- The address of the frame: that of its first plane, or 0 without planes. -/
def data (d : FrameDescriptor) : Nat :=
  (d.planes.head?.map PlaneView.data).getD 0

/-- Bytes covered by all planes, added plane by plane in a machine word. -/
def frameSize (d : FrameDescriptor) : Except CodecError Nat :=
  d.planes.foldlM (fun total v => do
    let size ← v.byteSize
    Word.add total size) 0

/-- The address of plane `index`. -/
def planePtr (d : FrameDescriptor) (index : Nat) : Except CodecError Nat :=
  match d.planes[index]? with
  | some p => .ok p.data
  | none => .error (.invalidPlaneIndex d.format index d.planes.length)

/-- The rows of a frame seen as one tensor, for the formats that allow it. -/
def coalescedRows (f : PixelFormat) (height : Nat) : Option Nat :=
  match f with
  | .nv12 => some (height * 3 / 2)
  | .yuv444 => some (height * 3)
  | _ => none

/-- The frame as one tensor of all its rows. -/
def coalesce (d : FrameDescriptor) : Except CodecError TensorView :=
  match coalescedRows d.format d.height with
  | none => .error (.unsupportedFormat d.format)
  | some rows =>
    match d.planes.head? with
    | none => .error (.missingPlanes d.format.planeCount 0)
    | some luma =>
      .ok {
        rows := rows, cols := d.width, rowStride := d.width, colStride := 1,
        element := luma.element, data := luma.data, device := luma.device, stream := luma.stream }

end FrameDescriptor

end VideoCodec
