import VideoCodec.Buffer.Coerce
import VideoCodec.Buffer.Tensor
/-!
# Encoder input

A frame reaches the encoder through one of four buffer protocols: a single
array interface (the packed formats), a list of per-plane array interfaces,
one tensor holding a whole 4:2:0 frame (NV12 and P010 only), or a plain host
buffer. `InputConfig.prepare` picks the protocol the session's format allows,
checks the frame, and describes the copy into an encoder input slot as a
`FrameCopy`: where the luma rows start, the source row pitch, and where each
further plane starts relative to the luma plane.

Any device protocol takes precedence over a host buffer. A host buffer needs
host input to be enabled and must hold at least a whole frame. Planes in
device memory must lie in plane order, each after the one before it. A tensor
is taken as is once its memory kind, device, bit width and row count agree
with the session; its address, pitch and chroma offset are computed in machine
words, and one past the largest word stops the program.
-/

namespace VideoCodec

/-- What a caller's frame exposes: any of the four buffer protocols. A host
buffer is known by its length. -/
structure FrameSource where
  array : Option ArrayInterface := none
  planes : Option (List ArrayInterface) := none
  tensor : Option DlTensor := none
  host : Option Nat := none
  deriving DecidableEq, Repr

/-- Where a copy reads from: an address in device memory, or a host buffer of
a given length. -/
inductive CopySource where
  | device (ptr : Nat)
  | host (length : Nat)
  deriving DecidableEq, Repr

/-- The description of one copy of a caller's frame into an input slot. -/
structure FrameCopy where
  source : CopySource
  srcPitch : Nat
  chromaOffsets : List Nat
  width : Nat
  height : Nat
  format : PixelFormat
  deriving DecidableEq, Repr

/-- What an encoder session accepts as input frames. -/
structure InputConfig where
  memory : DeviceMemory
  device : Int
  format : PixelFormat
  width : Nat
  height : Nat
  hostInput : Bool
  deriving DecidableEq, Repr

/-- The failure when plane `plane` does not start after the plane before it. -/
def ensureFollows (plane : Nat) (previous next : PlaneView) : Except CodecError Unit :=
  if next.data ≤ previous.data then .error (.invalidPlaneOrder plane previous.data next.data)
  else .ok ()

/-- The greater of an integer and zero, as a natural number. -/
def clampToNat (i : Int) : Nat := i.toNat

namespace InputConfig

/-- A copy from device memory whose luma plane is `luma`. -/
def deviceCopy (c : InputConfig) (luma : PlaneView) (chroma : List Nat) : FrameCopy :=
  { source := .device luma.data, srcPitch := luma.rowPitch, chromaOffsets := chroma,
    width := c.width, height := c.height, format := c.format }

/-- Checks the plane list of a frame, plane by plane. -/
def coercePlanes (c : InputConfig) (src : FrameSource) : Except CodecError (List PlaneView) :=
  match src.planes with
  | none => .error .unsupportedInputType
  | some descs =>
    if descs.length ≠ c.format.planeCount then
      .error (.missingPlanes c.format.planeCount descs.length)
    else
      (descs.zipIdx.mapM fun (d, i) => coerce c.memory c.device d c.format c.width c.height i)

/-- The copy of a frame given as one tensor. -/
def prepareTensor (c : InputConfig) (t : DlTensor) : Except CodecError FrameCopy := do
  if !t.deviceType.isCudaAccessible then throw (.inaccessibleDevice t.deviceType.code)
  if t.deviceId ≠ c.device then throw (.deviceMismatch c.device t.deviceId)
  let e := c.format.element
  let bits := t.dtype.bits
  if bits ≠ e.bits then throw (.formatMismatch e.typestr s!"dlpack uint{bits}")
  let rows := clampToNat (t.shape.headD 0)
  let expected := c.height * 3 / 2
  if rows ≠ expected then
    throw (.dimensionMismatch "tensor height must be 1.5 times the frame height" expected rows)
  let rowElements := match t.strides.head? with
    | some s => clampToNat s
    | none => clampToNat (t.shape.getD 1 0)
  let source ← Word.add t.data t.byteOffset
  let pitch ← Word.mul rowElements e.size
  let lumaSamples ← Word.mul c.width c.height
  let chroma ← Word.mul lumaSamples e.size
  pure {
    source := .device source, srcPitch := pitch, chromaOffsets := [chroma], width := c.width,
    height := c.height, format := c.format }

/-- The copy of a frame in device memory. -/
def prepareDevice (c : InputConfig) (src : FrameSource) : Except CodecError FrameCopy :=
  match c.format with
  | .argb | .abgr | .argb10 | .abgr10 =>
    match src.array with
    | none => .error .unsupportedInputType
    | some desc => do
      let v ← coerce c.memory c.device desc c.format c.width c.height 0
      pure (c.deviceCopy v [])
  | .nv12 | .p010 =>
    match src.tensor with
    | some t => c.prepareTensor t
    | none => do
      let planes ← c.coercePlanes src
      match planes with
      | [luma, chroma] =>
        if luma.rowPitch ≠ chroma.rowPitch then
          throw (.strideMismatch luma.strides.toList chroma.strides.toList)
        ensureFollows 1 luma chroma
        pure (c.deviceCopy luma [chroma.data - luma.data])
      | _ => throw (.missingPlanes c.format.planeCount planes.length)
  | .yuv444 | .yuv444P16 | .yv12 => do
    let planes ← c.coercePlanes src
    match planes with
    | [y, u, v] =>
      if u.rowPitch ≠ v.rowPitch then
        throw (.strideMismatch u.strides.toList v.strides.toList)
      ensureFollows 1 y u
      ensureFollows 2 u v
      pure (c.deviceCopy y [u.data - y.data, v.data - y.data])
    | _ => throw (.missingPlanes c.format.planeCount planes.length)
  | .undefined => .error (.unsupportedFormat c.format)

/-- The copy of a frame in a host buffer of `length` bytes. -/
def prepareHost (c : InputConfig) (length : Nat) : Except CodecError FrameCopy := do
  let offsets ← planeOffsets c.format c.width c.height
  let size := offsets.getLastD 0
  if length < size then throw (.dimensionMismatch "host buffer size" size length)
  let l ← PlaneLayout.resolve c.format c.width c.height 0
  pure {
    source := .host length, srcPitch := l.strides.rows,
    chromaOffsets := (offsets.drop 1).dropLast, width := c.width, height := c.height,
    format := c.format }

/-- Checks a caller's frame and describes its copy into an input slot. -/
def prepare (c : InputConfig) (src : FrameSource) : Except CodecError FrameCopy :=
  if src.array.isSome || src.planes.isSome || src.tensor.isSome then c.prepareDevice src
  else match src.host with
    | some length => if c.hostInput then c.prepareHost length else .error .hostInputDisabled
    | none => .error .unsupportedInputType

end InputConfig

end VideoCodec
