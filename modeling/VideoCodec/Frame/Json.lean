import VideoCodec.Frame.Descriptor
import VideoCodec.Frame.Input
/-!
# Buffers and frames as JSON

The JSON records of array interfaces, plane views, tensors, frames and frame
copies. An array interface is written with its address and read-only flag as
a pair under `data`; a plane view carries its array-interface export under
`cai`, and a tensor its tensor description under `dlpack`. A frame carries,
beside its planes, its address, its size in bytes and the outcome of joining
its planes into one tensor.
-/

namespace VideoCodec

/-- An array interface. -/
def ArrayInterface.toJson (a : ArrayInterface) : Json :=
  .obj [("shape", .nats a.shape), ("strides", .opt .nats a.strides), ("typestr", .str a.typestr),
    ("data", .arr [.nat a.data, .bool a.readOnly]), ("version", .nat a.version),
    ("stream", .opt .nat a.stream)]

/-- The identifier of a sample type in records. -/
def ElementType.ident : ElementType → String
  | .u8 => "U8"
  | .u16 => "U16"

/-- A plane view with its export. -/
def PlaneView.toJson (v : PlaneView) : Json :=
  .obj [("shape", .nats v.shape.toList), ("strides", .nats v.strides.toList),
    ("element", .str v.element.ident), ("stream", .opt .nat v.stream), ("data", .nat v.data),
    ("read_only", .bool v.readOnly), ("device", .num v.device), ("row_pitch", .nat v.rowPitch),
    ("byte_size", Json.orFailure .nat v.byteSize), ("cai", v.arrayInterface.toJson)]

/-- A tensor description. -/
def DlTensor.toJson (t : DlTensor) : Json :=
  .obj [("data", .nat t.data),
    ("device", .obj [("device_type", .str t.deviceType.ident), ("device_id", .num t.deviceId)]),
    ("dtype", .obj [("code", .nat t.dtype.code), ("bits", .nat t.dtype.bits),
      ("lanes", .nat t.dtype.lanes)]),
    ("shape", .arr (t.shape.map .num)), ("strides", .arr (t.strides.map .num)),
    ("byte_offset", .nat t.byteOffset)]

/-- A tensor view with its export. -/
def TensorView.toJson (t : TensorView) : Json :=
  .obj [("shape", .nats [t.rows, t.cols]), ("strides", .nats [t.rowStride, t.colStride]),
    ("element", .str t.element.ident), ("data", .nat t.data), ("device", .num t.device),
    ("stream", .opt .nat t.stream), ("dlpack", t.dlpack.toJson)]

/-- A frame with its planes and its joined tensor. -/
def FrameDescriptor.toJson (d : FrameDescriptor) : Json :=
  .obj [("timestamp", .num d.timestamp), ("format", .str d.format.ident),
    ("width", .nat d.width), ("height", .nat d.height),
    ("planes", .arr (d.planes.map PlaneView.toJson)), ("data", .nat d.data),
    ("frame_size", Json.orFailure .nat d.frameSize), ("coalesce", Json.ofExcept TensorView.toJson d.coalesce)]

/-- Where a copy reads from. -/
def CopySource.toJson : CopySource → Json
  | .device p => .obj [("device", .nat p)]
  | .host n => .obj [("host_len", .nat n)]

/-- A frame copy. -/
def FrameCopy.toJson (c : FrameCopy) : Json :=
  .obj [("source", c.source.toJson), ("src_pitch", .nat c.srcPitch),
    ("chroma_offsets", .nats c.chromaOffsets), ("width", .nat c.width),
    ("height", .nat c.height), ("format", .str c.format.ident)]

end VideoCodec
