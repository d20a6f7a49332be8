import VideoCodec.Pixel.Layout
/-!
# Tensors

A whole frame can also travel as one two-dimensional tensor described the way
DLPack describes tensors: an address and byte offset, a device given by type
and index, an element type given by type code, bit width and lanes, and signed
shape and strides counted in elements.

`TensorView` is the tensor this library hands out when it joins the planes of
a frame into one (`FrameDescriptor.coalesce`); it exports itself as such a
description (`TensorView.dlpack`) on the CUDA device type.
-/

namespace VideoCodec

/-- The kinds of memory a tensor can live in, with their codes 1, 2, 3 and 13. -/
inductive DlDeviceType where
  | cpu
  | cuda
  | cudaHost
  | cudaManaged
  deriving DecidableEq, Repr

namespace DlDeviceType

/-- The kind of memory with a given code. -/
def ofCode? : Int → Option DlDeviceType
  | 1 => some .cpu
  | 2 => some .cuda
  | 3 => some .cudaHost
  | 13 => some .cudaManaged
  | _ => none

/-- The code of a kind of memory. -/
def code : DlDeviceType → Int
  | .cpu => 1
  | .cuda => 2
  | .cudaHost => 3
  | .cudaManaged => 13

/-- Whether the device can read the memory: all but plain host memory. -/
def isCudaAccessible : DlDeviceType → Bool
  | .cpu => false
  | _ => true

/-- The identifier of a kind of memory in records. -/
def ident : DlDeviceType → String
  | .cpu => "Cpu"
  | .cuda => "Cuda"
  | .cudaHost => "CudaHost"
  | .cudaManaged => "CudaManaged"

theorem ofCode?_code (t : DlDeviceType) : ofCode? t.code = some t := by
  cases t <;> rfl

end DlDeviceType

/-- An element type: type code (1 for unsigned), bit width and lanes. -/
structure DlDataType where
  code : Nat
  bits : Nat
  lanes : Nat
  deriving DecidableEq, Repr

/-- The unsigned single-lane element type of a sample type. -/
def DlDataType.ofElement (e : ElementType) : DlDataType := ⟨1, e.bits, 1⟩

/-- A tensor description. -/
structure DlTensor where
  data : Nat
  deviceType : DlDeviceType
  deviceId : Int
  dtype : DlDataType
  shape : List Int
  strides : List Int
  byteOffset : Nat
  deriving DecidableEq, Repr

/-- A frame joined into one two-dimensional tensor of rows and columns. -/
structure TensorView where
  rows : Nat
  cols : Nat
  rowStride : Nat
  colStride : Nat
  element : ElementType
  data : Nat
  device : Int
  stream : Option Nat
  deriving DecidableEq, Repr

/-- The tensor as a description on the CUDA device type, with no byte offset. -/
def TensorView.dlpack (t : TensorView) : DlTensor :=
  { data := t.data, deviceType := .cuda, deviceId := t.device,
    dtype := DlDataType.ofElement t.element, shape := [t.rows, t.cols],
    strides := [t.rowStride, t.colStride], byteOffset := 0 }

end VideoCodec
