import VideoCodec.Pixel.Layout
import VideoCodec.Buffer.ArrayInterface
/-!
# Plane views

A `PlaneView` is one plane of a frame in device memory that has been checked
against its layout: shape, strides and sample type come from the layout, and
beside them stand the address, the read-only flag, the stream the plane is
ordered on and the device it lives on.

A view exports itself as an array interface (`PlaneView.arrayInterface`), with
its strides always written out.
-/

namespace VideoCodec

/-- A checked plane in device memory. -/
structure PlaneView where
  shape : Extent
  strides : Extent
  element : ElementType
  stream : Option Nat
  data : Nat
  readOnly : Bool
  device : Int
  deriving DecidableEq, Repr

namespace PlaneView

/-- A writable view of a plane with a given layout. -/
def ofLayout (l : PlaneLayout) (data : Nat) (stream : Option Nat) (device : Int) : PlaneView :=
  { shape := l.shape, strides := l.strides, element := l.element, stream := stream,
    data := data, readOnly := false, device := device }

/-- The layout of the view. -/
def layout (v : PlaneView) : PlaneLayout := ⟨v.shape, v.strides, v.element⟩

/-- Bytes from one row to the next. -/
def rowPitch (v : PlaneView) : Nat := v.strides.rows

/-- Bytes covered by the plane, in a machine word. -/
def byteSize (v : PlaneView) : Except CodecError Nat := v.layout.byteSize

/-- The view as an array interface. -/
def arrayInterface (v : PlaneView) : ArrayInterface :=
  { shape := v.shape.toList, strides := some v.strides.toList, typestr := v.element.typestr,
    data := v.data, readOnly := v.readOnly, version := arrayInterfaceVersion, stream := v.stream }

theorem layout_ofLayout (l : PlaneLayout) (data : Nat) (stream : Option Nat) (device : Int) :
    (ofLayout l data stream device).layout = l := rfl

end PlaneView

end VideoCodec
