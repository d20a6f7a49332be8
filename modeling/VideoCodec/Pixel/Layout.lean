import VideoCodec.Error
import VideoCodec.Word
/-!
# Plane layout

Where the samples of each plane of a frame sit. A plane is a three-axis array
of rows, columns and components (`Extent`), with a byte stride per axis; the
layout of plane `p` of a `w × h` frame follows from the format alone
(`PlaneLayout.resolve`):

* luma planes and the planes of 4:4:4 formats are `h × w × 1`;
* the interleaved chroma plane of the semi-planar formats is
  `⌊h/2⌋ × ⌊w/2⌋ × 2` with the luma row stride;
* each chroma plane of three-plane 4:2:0 is `⌊h/2⌋ × ⌊w/2⌋ × 1` with its own
  half-width rows;
* a packed plane is `h × w × 4`.

Rows of 16-bit formats take two bytes per sample. Odd sizes of the 4:2:0
formats are not refused; their chroma sizes are rounded down.

The planes of a frame lie back to back: `planeOffsets` gives the start of each
plane and, last, the end of the frame, whose value is `frameSize`. Sizes and
offsets are machine words (`Word`): a plane or a frame too large for one stops
the program.
-/

namespace VideoCodec

/-- A size or stride along the three axes of a plane: rows, columns and
components per sample position. -/
structure Extent where
  rows : Nat
  cols : Nat
  comps : Nat
  deriving DecidableEq, Repr

/-- The three values of an extent, rows first. -/
def Extent.toList (e : Extent) : List Nat := [e.rows, e.cols, e.comps]

/-- The shape, byte strides and sample type of one plane. -/
structure PlaneLayout where
  shape : Extent
  strides : Extent
  element : ElementType
  deriving DecidableEq, Repr

namespace PlaneLayout

/-- Bytes covered by the plane packed without padding: the product of its
shape, rows first, times the sample size, in a machine word. -/
def byteSize (l : PlaneLayout) : Except CodecError Nat := do
  let samples ← l.shape.toList.foldlM Word.mul 1
  Word.mul samples l.element.size

/-- The layout of plane `plane` of a `width × height` frame. Zero sizes are
refused first, then formats without a layout, then a plane index past the
format's planes. -/
def resolve (f : PixelFormat) (width height plane : Nat) : Except CodecError PlaneLayout :=
  if width = 0 ∨ height = 0 then .error (.invalidDimensions width height)
  else if f = .argb10 ∨ f = .abgr10 ∨ f = .undefined then .error (.unsupportedFormat f)
  else if plane ≥ f.planeCount then .error (.invalidPlaneIndex f plane f.planeCount)
  else
    let w := width
    let h := height
    let e := f.element
    .ok <| match f, plane with
      | .nv12, 0 => ⟨⟨h, w, 1⟩, ⟨w, 1, 1⟩, e⟩
      | .nv12, _ => ⟨⟨h / 2, w / 2, 2⟩, ⟨w, 2, 1⟩, e⟩
      | .p010, 0 => ⟨⟨h, w, 1⟩, ⟨w * 2, 2, 1⟩, e⟩
      | .p010, _ => ⟨⟨h / 2, w / 2, 2⟩, ⟨w * 2, 2, 1⟩, e⟩
      | .yuv444, _ => ⟨⟨h, w, 1⟩, ⟨w, 1, 1⟩, e⟩
      | .yuv444P16, _ => ⟨⟨h, w, 1⟩, ⟨w * 2, 2, 1⟩, e⟩
      | .yv12, 0 => ⟨⟨h, w, 1⟩, ⟨w, 1, 1⟩, e⟩
      | .yv12, _ => ⟨⟨h / 2, w / 2, 1⟩, ⟨w / 2, 1, 1⟩, e⟩
      | _, _ => ⟨⟨h, w, 4⟩, ⟨w * 4, 4, 1⟩, e⟩

end PlaneLayout

/-- The offsets of planes laid back to back from `offset`: the offset itself,
then, plane by plane, the offset moved past the plane, added in a machine
word. -/
def offsetsFrom (offset : Nat) : List PlaneLayout → Except CodecError (List Nat)
  | [] => .ok [offset]
  | l :: ls => do
    let size ← l.byteSize
    let next ← Word.add offset size
    let rest ← offsetsFrom next ls
    pure (offset :: rest)

/-- The start of each plane of a frame and, last, the end of the frame. A
format with no planes has no layout. -/
def planeOffsets (f : PixelFormat) (width height : Nat) : Except CodecError (List Nat) :=
  if f.planeCount = 0 then .error (.unsupportedFormat f)
  else do
    -- a plane below the count resolves or fails alike for all planes, so
    -- resolving them first fails where resolving each in turn would
    let layouts ← (List.range f.planeCount).mapM (PlaneLayout.resolve f width height)
    offsetsFrom 0 layouts

/-- Bytes of a whole frame: the end of its last plane. -/
def frameSize (f : PixelFormat) (width height : Nat) : Except CodecError Nat := do
  let offsets ← planeOffsets f width height
  pure (offsets.getLastD 0)

end VideoCodec
