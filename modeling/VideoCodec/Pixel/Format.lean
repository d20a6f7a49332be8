/-!
# Pixel formats and their samples

A frame in video memory is one of a handful of **pixel formats**. Each fixes
how many planes the frame has, how wide one sample is, and whether the format
is *packed* (one plane of interleaved colour components) or *planar*.

The names that users type (`NV12`, `YUV420`, …) are not the formats
themselves: several names are accepted for one format (`P016` is read as
`P010`, `YV12` as the three-plane 4:2:0 format), and each format has one
canonical name, the one it is written back as (`PixelFormat.name`).

The decoder reports its surfaces in a vocabulary of its own,
`SurfaceFormat`, and `SurfaceFormat.pixelFormat` maps it onto the formats here.
-/

namespace VideoCodec

/-- The width of one sample: a byte, or a little-endian 16-bit word. -/
inductive ElementType where
  | u8
  | u16
  deriving DecidableEq, Repr

namespace ElementType

/-- Bytes per sample. -/
def size : ElementType → Nat
  | .u8 => 1
  | .u16 => 2

/-- Bits per sample. -/
def bits : ElementType → Nat
  | .u8 => 8
  | .u16 => 16

/-- The array-interface type string this library writes for the element. -/
def typestr : ElementType → String
  | .u8 => "|u1"
  | .u16 => "<u2"

/-- The type strings accepted for the element: the byte-order mark may be
`|`, `<` or absent, and the one-letter buffer codes `B` and `H` are accepted
too. -/
def accepts : ElementType → String → Bool
  | .u8, s => s == "|u1" || s == "<u1" || s == "u1" || s == "B"
  | .u16, s => s == "<u2" || s == "|u2" || s == "u2" || s == "H"

theorem accepts_typestr (e : ElementType) : e.accepts e.typestr = true := by
  cases e <;> rfl

end ElementType

/-- The pixel formats a frame can have. `yv12` is three-plane 4:2:0 and
`yuv444P16` is three-plane 4:4:4 with 16-bit samples. -/
inductive PixelFormat where
  | nv12
  | p010
  | yuv444
  | yuv444P16
  | yv12
  | argb
  | abgr
  | argb10
  | abgr10
  | undefined
  deriving DecidableEq, Repr

namespace PixelFormat

/-- Reads a format from one of its accepted names; the names are matched
exactly, case included. -/
def ofName? : String → Option PixelFormat
  | "NV12" => some .nv12
  | "P010" => some .p010
  | "P016" => some .p010
  | "YUV444" => some .yuv444
  | "YUV444_10BIT" => some .yuv444P16
  | "YUV444_16BIT" => some .yuv444P16
  | "YUV420" => some .yv12
  | "YV12" => some .yv12
  | "ARGB" => some .argb
  | "ABGR" => some .abgr
  | "ARGB10" => some .argb10
  | "ABGR10" => some .abgr10
  | _ => none

/-- The canonical name of a format. -/
def name : PixelFormat → String
  | .nv12 => "NV12"
  | .p010 => "P010"
  | .yuv444 => "YUV444"
  | .yuv444P16 => "YUV444_10BIT"
  | .yv12 => "YUV420"
  | .argb => "ARGB"
  | .abgr => "ABGR"
  | .argb10 => "ARGB10"
  | .abgr10 => "ABGR10"
  | .undefined => "UNDEFINED"

/-- The identifier of a format, as error messages and records spell it. -/
def ident : PixelFormat → String
  | .nv12 => "Nv12"
  | .p010 => "P010"
  | .yuv444 => "Yuv444"
  | .yuv444P16 => "Yuv444P16"
  | .yv12 => "Yv12"
  | .argb => "Argb"
  | .abgr => "Abgr"
  | .argb10 => "Argb10"
  | .abgr10 => "Abgr10"
  | .undefined => "Undefined"

/-- Every format, in declaration order. -/
def all : List PixelFormat :=
  [.nv12, .p010, .yuv444, .yuv444P16, .yv12, .argb, .abgr, .argb10, .abgr10, .undefined]

/-- Reads a format back from its identifier. -/
def ofIdent? (s : String) : Option PixelFormat :=
  all.find? (·.ident == s)

/-- Number of planes: two for the semi-planar 4:2:0 formats, three for the
planar ones, one for the packed ones and none for `undefined`. -/
def planeCount : PixelFormat → Nat
  | .nv12 | .p010 => 2
  | .yuv444 | .yuv444P16 | .yv12 => 3
  | .argb | .abgr | .argb10 | .abgr10 => 1
  | .undefined => 0

/-- The sample width: 16 bits for `p010` and `yuv444P16`, a byte otherwise. -/
def element : PixelFormat → ElementType
  | .p010 | .yuv444P16 => .u16
  | _ => .u8

/-- Whether the format interleaves its colour components in one plane. -/
def isPacked : PixelFormat → Bool
  | .argb | .abgr | .argb10 | .abgr10 => true
  | _ => false

/-- Whether the format carries more than eight significant bits per sample. -/
def isTenBit : PixelFormat → Bool
  | .p010 | .yuv444P16 | .argb10 | .abgr10 => true
  | _ => false

/-- Whether the chroma planes are at full resolution. -/
def isYuv444 : PixelFormat → Bool
  | .yuv444 | .yuv444P16 => true
  | _ => false

theorem ofName?_name {f : PixelFormat} (h : f ≠ .undefined) : ofName? f.name = some f := by
  cases f <;> simp_all [name, ofName?]

theorem ofIdent?_ident (f : PixelFormat) : ofIdent? f.ident = some f := by
  cases f <;> rfl

end PixelFormat

/-- The surface formats a decoder reports; `other` carries a code this
library has no layout for. -/
inductive SurfaceFormat where
  | nv12
  | p016
  | yuv444
  | yuv444P16
  | other (code : Int)
  deriving DecidableEq, Repr

/-- The pixel format of a decoded surface. -/
def SurfaceFormat.pixelFormat : SurfaceFormat → PixelFormat
  | .nv12 => .nv12
  | .p016 => .p010
  | .yuv444 => .yuv444
  | .yuv444P16 => .yuv444P16
  | .other _ => .undefined

end VideoCodec
