import VideoCodec.Config.Options
import VideoCodec.Config.Codec
import VideoCodec.Text.Fixed
/-!
# Stream metadata

What a container says about its video stream, and the encoder options that
re-encode it with the same geometry, rate and colour: `s` is `WxH`, `fps` is
the frame rate with two decimals (`Text.Binary64.fixed 2`), `codec` is the
stream's codec when known, and `colorspace` names BT.601 or BT.709 when the
stream's matrix coefficients are one of those. The colour range is not
carried over.
-/

namespace VideoCodec

/-- The colour space a stream's matrix coefficients denote. -/
inductive ColorSpace where
  | bt601
  | bt709
  | unspecified
  deriving DecidableEq, Repr

namespace ColorSpace

/-- The colour space of a matrix-coefficients code: 1 is BT.709, 5 and 6 are
BT.601, anything else is unspecified. -/
def ofMatrixCoefficients (code : Nat) : ColorSpace :=
  if code = 1 then .bt709 else if code = 5 ∨ code = 6 then .bt601 else .unspecified

/-- The colour-space option value that selects it, if any. -/
def optionValue : ColorSpace → Option String
  | .bt601 => some "bt601"
  | .bt709 => some "bt709"
  | .unspecified => none

/-- The identifier of a colour space in records. -/
def ident : ColorSpace → String
  | .bt601 => "Bt601"
  | .bt709 => "Bt709"
  | .unspecified => "Unspecified"

/-- Every colour space. -/
def all : List ColorSpace := [.bt601, .bt709, .unspecified]

end ColorSpace

/-- The sample range of a stream: limited (MPEG) or full (JPEG). -/
inductive ColorRange where
  | mpeg
  | jpeg
  | undefined
  deriving DecidableEq, Repr

namespace ColorRange

/-- The range of a range code: 1 is limited, 2 is full. -/
def ofCode (code : Nat) : ColorRange :=
  if code = 1 then .mpeg else if code = 2 then .jpeg else .undefined

/-- The identifier of a range in records. -/
def ident : ColorRange → String
  | .mpeg => "Mpeg"
  | .jpeg => "Jpeg"
  | .undefined => "Undefined"

end ColorRange

/-- What a container says about its video stream. The frame rate is a binary64
number. -/
structure StreamMetadata where
  codec : Option Codec
  width : Nat
  height : Nat
  bitDepth : Nat
  frameRate : Text.Binary64
  frameSize : Nat
  colorSpace : ColorSpace
  colorRange : ColorRange
  deriving DecidableEq, Repr

/-- The encoder options that re-encode the stream. -/
def StreamMetadata.encoderOptions (md : StreamMetadata) : EncoderOptions :=
  let w := md.width
  let h := md.height
  let base := EncoderOptions.ofPairs
    [("s", s!"{w}x{h}"), ("fps", Text.Binary64.fixed 2 md.frameRate)]
  let withCodec := match md.codec with
    | some c => base.insert "codec" c.name
    | none => base
  match md.colorSpace.optionValue with
  | some v => withCodec.insert "colorspace" v
  | none => withCodec

end VideoCodec
