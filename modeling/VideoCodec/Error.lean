import VideoCodec.Pixel.Format
import VideoCodec.Text.Quoted
import VideoCodec.Text.Hex
import VideoCodec.Json
/-!
# Why an operation fails

Every failure of the library is one `CodecError`, a cause with the data that
explains it. The text a user sees is `CodecError.message`, and the coarse
`ErrorKind` that tells a caller whose fault it was is `CodecError.kind`:
a bad option string, a buffer that disagrees with the frame geometry, misuse of
a buffer-exchange protocol, a failing driver collaborator, or broken internal
bookkeeping.

One cause is not a reported failure at all: `CodecError.halted` says that the
program stops, on an input its code does not handle (a size past the largest
word, a cut inside a character), with the text it stops with. It is none of the
kinds of a reported failure, and its own kind (`ErrorKind.halt`) shows in no
record.
-/

namespace VideoCodec

/-- Whose fault a failure is. -/
inductive ErrorKind where
  /-- Bad codec, preset, resolution, bitrate or other option text. -/
  | configuration
  /-- Shape, stride, sample type or device disagree with the frame. -/
  | layoutMismatch
  /-- A buffer-exchange protocol was misused. -/
  | protocolViolation
  /-- A driver collaborator reported failure. -/
  | capabilityProvider
  /-- Internal bookkeeping broke; never expected. -/
  | internalConsistency
  /-- The program stopped instead of reporting a failure. -/
  | halt
  deriving DecidableEq, Repr

/-- The identifier of a kind in records. -/
def ErrorKind.ident : ErrorKind → String
  | .configuration => "Configuration"
  | .layoutMismatch => "LayoutMismatch"
  | .protocolViolation => "ProtocolViolation"
  | .capabilityProvider => "CapabilityProvider"
  | .internalConsistency => "InternalConsistency"
  | .halt => "Panic"

/-- The causes of failure. -/
inductive CodecError where
  | invalidCodec (name : String)
  | invalidResolution (text : String)
  | invalidFrameRate (text : String)
  | invalidBitrate (text : String)
  | invalidOption (key value : String)
  | invalidRateControlMode (name : String)
  | unknownPixelFormat (name : String)
  | invalidDimensions (width height : Nat)
  | invalidPlaneIndex (format : PixelFormat) (plane planes : Nat)
  | unsupportedFormat (format : PixelFormat)
  | formatMismatch (expected found : String)
  | shapeMismatch (expected found : List Nat)
  | strideMismatch (expected found : List Nat)
  | dimensionMismatch (what : String) (expected found : Nat)
  | addressOverflow (base offset : Nat)
  | deviceMismatch (expected found : Int)
  | invalidStream
  | invalidPlaneOrder (plane : Nat) (previous found : Nat)
  | unsupportedInputType
  | missingPlanes (expected found : Nat)
  | hostInputDisabled
  | inaccessibleDevice (code : Int)
  | provider (operation : String) (status : Int)
  | cudaError (text : String)
  | duplicateSequence (seq : Nat)
  | unknownSequence (seq : Nat)
  | halted (text : String)
  deriving DecidableEq, Repr

/-- A list of sizes as messages write it: `[1080, 1920, 1]`. -/
def listText (xs : List Nat) : String :=
  "[" ++ ", ".intercalate (xs.map toString) ++ "]"

namespace CodecError

/-- The text of a failure. -/
def message : CodecError → String
  | .invalidCodec s => s!"invalid codec given: {s}. Choose between av1, h264 and hevc"
  | .invalidResolution s => s!"invalid resolution: {s}"
  | .invalidFrameRate s => s!"invalid frame rate: {s}"
  | .invalidBitrate s => s!"can't parse bitrate string: {s}"
  | .invalidOption key value => "invalid value " ++ Text.quote value ++ " for option " ++ key
  | .invalidRateControlMode s => s!"invalid rate control mode: {s}"
  | .unknownPixelFormat s =>
    s!"unsupported format {s}. Supported formats: NV12, ARGB, ABGR, P010, YUV444, YUV444_10BIT, YUV420"
  | .invalidDimensions w h => s!"invalid frame dimensions: {w}x{h}"
  | .invalidPlaneIndex f plane planes =>
    f.ident ++ s!" cannot have more than {planes} planes, got plane index {plane}"
  | .unsupportedFormat f => "unsupported pixel format: " ++ f.ident
  | .formatMismatch expected found => s!"invalid type string: {found}, expected: {expected}"
  | .shapeMismatch expected found =>
    "invalid shape: " ++ listText found ++ ", expected: " ++ listText expected
  | .strideMismatch expected found =>
    "invalid strides: " ++ listText found ++ ", expected: " ++ listText expected
  | .dimensionMismatch what expected found => s!"{what}: expected {expected}, got {found}"
  | .addressOverflow base offset =>
    s!"plane offset {offset} overflows base address " ++ Text.hexPrefixed base
  | .deviceMismatch expected found =>
    s!"buffer lives on device {found} but the session uses device {expected}"
  | .invalidStream =>
    "stream 0 is disallowed by the CUDA array interface, use 1 or 2 for the default stream"
  | .invalidPlaneOrder plane previous found =>
    s!"plane {plane} at " ++ Text.hexPrefixed found ++ " must start after the previous plane at "
      ++ Text.hexPrefixed previous
  | .unsupportedInputType => "frame object exposes no supported buffer protocol"
  | .missingPlanes expected found => s!"expected {expected} planes, got {found}"
  | .hostInputDisabled => "host input buffers are not enabled for this encoder"
  | .inaccessibleDevice code => s!"tensor device type {code} is not CUDA accessible"
  | .provider operation status => s!"{operation} failed with status {status}"
  | .cudaError s => s!"CUDA error: {s}"
  | .duplicateSequence n => s!"[BUG] frame sequence {n} submitted twice"
  | .unknownSequence n => s!"[BUG] frame sequence {n} not found in timestamp ledger"
  | .halted s => s

/-- Whose fault a failure is. -/
def kind : CodecError → ErrorKind
  | .invalidCodec _ | .invalidResolution _ | .invalidFrameRate _ | .invalidBitrate _
  | .invalidOption _ _ | .invalidRateControlMode _ | .unknownPixelFormat _ => .configuration
  | .invalidDimensions _ _ | .invalidPlaneIndex _ _ _ | .unsupportedFormat _
  | .formatMismatch _ _ | .shapeMismatch _ _ | .strideMismatch _ _
  | .dimensionMismatch _ _ _ | .addressOverflow _ _ | .deviceMismatch _ _ => .layoutMismatch
  | .invalidStream | .invalidPlaneOrder _ _ _ | .unsupportedInputType | .missingPlanes _ _
  | .hostInputDisabled | .inaccessibleDevice _ => .protocolViolation
  | .provider _ _ | .cudaError _ => .capabilityProvider
  | .duplicateSequence _ | .unknownSequence _ => .internalConsistency
  | .halted _ => .halt

/-- The identifier of a cause in records. -/
def ident : CodecError → String
  | .invalidCodec _ => "InvalidCodec"
  | .invalidResolution _ => "InvalidResolution"
  | .invalidFrameRate _ => "InvalidFrameRate"
  | .invalidBitrate _ => "InvalidBitrate"
  | .invalidOption _ _ => "InvalidOption"
  | .invalidRateControlMode _ => "InvalidRateControlMode"
  | .unknownPixelFormat _ => "UnknownPixelFormat"
  | .invalidDimensions _ _ => "InvalidDimensions"
  | .invalidPlaneIndex _ _ _ => "InvalidPlaneIndex"
  | .unsupportedFormat _ => "UnsupportedFormat"
  | .formatMismatch _ _ => "FormatMismatch"
  | .shapeMismatch _ _ => "ShapeMismatch"
  | .strideMismatch _ _ => "StrideMismatch"
  | .dimensionMismatch _ _ _ => "DimensionMismatch"
  | .addressOverflow _ _ => "AddressOverflow"
  | .deviceMismatch _ _ => "DeviceMismatch"
  | .invalidStream => "InvalidStream"
  | .invalidPlaneOrder _ _ _ => "InvalidPlaneOrder"
  | .unsupportedInputType => "UnsupportedInputType"
  | .missingPlanes _ _ => "MissingPlanes"
  | .hostInputDisabled => "HostInputDisabled"
  | .inaccessibleDevice _ => "InaccessibleDevice"
  | .provider _ _ => "Provider"
  | .cudaError _ => "CudaError"
  | .duplicateSequence _ => "DuplicateSequence"
  | .unknownSequence _ => "UnknownSequence"
  | .halted _ => "panic"

/-- The record of a failure: its cause, text and kind. A stop of the program
has no kind. -/
def toJson (e : CodecError) : Json :=
  match e with
  | .halted s => .obj [("error", .str "panic"), ("message", .str s)]
  | _ => .obj [("error", .str e.ident), ("message", .str e.message), ("category", .str e.kind.ident)]

end CodecError

/-- The record of an outcome: the value under `ok`, or the failure. -/
def Json.ofExcept {α : Type} (f : α → Json) : Except CodecError α → Json
  | .ok a => .obj [("ok", f a)]
  | .error e => e.toJson

/-- A value as it is, or the record of the failure in its place. -/
def Json.orFailure {α : Type} (f : α → Json) : Except CodecError α → Json
  | .ok a => f a
  | .error e => e.toJson

end VideoCodec
