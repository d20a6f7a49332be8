import VideoCodec.Config.Codec
import VideoCodec.Config.Vui
import VideoCodec.Config.RateControl
/-!
# Codec-specific configuration

Each codec has its own block of settings: chroma format, bit depths (HEVC and
AV1), the IDR period, slicing (H.264 and HEVC), header repetition, reference
counts and the usability information.

`CodecConfig.applyOptions` reads the codec options in this order, the first
malformed one being the failure: `fmt` (a pixel format name), `idrperiod`,
`repeatspspps`, `numrefl0`, `numrefl1`, `slice_mode`, `slice_data` (32-bit
numbers), then the usability information. The input format decides the chroma
format (4:4:4 for the full-chroma formats) and, for HEVC and AV1, both bit
depths (ten for the formats with more than eight bits). The IDR period
defaults to the GOP length. A reference count outside `1..6` is ignored. H.264
falls back to slice mode 3 with one slice per picture; HEVC keeps its own
slicing; AV1 reads the two reference counts as forward and backward references
and always selects its level itself.
-/

namespace VideoCodec

/-- The largest reference count an option may set. -/
def maxNumRefs : Nat := 6

/-- H.264 settings. -/
structure H264Config where
  chromaFormat : ChromaFormat := .yuv420
  idrPeriod : Nat := 0
  sliceMode : Nat := 3
  sliceModeData : Nat := 1
  repeatSpsPps : Bool := false
  numRefL0 : Nat := 0
  numRefL1 : Nat := 0
  vui : Vui := {}
  deriving DecidableEq, Repr

/-- HEVC settings. -/
structure HevcConfig where
  chromaFormat : ChromaFormat := .yuv420
  inputBitDepth : BitDepth := .eight
  outputBitDepth : BitDepth := .eight
  idrPeriod : Nat := 0
  sliceMode : Nat := 0
  sliceModeData : Nat := 0
  repeatSpsPps : Bool := false
  numRefL0 : Nat := 0
  numRefL1 : Nat := 0
  vui : Vui := {}
  deriving DecidableEq, Repr

/-- AV1 settings. -/
structure Av1Config where
  chromaFormat : ChromaFormat := .yuv420
  inputBitDepth : BitDepth := .eight
  outputBitDepth : BitDepth := .eight
  idrPeriod : Nat := 0
  repeatSeqHdr : Bool := false
  numFwdRefs : Nat := 0
  numBwdRefs : Nat := 0
  levelAutoselect : Bool := true
  vui : Vui := {}
  deriving DecidableEq, Repr

/-- The settings of one codec. -/
inductive CodecConfig where
  | h264 (c : H264Config)
  | hevc (c : HevcConfig)
  | av1 (c : Av1Config)
  deriving DecidableEq, Repr

namespace CodecConfig

/-- The default settings of a codec. -/
def forCodec : Codec → CodecConfig
  | .h264 => .h264 {}
  | .hevc => .hevc {}
  | .av1 => .av1 {}

/-- The codec the settings are for. -/
def codec : CodecConfig → Codec
  | .h264 _ => .h264
  | .hevc _ => .hevc
  | .av1 _ => .av1

/-- The chroma format of the settings. -/
def chromaFormat : CodecConfig → ChromaFormat
  | .h264 c => c.chromaFormat
  | .hevc c => c.chromaFormat
  | .av1 c => c.chromaFormat

/-- The IDR period of the settings. -/
def idrPeriod : CodecConfig → Nat
  | .h264 c => c.idrPeriod
  | .hevc c => c.idrPeriod
  | .av1 c => c.idrPeriod

/-- The usability information of the settings. -/
def vui : CodecConfig → Vui
  | .h264 c => c.vui
  | .hevc c => c.vui
  | .av1 c => c.vui

/-- The profile the settings call for: the 4:4:4 profile of H.264 or HEVC,
and otherwise automatic selection. -/
def profile : CodecConfig → Profile
  | .h264 c => if c.chromaFormat = .yuv444 then .h264High444 else .autoselect
  | .hevc c => if c.chromaFormat = .yuv444 then .hevcFrext else .autoselect
  | .av1 _ => .autoselect

theorem codec_forCodec (c : Codec) : (forCodec c).codec = c := by
  cases c <;> rfl

/-- A reference count option, kept only within `1..6`. -/
def refsOption (o : EncoderOptions) (key : String) : Except CodecError (Option Nat) := do
  let n ← o.natOption Text.limitU32 key
  pure (n.filter fun n => 1 ≤ n && n ≤ maxNumRefs)

/-- The pixel format option, if given. -/
def formatOption (o : EncoderOptions) : Except CodecError (Option PixelFormat) :=
  match o.get "fmt" with
  | none => .ok none
  | some name =>
    match PixelFormat.ofName? name with
    | some f => .ok (some f)
    | none => .error (.unknownPixelFormat name)

/-- The chroma format an input format calls for. -/
def chromaOf (f : Option PixelFormat) : ChromaFormat :=
  if (f.map PixelFormat.isYuv444).getD false then .yuv444 else .yuv420

/-- The bit depth an input format calls for. -/
def depthOf (f : Option PixelFormat) : BitDepth :=
  if (f.map PixelFormat.isTenBit).getD false then .ten else .eight

/-- Applies the codec options in their fixed order. -/
def applyOptions (o : EncoderOptions) (gopLength : Nat) (cfg : CodecConfig) :
    Except CodecError CodecConfig := do
  let format ← formatOption o
  let chroma := chromaOf format
  let depth := depthOf format
  let idr ← o.natOption Text.limitU32 "idrperiod"
  let idr := idr.getD gopLength
  let repeatHeaders ← o.natOption Text.limitU32 "repeatspspps"
  let repeatHeaders := repeatHeaders.map (· != 0)
  let refs0 ← refsOption o "numrefl0"
  let refs1 ← refsOption o "numrefl1"
  let sliceMode ← o.natOption Text.limitU32 "slice_mode"
  let sliceData ← o.natOption Text.limitU32 "slice_data"
  let vui ← Vui.ofOptions o
  pure <| match cfg with
    | .h264 c => .h264 { c with
        chromaFormat := chroma, idrPeriod := idr, sliceMode := sliceMode.getD 3,
        sliceModeData := sliceData.getD 1, repeatSpsPps := repeatHeaders.getD c.repeatSpsPps,
        numRefL0 := refs0.getD c.numRefL0, numRefL1 := refs1.getD c.numRefL1, vui := vui }
    | .hevc c => .hevc { c with
        chromaFormat := chroma, inputBitDepth := depth, outputBitDepth := depth,
        idrPeriod := idr, sliceMode := sliceMode.getD c.sliceMode,
        sliceModeData := sliceData.getD c.sliceModeData,
        repeatSpsPps := repeatHeaders.getD c.repeatSpsPps,
        numRefL0 := refs0.getD c.numRefL0, numRefL1 := refs1.getD c.numRefL1, vui := vui }
    | .av1 c => .av1 { c with
        chromaFormat := chroma, inputBitDepth := depth, outputBitDepth := depth,
        idrPeriod := idr, repeatSeqHdr := repeatHeaders.getD c.repeatSeqHdr,
        numFwdRefs := refs0.getD c.numFwdRefs, numBwdRefs := refs1.getD c.numBwdRefs,
        levelAutoselect := true, vui := vui }

end CodecConfig

end VideoCodec
