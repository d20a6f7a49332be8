import VideoCodec.Config.Params
/-!
# From options to session parameters

`resolveInto` turns encoder options into session parameters, either for a new
session or as a reconfiguration of a live one. It works on a copy and gives
the whole result or a failure, never a half-changed session.

A new session is resolved in this order, the first failure winning: codec,
size (`s`, then `max_res`), frame rate, then the encode configuration (`bf`,
`gop`, rate control, codec settings). A reconfiguration keeps codec, preset,
sizes and the whole encode configuration except rate control; it reads the
frame rate and the rate-control options and marks the session low-latency. It
refuses a codec option that names a codec other than the session's.

The preset and tuning options set the flags that rate control reads: every
known preset is modern, and on a modern preset a low-latency tuning makes the
session low-latency and the lossless tuning makes it lossless.

The encoder driver is asked for two things (`Capabilities`): the base
configuration of the session's preset, which a new session starts from, and,
in a build for Windows only, whether it can signal completion through events.
A base configuration whose codec settings are for another codec is given the
session codec's defaults in their place. `resolveInto` resolves against the
offline driver, which offers no optional capability and the codec's defaults
for every preset; the modelled build is not for Windows, so a driver that
offers the same base configurations resolves alike (`resolveIntoWith_congr`).
-/

namespace VideoCodec

/-- The capabilities a driver can be asked for. -/
inductive EncodeCapability where
  | asyncEncodeSupport
  | yuv444Encode
  | tenBitEncode
  deriving DecidableEq, Repr

/-- What the encoder driver answers before a session exists: the value of a
capability for a codec, and the base configuration of a preset. -/
structure Capabilities where
  capability : Codec → EncodeCapability → Except CodecError Int
  presetConfig : Codec → Preset → TuningInfo → Except CodecError EncodeConfig

/-- The driver of resolution without a device: no optional capability, and
the codec's defaults as every preset's configuration. -/
def Capabilities.offline : Capabilities where
  capability _ _ := .ok 0
  presetConfig codec _ _ := .ok (EncodeConfig.forCodec codec)

/-- Whether the program is built for Windows. The modelled build is not. -/
def targetIsWindows : Bool := false

/-- The codec named by the options, `h264` when none is. -/
def codecOption (o : EncoderOptions) : Except CodecError Codec :=
  let name := (o.get "codec").getD "h264"
  match Codec.ofName? name with
  | some c => .ok c
  | none => .error (.invalidCodec name)

/-- The tuning the options ask for under a preset: high quality by default on
a modern preset, undefined on any other. -/
def tuningOption (o : EncoderOptions) (preset : PresetProperties) : TuningInfo :=
  if preset.modern then ((o.get "tuning_info").map TuningInfo.ofName).getD .highQuality
  else .undefined

/-- The flags that the preset and tuning set for sub-configurations. -/
def parentFlags (codec : Codec) (preset : PresetProperties) (tuning : TuningInfo) : ParentFlags :=
  { codec := codec, modern := preset.modern,
    lowLatency := preset.lowLatency || (preset.modern && tuning.isLowLatency),
    lossless := preset.lossless ||
      (preset.modern && !tuning.isLowLatency && tuning == .lossless) }

/-- The encode, display-aspect and largest sizes that the `s` and `max_res`
options give; an explicitly empty `max_res` means no largest size. -/
def withSize (o : EncoderOptions) (p : InitializeParams) : Except CodecError InitializeParams :=
  match o.get "s" with
  | none => .ok p
  | some size => do
    let (w, h) ← readResolution size
    let (mw, mh) ← if o.containsKey "max_res" then
        match o.get "max_res" with
        | some m => readResolution m
        | none => pure (0, 0)
      else pure (w, h)
    pure { p with
      encodeWidth := w, encodeHeight := h, darWidth := w, darHeight := h,
      maxEncodeWidth := mw, maxEncodeHeight := mh }

/-- The frame rate that the `fps` option gives, if any. -/
def withFrameRate (o : EncoderOptions) (p : InitializeParams) :
    Except CodecError InitializeParams :=
  match o.get "fps" with
  | none => .ok p
  | some fps => do
    let (num, den) ← readFrameRate fps
    pure { p with frameRateNum := num, frameRateDen := den }

/-- The base configuration the driver gives a preset, with the codec's
defaults in place of codec settings for another codec. -/
def presetConfigOf (caps : Capabilities) (codec : Codec) (preset : Preset) (tuning : TuningInfo) :
    Except CodecError EncodeConfig := do
  let config ← caps.presetConfig codec preset tuning
  if config.codecConfig.codec = codec then pure config
  else pure { config with codecConfig := CodecConfig.forCodec codec }

/-- The encode configuration of a new session, from the base configuration of
its preset. -/
def encodeConfigFrom (base : EncodeConfig) (o : EncoderOptions) (flags : ParentFlags) :
    Except CodecError EncodeConfig := do
  let bf ← o.intOption Text.limitI32 "bf"
  let fip := bf.getD base.frameIntervalP
  let gop ← o.natOption Text.limitU32 "gop"
  let gop := gop.getD infiniteGopLength
  let fip := if gop = infiniteGopLength then 1 else fip
  let rc ← (RateControlConfig.initial flags.lossless).applyOptions o flags
  let cc ← base.codecConfig.applyOptions o gop
  pure {
    profile := cc.profile, gopLength := gop, frameIntervalP := fip, rc := rc,
    codecConfig := cc }

/-- The encode configuration of a new session from the codec's defaults. -/
def encodeConfigOf (o : EncoderOptions) (codec : Codec) (flags : ParentFlags) :
    Except CodecError EncodeConfig :=
  encodeConfigFrom (EncodeConfig.forCodec codec) o flags

/-- Whether completion can be signalled through events, asked of the driver
in a build for Windows only. -/
def withAsyncCapability (caps : Capabilities) (codec : Codec) (p : InitializeParams) :
    Except CodecError InitializeParams :=
  if targetIsWindows then do
    let value ← caps.capability codec .asyncEncodeSupport
    pure { p with enableEncodeAsync := value ≠ 0 }
  else .ok p

/-- Resolves options into session parameters against a driver: a new session
from the defaults, or a reconfiguration of `live`. -/
def resolveIntoWith (caps : Capabilities) (o : EncoderOptions) (live : InitializeParams)
    (isReconfigure : Bool) : Except CodecError InitializeParams := do
  let start : InitializeParams := if isReconfigure then live else {}
  let named ← codecOption o
  if isReconfigure && named != start.codec && (o.get "codec").isSome then
    throw (.invalidOption "codec" named.name)
  let codec := if isReconfigure then start.codec else named
  let preset := PresetProperties.lookup ((o.get "preset").getD "P4")
  let tuning := tuningOption o preset
  let flags := parentFlags codec preset tuning
  if isReconfigure then
    let next ← withFrameRate o start
    let next ← withAsyncCapability caps codec next
    let rc ← next.encodeConfig.rc.applyOptions o flags
    pure { next with encodeConfig := { next.encodeConfig with rc := rc }, tuningInfo := .lowLatency }
  else
    let next ← withSize o { start with codec := codec, preset := preset.preset, tuningInfo := tuning }
    let next ← withFrameRate o next
    let next ← withAsyncCapability caps codec next
    let base ← presetConfigOf caps codec preset.preset tuning
    let config ← encodeConfigFrom base o flags
    pure { next with enablePtd := true, encodeConfig := config }

/-- Resolves options into session parameters without a device. -/
def resolveInto (o : EncoderOptions) (live : InitializeParams) (isReconfigure : Bool) :
    Except CodecError InitializeParams :=
  resolveIntoWith .offline o live isReconfigure

/-- The parameters of a new session resolved against a driver. -/
def resolveWith (caps : Capabilities) (o : EncoderOptions) : Except CodecError InitializeParams :=
  resolveIntoWith caps o {} false

/-- The parameters of a live session after a reconfiguration against a
driver. -/
def reconfigureWith (caps : Capabilities) (o : EncoderOptions) (live : InitializeParams) :
    Except CodecError InitializeParams :=
  resolveIntoWith caps o live true

/-- The parameters of a new session. -/
def resolve (o : EncoderOptions) : Except CodecError InitializeParams :=
  resolveInto o {} false

/-- The parameters of a live session after a reconfiguration. -/
def reconfigure (o : EncoderOptions) (live : InitializeParams) :
    Except CodecError InitializeParams :=
  resolveInto o live true

/-! The build is not for Windows, so the driver is asked for base
configurations only. -/

@[simp] theorem withAsyncCapability_eq (caps : Capabilities) (codec : Codec) (p : InitializeParams) :
    withAsyncCapability caps codec p = .ok p :=
  rfl

theorem presetConfigOf_offline (codec : Codec) (preset : Preset) (tuning : TuningInfo) :
    presetConfigOf .offline codec preset tuning = .ok (EncodeConfig.forCodec codec) := by
  simp [presetConfigOf, Capabilities.offline, EncodeConfig.forCodec, CodecConfig.codec_forCodec,
    bind, Except.bind, pure, Except.pure]

/-- Two drivers that give the same base configurations resolve alike. -/
theorem resolveIntoWith_congr {caps caps' : Capabilities} (h : caps.presetConfig = caps'.presetConfig)
    (o : EncoderOptions) (live : InitializeParams) (isReconfigure : Bool) :
    resolveIntoWith caps o live isReconfigure = resolveIntoWith caps' o live isReconfigure := by
  simp only [resolveIntoWith, withAsyncCapability_eq, presetConfigOf, h]

/-- Resolving without a device is the option pipeline over the codec's
defaults. -/
theorem resolveInto_eq (o : EncoderOptions) (live : InitializeParams) (isReconfigure : Bool) :
    resolveInto o live isReconfigure = (do
      let start : InitializeParams := if isReconfigure then live else {}
      let named ← codecOption o
      if isReconfigure && named != start.codec && (o.get "codec").isSome then
        throw (.invalidOption "codec" named.name)
      let codec := if isReconfigure then start.codec else named
      let preset := PresetProperties.lookup ((o.get "preset").getD "P4")
      let tuning := tuningOption o preset
      let flags := parentFlags codec preset tuning
      if isReconfigure then
        let next ← withFrameRate o start
        let rc ← next.encodeConfig.rc.applyOptions o flags
        pure { next with
          encodeConfig := { next.encodeConfig with rc := rc }, tuningInfo := .lowLatency }
      else
        let next ← withSize o
          { start with codec := codec, preset := preset.preset, tuningInfo := tuning }
        let next ← withFrameRate o next
        let config ← encodeConfigOf o codec flags
        pure { next with enablePtd := true, encodeConfig := config }) := by
  simp only [resolveInto, resolveIntoWith, withAsyncCapability_eq, presetConfigOf_offline,
    encodeConfigOf]
  rfl

end VideoCodec
