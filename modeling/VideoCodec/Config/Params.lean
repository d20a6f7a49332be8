import VideoCodec.Config.Preset
import VideoCodec.Config.CodecConfig
/-!
# Session parameters

`InitializeParams` is everything an encoder session is opened with: codec,
preset and tuning, the encode, display-aspect and largest sizes, the frame
rate, and the `EncodeConfig` with GOP structure, rate control and the
codec-specific block.

`ReconfigureParams` is the part of a live session that can change without
reopening it: rate control mode, multi-pass, the bitrates and buffer sizes,
and the frame rate. `ReconfigureParams.ofParams` reads it off a session and
`ReconfigureParams.applyTo` writes it back.
-/

namespace VideoCodec

/-- The GOP length that means "no periodic key frames": `2³² - 1`. -/
def infiniteGopLength : Nat := 0xFFFFFFFF

/-- GOP structure, rate control and codec settings. -/
structure EncodeConfig where
  profile : Profile := .autoselect
  gopLength : Nat := 0
  frameIntervalP : Int := 0
  rc : RateControlConfig := {}
  codecConfig : CodecConfig := .h264 {}
  deriving DecidableEq, Repr

/-- The configuration an encoder proposes for a codec before any option: an
infinite GOP of P frames and a fresh rate control. -/
def EncodeConfig.forCodec (c : Codec) : EncodeConfig :=
  { gopLength := infiniteGopLength, frameIntervalP := 1, rc := RateControlConfig.initial false,
    codecConfig := CodecConfig.forCodec c }

/-- The parameters an encoder session is opened with. -/
structure InitializeParams where
  codec : Codec := .h264
  preset : Preset := .p4
  tuningInfo : TuningInfo := .undefined
  encodeWidth : Nat := 0
  encodeHeight : Nat := 0
  darWidth : Nat := 0
  darHeight : Nat := 0
  maxEncodeWidth : Nat := 0
  maxEncodeHeight : Nat := 0
  frameRateNum : Nat := 30
  frameRateDen : Nat := 1
  enablePtd : Bool := true
  enableEncodeAsync : Bool := false
  encodeConfig : EncodeConfig := {}
  deriving DecidableEq, Repr

/-- The part of a live session's parameters that can change in place. -/
structure ReconfigureParams where
  rateControlMode : RateControlMode
  multiPass : MultiPass
  averageBitrate : Nat
  vbvBufferSize : Nat
  maxBitrate : Nat
  vbvInitialDelay : Nat
  frameRateNum : Nat
  frameRateDen : Nat
  deriving DecidableEq, Repr

namespace ReconfigureParams

/-- The changeable part of a session's parameters. -/
def ofParams (p : InitializeParams) : ReconfigureParams :=
  let rc := p.encodeConfig.rc
  { rateControlMode := rc.mode, multiPass := rc.multiPass, averageBitrate := rc.averageBitrate,
    vbvBufferSize := rc.vbvBufferSize, maxBitrate := rc.maxBitrate,
    vbvInitialDelay := rc.vbvInitialDelay, frameRateNum := p.frameRateNum,
    frameRateDen := p.frameRateDen }

/-- Writes the changeable part into a session's parameters. -/
def applyTo (r : ReconfigureParams) (p : InitializeParams) : InitializeParams :=
  let ec := p.encodeConfig
  { p with
    encodeConfig := { ec with rc := { ec.rc with
      mode := r.rateControlMode, multiPass := r.multiPass, averageBitrate := r.averageBitrate,
      vbvBufferSize := r.vbvBufferSize, maxBitrate := r.maxBitrate,
      vbvInitialDelay := r.vbvInitialDelay } },
    frameRateNum := r.frameRateNum, frameRateDen := r.frameRateDen }

/-- Changes to some fields of the changeable part; an absent field stays. -/
structure Patch where
  rateControlMode : Option RateControlMode := none
  multiPass : Option MultiPass := none
  averageBitrate : Option Nat := none
  vbvBufferSize : Option Nat := none
  maxBitrate : Option Nat := none
  vbvInitialDelay : Option Nat := none
  frameRateNum : Option Nat := none
  frameRateDen : Option Nat := none
  deriving DecidableEq, Repr

/-- The changeable part with the patched fields replaced. -/
def patch (r : ReconfigureParams) (p : Patch) : ReconfigureParams :=
  { rateControlMode := p.rateControlMode.getD r.rateControlMode,
    multiPass := p.multiPass.getD r.multiPass,
    averageBitrate := p.averageBitrate.getD r.averageBitrate,
    vbvBufferSize := p.vbvBufferSize.getD r.vbvBufferSize,
    maxBitrate := p.maxBitrate.getD r.maxBitrate,
    vbvInitialDelay := p.vbvInitialDelay.getD r.vbvInitialDelay,
    frameRateNum := p.frameRateNum.getD r.frameRateNum,
    frameRateDen := p.frameRateDen.getD r.frameRateDen }

theorem ofParams_applyTo (r : ReconfigureParams) (p : InitializeParams) :
    ofParams (r.applyTo p) = r := by
  rfl

end ReconfigureParams

end VideoCodec
