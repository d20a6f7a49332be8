import VideoCodec.Config.Codec
import VideoCodec.Config.Options
import VideoCodec.Config.Value
/-!
# Rate control

How the encoder spends bits: the **mode** (constant quantiser, variable or
constant bitrate), the bitrates and buffer sizes, the quantiser bounds, and the
adaptive-quantisation and look-ahead switches.

`RateControlConfig.applyOptions` reads the rate-control options in a fixed
order, and the first malformed one is the failure: `bitrate`, `maxbitrate`,
`vbvbufsize`, `vbvinit` (bitrates), `cq` (an 8-bit number), `rc` (a mode
name), `lookahead` (a 16-bit number), `aq` (a 32-bit number). The other keys
never fail: an unknown multi-pass name disables multi-pass, a malformed
quantiser triple is ignored, and `ldkfs` and `temporalaq` only need to be
present.

A bitrate switches the mode to constant bitrate, and on a modern low-latency
session also to quarter-resolution multi-pass with low-delay key-frame
scaling; a target quality (`cq`) clears both bitrates.
-/

namespace VideoCodec

/-- Multi-pass encoding. -/
inductive MultiPass where
  | disabled
  | quarterResolution
  | fullResolution
  deriving DecidableEq, Repr

namespace MultiPass

/-- Reads a multi-pass mode; an unknown name disables multi-pass. -/
def ofName : String → MultiPass
  | "qres" => .quarterResolution
  | "fullres" => .fullResolution
  | _ => .disabled

/-- The identifier of a multi-pass mode in records. -/
def ident : MultiPass → String
  | .disabled => "Disabled"
  | .quarterResolution => "QuarterResolution"
  | .fullResolution => "FullResolution"

/-- Every multi-pass mode. -/
def all : List MultiPass := [.disabled, .quarterResolution, .fullResolution]

end MultiPass

/-- The rate-control mode. -/
inductive RateControlMode where
  | constQp
  | vbr
  | cbr
  deriving DecidableEq, Repr

namespace RateControlMode

/-- Reads a mode from its name: `constqp`, `vbr` or `cbr`. -/
def ofName? : String → Option RateControlMode
  | "constqp" => some .constQp
  | "vbr" => some .vbr
  | "cbr" => some .cbr
  | _ => none

/-- Reads a mode from its name, failing on any other text. -/
def read (s : String) : Except CodecError RateControlMode :=
  match ofName? s with
  | some m => .ok m
  | none => .error (.invalidRateControlMode s)

/-- The identifier of a mode in records. -/
def ident : RateControlMode → String
  | .constQp => "ConstQp"
  | .vbr => "Vbr"
  | .cbr => "Cbr"

/-- Every mode. -/
def all : List RateControlMode := [.constQp, .vbr, .cbr]

end RateControlMode

/-- What the preset and tuning of a session imply for its sub-configurations. -/
structure ParentFlags where
  codec : Codec
  modern : Bool
  lowLatency : Bool
  lossless : Bool
  deriving DecidableEq, Repr

/-- The rate-control parameters of a session. -/
structure RateControlConfig where
  mode : RateControlMode := .constQp
  multiPass : MultiPass := .disabled
  lowDelayKeyFrameScale : Nat := 0
  averageBitrate : Nat := 0
  maxBitrate : Nat := 0
  vbvBufferSize : Nat := 0
  vbvInitialDelay : Nat := 0
  constQp : Qp := Qp.zero
  enableInitialRcQp : Bool := false
  initialRcQp : Qp := Qp.zero
  enableMinQp : Bool := false
  minQp : Qp := Qp.zero
  enableMaxQp : Bool := false
  maxQp : Qp := Qp.zero
  targetQuality : Nat := 0
  enableAq : Bool := false
  aqStrength : Nat := 0
  enableTemporalAq : Bool := false
  enableLookahead : Bool := false
  lookaheadDepth : Nat := 0
  deriving DecidableEq, Repr

namespace RateControlConfig

/-- The rate control of a fresh session: constant quantiser, with the default
quantisers, or all zero for a lossless session. -/
def initial (lossless : Bool) : RateControlConfig :=
  { constQp := if lossless then Qp.zero else Qp.defaultConst }

/-- The bitrate value of `key`, if given. -/
def bitrateOption (o : EncoderOptions) (key : String) : Except CodecError (Option Nat) :=
  match o.get key with
  | none => .ok none
  | some v => some <$> readBitrate v

/-- The quantiser triple of `key`, if given and well formed. -/
def qpOption (o : EncoderOptions) (key : String) : Option Qp :=
  (o.get key).bind Qp.read?

/-- Applies the bitrate option. -/
def withBitrate (flags : ParentFlags) (bitrate : Option Nat) (rc : RateControlConfig) :
    RateControlConfig :=
  match bitrate with
  | none => rc
  | some b =>
    let rc := { rc with averageBitrate := b, mode := .cbr }
    if flags.modern && flags.lowLatency then
      { rc with multiPass := .quarterResolution, lowDelayKeyFrameScale := 1 }
    else rc

/-- Applies the rate-control options in their fixed order. -/
def applyOptions (o : EncoderOptions) (flags : ParentFlags) (rc : RateControlConfig) :
    Except CodecError RateControlConfig := do
  let bitrate ← bitrateOption o "bitrate"
  let rc := withBitrate flags bitrate rc
  let rc := match o.get "multipass" with
    | some v => { rc with multiPass := MultiPass.ofName v }
    | none => rc
  let rc := if (o.get "ldkfs").isSome then { rc with lowDelayKeyFrameScale := 1 } else rc
  let maxBitrate ← bitrateOption o "maxbitrate"
  let rc := match maxBitrate with
    | some b => { rc with maxBitrate := b }
    | none => rc
  let vbvSize ← bitrateOption o "vbvbufsize"
  let rc := match vbvSize with
    | some b => { rc with vbvBufferSize := b }
    | none => rc
  let vbvInit ← bitrateOption o "vbvinit"
  let rc := match vbvInit with
    | some b => { rc with vbvInitialDelay := b }
    | none => rc
  let cq ← o.natOption Text.limitU8 "cq"
  let rc := match cq with
    | some q => { rc with targetQuality := q, averageBitrate := 0, maxBitrate := 0 }
    | none => rc
  let mode ← match o.get "rc" with
    | some v => some <$> RateControlMode.read v
    | none => pure none
  let rc := match mode with
    | some m => { rc with mode := m }
    | none => rc
  let rc := match qpOption o "initqp" with
    | some q => { rc with initialRcQp := q, enableInitialRcQp := true }
    | none => rc
  let rc := match qpOption o "qmin" with
    | some q => { rc with minQp := q, enableMinQp := true }
    | none => rc
  let rc := match qpOption o "qmax" with
    | some q => { rc with maxQp := q, enableMaxQp := true }
    | none => rc
  let rc := match qpOption o "constqp" with
    | some q => { rc with constQp := q }
    | none => rc
  let rc := if (o.get "temporalaq").isSome then { rc with enableTemporalAq := true } else rc
  let depth ← o.natOption Text.limitU16 "lookahead"
  let rc := match depth with
    | some d => { rc with lookaheadDepth := d, enableLookahead := d != 0 }
    | none => rc
  let strength ← o.natOption Text.limitU32 "aq"
  let rc := match strength with
    | some s => { rc with enableAq := true, aqStrength := s }
    | none => rc
  pure rc

end RateControlConfig

end VideoCodec
