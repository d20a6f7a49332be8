/-!
# Presets and tuning

A **preset** trades speed for quality (`P1` fastest to `P7` best). Every preset
this library knows is *modern*, meaning that it takes a separate **tuning**;
a name that is no preset falls back to `P4`. The tuning decides whether the
session is low-latency or lossless, which in turn shapes rate control.
-/

namespace VideoCodec

/-- The seven presets, fastest first. -/
inductive Preset where
  | p1
  | p2
  | p3
  | p4
  | p5
  | p6
  | p7
  deriving DecidableEq, Repr

/-- The identifier of a preset, which is also its name: `P1` … `P7`. -/
def Preset.ident : Preset → String
  | .p1 => "P1"
  | .p2 => "P2"
  | .p3 => "P3"
  | .p4 => "P4"
  | .p5 => "P5"
  | .p6 => "P6"
  | .p7 => "P7"

/-- What a preset implies for the rest of the configuration. -/
structure PresetProperties where
  preset : Preset
  lowLatency : Bool
  lossless : Bool
  modern : Bool
  deriving DecidableEq, Repr

namespace PresetProperties

/-- The properties of a known preset: modern, neither low-latency nor lossless. -/
def ofPreset (p : Preset) : PresetProperties :=
  { preset := p, lowLatency := false, lossless := false, modern := true }

/-- Looks a preset up by name; an unknown name gives `P4`. -/
def lookup : String → PresetProperties
  | "P1" => ofPreset .p1
  | "P2" => ofPreset .p2
  | "P3" => ofPreset .p3
  | "P4" => ofPreset .p4
  | "P5" => ofPreset .p5
  | "P6" => ofPreset .p6
  | "P7" => ofPreset .p7
  | _ => ofPreset .p4

/-- Every preset is modern, known or not. -/
theorem lookup_modern (s : String) : (lookup s).modern = true := by
  unfold lookup; split <;> rfl

end PresetProperties

/-- The tuning of a session. -/
inductive TuningInfo where
  | undefined
  | highQuality
  | lowLatency
  | ultraLowLatency
  | lossless
  | ultraHighQuality
  deriving DecidableEq, Repr

namespace TuningInfo

/-- Reads a tuning from its name; an unknown name is `undefined`. -/
def ofName : String → TuningInfo
  | "high_quality" => .highQuality
  | "low_latency" => .lowLatency
  | "ultra_low_latency" => .ultraLowLatency
  | "lossless" => .lossless
  | "uhq" => .ultraHighQuality
  | _ => .undefined

/-- Whether the tuning asks for low latency. -/
def isLowLatency : TuningInfo → Bool
  | .lowLatency | .ultraLowLatency => true
  | _ => false

/-- The identifier of a tuning in records. -/
def ident : TuningInfo → String
  | .undefined => "Undefined"
  | .highQuality => "HighQuality"
  | .lowLatency => "LowLatency"
  | .ultraLowLatency => "UltraLowLatency"
  | .lossless => "Lossless"
  | .ultraHighQuality => "UltraHighQuality"

end TuningInfo

end VideoCodec
