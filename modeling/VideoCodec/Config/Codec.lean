/-!
# Codecs and the words of their configuration

The encoder produces one of three codecs. Users name them in lowercase
(`h264`, `hevc`, `av1`); records write them by identifier (`H264`, `Hevc`,
`Av1`). Beside the codec stand the small vocabularies that its configuration
is written in: the profile, the chroma subsampling and the bit depth.
-/

namespace VideoCodec

/-- The codecs the encoder can produce. -/
inductive Codec where
  | h264
  | hevc
  | av1
  deriving DecidableEq, Repr

namespace Codec

/-- Reads a codec from its lowercase name, matched exactly. -/
def ofName? : String → Option Codec
  | "h264" => some .h264
  | "hevc" => some .hevc
  | "av1" => some .av1
  | _ => none

/-- The lowercase name of a codec. -/
def name : Codec → String
  | .h264 => "h264"
  | .hevc => "hevc"
  | .av1 => "av1"

/-- The identifier of a codec in records. -/
def ident : Codec → String
  | .h264 => "H264"
  | .hevc => "Hevc"
  | .av1 => "Av1"

theorem ofName?_name (c : Codec) : ofName? c.name = some c := by
  cases c <;> rfl

end Codec

/-- The encoding profile; `autoselect` lets the encoder choose. -/
inductive Profile where
  | autoselect
  | h264High444
  | hevcFrext
  deriving DecidableEq, Repr

/-- The identifier of a profile in records. -/
def Profile.ident : Profile → String
  | .autoselect => "Autoselect"
  | .h264High444 => "H264High444"
  | .hevcFrext => "HevcFrext"

/-- Chroma subsampling of the encoded stream. -/
inductive ChromaFormat where
  | yuv420
  | yuv444
  deriving DecidableEq, Repr

/-- The identifier of a chroma format in records. -/
def ChromaFormat.ident : ChromaFormat → String
  | .yuv420 => "Yuv420"
  | .yuv444 => "Yuv444"

/-- Bits per encoded sample. -/
inductive BitDepth where
  | eight
  | ten
  deriving DecidableEq, Repr

/-- The identifier of a bit depth in records. -/
def BitDepth.ident : BitDepth → String
  | .eight => "Eight"
  | .ten => "Ten"

end VideoCodec
