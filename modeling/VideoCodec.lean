import VideoCodec.Pixel.Format
import VideoCodec.Text.Blank
import VideoCodec.Text.Mark
import VideoCodec.Text.Quoted
import VideoCodec.Text.Hex
import VideoCodec.Text.Decimal
import VideoCodec.Error
import VideoCodec.Word
import VideoCodec.Json
import VideoCodec.Config.Codec
import VideoCodec.Config.Preset
import VideoCodec.Config.Options
import VideoCodec.Config.Value
import VideoCodec.Config.RateControl
import VideoCodec.Config.Vui
import VideoCodec.Config.CodecConfig
import VideoCodec.Config.Params
import VideoCodec.Config.Resolve
import VideoCodec.Config.Json
import VideoCodec.Text.Binary64
import VideoCodec.Text.Fixed
import VideoCodec.Pixel.Layout
import VideoCodec.Buffer.ArrayInterface
import VideoCodec.Buffer.PlaneView
import VideoCodec.Buffer.Coerce
import VideoCodec.Buffer.Tensor
import VideoCodec.Frame.Descriptor
import VideoCodec.Frame.Input
import VideoCodec.Media.Packet
import VideoCodec.Media.Metadata
import VideoCodec.Media.Demux
import VideoCodec.Frame.Json
import VideoCodec.Config.Session
import VideoCodec.Encode.Ledger
import VideoCodec.Encode.Engine
import VideoCodec.Encode.Registry
import VideoCodec.Encode.Session
import VideoCodec.Decode.Engine
import VideoCodec.Decode.Session
import VideoCodec.Cli
import VideoCodec.Main
import VideoCodec.Encode.Json
import VideoCodec.Proofs.Outcome
import VideoCodec.Proofs.PlaneBytes
import VideoCodec.Proofs.Session
import VideoCodec.Proofs.InputCheck
import VideoCodec.Proofs.Stamping
import VideoCodec.Proofs.Resolve
import VideoCodec.Proofs.Parameters
import VideoCodec.Proofs.Handoff
import VideoCodec.Proofs.PlaneExport
import VideoCodec.Proofs.Coherence
import VideoCodec.Proofs.Footprint
import VideoCodec.Proofs.Registration
import VideoCodec.Proofs.AllOrNothing
import VideoCodec.Proofs.Reencode
import VideoCodec.Proofs.CommandLine
import VideoCodec.Proofs.PreparedCopy
import VideoCodec.Proofs.StackedRows
import VideoCodec.Proofs.PlaneList
import VideoCodec.Proofs.RateText
import VideoCodec.Proofs.LockedFrames
import VideoCodec.Proofs.RateOptions
import VideoCodec.Proofs.Reconfiguration
import VideoCodec.Proofs.FrameSize
import VideoCodec.Proofs.BitrateText
