import VideoCodec.Decode.Engine
import VideoCodec.Frame.Descriptor
import VideoCodec.Media.Packet
/-!
# Decoder sessions

A `Decoder` turns packets into frame descriptors over a decode engine. Before
it hands out frames it orders their use after the decoding: on the
consumer's stream when one is set, not at all when the engine's output has a
stream of its own, and otherwise by synchronising the engine. A frame
descriptor cuts the surface into planes (`assemble`) on the engine's stream
and device; a surface that cannot be cut makes the whole call fail, after the
engine has decoded or locked it.

Flushing decodes the end-of-stream packet. A locked frame is unlocked by the
address of its first plane.
-/

namespace VideoCodec

/-- A decoder session. -/
structure Decoder where
  engine : DecodeEngine
  consumerStream : Option Nat := none
  deriving DecidableEq, Repr

namespace Decoder

/-- Orders the use of the output after the decoding. -/
def syncOutput (d : Decoder) : Decoder :=
  match d.consumerStream, d.engine.stream with
  | some s, _ => { d with engine := d.engine.waitOnStream s }
  | none, some _ => d
  | none, none => { d with engine := d.engine.synchronize }

/-- The frame descriptor of a decoded surface. -/
def describe (d : Decoder) (s : DecodedSurface) : Except CodecError FrameDescriptor :=
  assemble s.ptr d.engine.pixelFormat d.engine.width d.engine.height s.timestamp d.engine.stream
    d.engine.device

/-- Decodes a packet into frames. -/
def decode (d : Decoder) (p : Packet) : Except CodecError (List FrameDescriptor) × Decoder :=
  match d.engine.decode p.data p.pts with
  | .error e => (.error e, d)
  | .ok (surfaces, engine) =>
    let d := { d with engine := engine }
    if surfaces.isEmpty then (.ok [], d)
    else
      let d := d.syncOutput
      (surfaces.mapM d.describe, d)

/-- Decodes the end of the stream. -/
def flush (d : Decoder) : Except CodecError (List FrameDescriptor) × Decoder :=
  d.decode Packet.endOfStream

/-- Locks the next decoded frame, if any. -/
def lockedFrame (d : Decoder) : Except CodecError (Option FrameDescriptor) × Decoder :=
  let (surface, engine) := d.engine.lockFrame
  let d := { d with engine := engine }
  match surface with
  | none => (.ok none, d)
  | some s =>
    let d := d.syncOutput
    (some <$> d.describe s, d)

/-- Unlocks a locked frame. -/
def unlockFrame (d : Decoder) (f : FrameDescriptor) : Except CodecError Unit × Decoder :=
  match d.engine.unlockFrame f.data with
  | .ok engine => (.ok (), { d with engine := engine })
  | .error e => (.error e, d)

/-- Bytes of one decoded frame. -/
def frameSize (d : Decoder) : Except CodecError Nat :=
  VideoCodec.frameSize d.engine.pixelFormat d.engine.width d.engine.height

end Decoder

end VideoCodec
