import VideoCodec.Encode.Session
import VideoCodec.Config.Json
/-!
# Encoder records as JSON

What an encode engine did, written as JSON records: the input slots it handed
out, the frame copies it received and the packets it returned with their
timestamps. A record lists its members in a fixed order and nothing reads them
back, so each record function is one object literal. Packet bytes are written
as lowercase hexadecimal, two digits a byte.
-/

namespace VideoCodec

/-- An input slot. -/
def InputSlot.toJson (s : InputSlot) : Json :=
  .obj [("ptr", .nat s.ptr), ("pitch", .nat s.pitch)]

/-- A frame copy as the engine received it. -/
def RecordedCopy.toJson (c : RecordedCopy) : Json :=
  .obj [("slot", c.slot.toJson), ("device_ptr", .opt .nat c.devicePtr), ("host_len", .nat c.hostLen),
    ("src_pitch", .nat c.srcPitch), ("chroma_offsets", .nats c.chromaOffsets),
    ("format", .str c.format.ident)]

/-- A packet with its timestamp. -/
def TimestampedPacket.toJson (p : TimestampedPacket) : Json :=
  .obj [("timestamp", .num p.timestamp), ("data", .str (Text.hexBytes p.data))]

end VideoCodec
