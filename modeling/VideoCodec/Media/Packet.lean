import VideoCodec.Json
import VideoCodec.Text.Hex
/-!
# Packets

A packet of a container stream: its bytes, presentation and decoding
timestamps, byte position, duration and key-frame flag. A packet read from a
container carries its presentation time as decoding time, an unknown position
(`-1`), no duration and no key-frame flag. A packet without bytes marks the
end of the stream.
-/

namespace VideoCodec

/-- A packet of a container stream. -/
structure Packet where
  data : List UInt8
  pts : Int
  dts : Int
  pos : Int
  duration : Int
  key : Bool
  deriving DecidableEq, Repr

namespace Packet

/-- A packet with the given bytes and presentation time. -/
def make (data : List UInt8) (pts : Int) : Packet :=
  { data := data, pts := pts, dts := pts, pos := -1, duration := 0, key := false }

/-- The packet that ends a stream. -/
def endOfStream : Packet := make [] 0

/-- Whether the packet ends the stream: it has no bytes. -/
def isEndOfStream (p : Packet) : Bool := p.data.isEmpty

/-- The record of a packet, bytes in hexadecimal. -/
def toJson (p : Packet) : Json :=
  .obj [("pts", .num p.pts), ("dts", .num p.dts), ("pos", .num p.pos),
    ("duration", .num p.duration), ("key", .bool p.key), ("data", .str (Text.hexBytes p.data)),
    ("eos", .bool p.isEndOfStream)]

end Packet

end VideoCodec
