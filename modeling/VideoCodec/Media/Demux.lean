import VideoCodec.Error
import VideoCodec.Media.Packet
import VideoCodec.Text.Binary64
/-!
# Reading a container

A `Recording` is a container as a demultiplexer sees it: a list of entries,
each a packet or a read failure with its status, and a read cursor. Reading
takes the entry at the cursor and always moves the cursor on; past the last
entry there is nothing to read. Seeking to a time in milliseconds records the
time, puts the cursor on the first packet whose presentation time, read as an
unsigned 64-bit number, is at least that time, and reads from there.

A `DemuxStream` reads a recording as a stream of packets that ends the first
time nothing is left; once ended it stays ended, without reading, until a seek.
A seek takes seconds, converted to milliseconds as `max(s, 0) · 1000` in
binary64 arithmetic with the fraction cut off and the result clamped to 64
bits.
-/

namespace VideoCodec

/-- An entry of a recorded container: a packet, or a read that fails with a
status. -/
inductive Entry where
  | packet (p : Packet)
  | failure (pts : Int) (status : Int)
  deriving DecidableEq, Repr

/-- The presentation time of an entry. -/
def Entry.pts : Entry → Int
  | .packet p => p.pts
  | .failure t _ => t

/-- A recorded container with a read cursor and the seeks made on it. -/
structure Recording where
  entries : List Entry
  cursor : Nat := 0
  seeks : List Nat := []
  deriving DecidableEq, Repr

/-- A presentation time read as an unsigned 64-bit number. -/
def unsignedTime (t : Int) : Nat := (t % 0x10000000000000000).toNat

namespace Recording

/-- Reads the entry at the cursor and moves the cursor on. -/
def nextPacket (r : Recording) : Except CodecError (Option Packet) × Recording :=
  let r' := { r with cursor := r.cursor + 1 }
  match r.entries[r.cursor]? with
  | none => (.ok none, r')
  | some (.packet p) => (.ok (some p), r')
  | some (.failure _ status) => (.error (.provider "next_packet" status), r')

/-- Seeks to a time in milliseconds and reads from there. -/
def seekTo (r : Recording) (ms : Nat) : Except CodecError (Option Packet) × Recording :=
  let target := (r.entries.findIdx? fun e => decide (unsignedTime e.pts ≥ ms)).getD r.entries.length
  nextPacket { r with cursor := target, seeks := r.seeks ++ [ms] }

end Recording

/-- Milliseconds of a seek given in seconds. -/
def seekMillis (seconds : Text.Binary64) : Nat :=
  (seconds.maxZero.mulNat 1000).toNatSat

/-- A recording read as a stream of packets. -/
structure DemuxStream where
  recording : Recording
  finished : Bool := false
  deriving DecidableEq, Repr

namespace DemuxStream

/-- The next item: a packet, a read failure, or nothing once the stream ended. -/
def next (s : DemuxStream) : Option (Except CodecError Packet) × DemuxStream :=
  if s.finished then (none, s)
  else
    let (r, rec) := s.recording.nextPacket
    match r with
    | .ok (some p) => (some (.ok p), { s with recording := rec })
    | .ok none => (none, { recording := rec, finished := true })
    | .error e => (some (.error e), { s with recording := rec })

/-- Seeks to a time in seconds and reads the packet there. -/
def seek (s : DemuxStream) (seconds : Text.Binary64) : Except CodecError (Option Packet) × DemuxStream :=
  let (r, rec) := s.recording.seekTo (seekMillis seconds)
  (r, { recording := rec, finished := false })

end DemuxStream

end VideoCodec
