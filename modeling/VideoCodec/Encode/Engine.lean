import VideoCodec.Config.Resolve
import VideoCodec.Frame.Input
import VideoCodec.Encode.Ledger
/-!
# The encode engine

The hardware side of an encoder session, held as plain data so that every
effect of a session on it can be read back: the parameters it was opened
with, the input slots handed out and the frame copies made into them, the
sequences submitted and those still in flight, whether it was flushed, the
reconfigurations it accepted, and the input buffers registered with it and
released again.

Input slot `i` sits at `0x7f00_0000_0000 + i · 0x100_0000` with the encode
width as pitch. The engine holds `latency` frames back: draining returns all
submitted frames but the last `latency`, and flushing returns all. Each
packet's bytes are its sequence as eight little-endian bytes, and with
`reverseOutput` each batch comes out in reverse. Registration handles count
from 1. Asked as a driver (`EncodeEngine.capabilities`), the engine offers
every capability and the codec's defaults for every preset. An engine set to `rejectReconfigure` declines every
reconfiguration, and one set to `failUnregister` fails every release with
status 8.
-/

namespace VideoCodec

/-- An input slot of the engine: its address and row pitch. -/
structure InputSlot where
  ptr : Nat
  pitch : Nat
  deriving DecidableEq, Repr

/-- A frame copy as the engine received it. -/
structure RecordedCopy where
  slot : InputSlot
  devicePtr : Option Nat
  hostLen : Nat
  srcPitch : Nat
  chromaOffsets : List Nat
  format : PixelFormat
  deriving DecidableEq, Repr

/-- The state of the encode engine. -/
structure EncodeEngine where
  opened : Option InitializeParams := none
  slotsRequested : Nat := 0
  copies : List RecordedCopy := []
  submitted : List Nat := []
  latency : Nat := 0
  reverseOutput : Bool := false
  flushed : Bool := false
  registrations : List (Nat × Nat) := []
  unregistered : List Nat := []
  failUnregister : Bool := false
  reconfigured : List InitializeParams := []
  rejectReconfigure : Bool := false
  pending : List Nat := []
  deriving DecidableEq, Repr

/-- The address of the first input slot. -/
def slotBase : Nat := 0x7f0000000000

/-- The distance between two input slots. -/
def slotSpacing : Nat := 0x1000000

/-- A number as eight little-endian bytes. -/
def leBytes8 (n : Nat) : List UInt8 :=
  (List.range 8).map fun i => (n / Nat.pow 256 i % 256).toUInt8

namespace EncodeEngine

/-- What the engine answers as a driver before a session exists. -/
def capabilities : Capabilities where
  capability _ _ := .ok 1
  presetConfig codec _ _ := .ok (EncodeConfig.forCodec codec)

/-- The engine gives the base configurations of the offline driver, so a
session resolves as without a device. -/
theorem resolveWith_capabilities (o : EncoderOptions) : resolveWith capabilities o = resolve o :=
  resolveIntoWith_congr rfl o {} false

theorem reconfigureWith_capabilities (o : EncoderOptions) :
    reconfigureWith capabilities o = VideoCodec.reconfigure o :=
  funext fun live => resolveIntoWith_congr rfl o live true

/-- Opens the engine with session parameters. -/
def start (e : EncodeEngine) (p : InitializeParams) : EncodeEngine :=
  { e with opened := some p }

/-- The parameters the engine is open with. -/
def currentParams (e : EncodeEngine) : Except CodecError InitializeParams :=
  match e.opened with
  | some p => .ok p
  | none => .error (.provider "initialize_params" (-1))

/-- Hands out the next input slot. -/
def nextInputSlot (e : EncodeEngine) : InputSlot × EncodeEngine :=
  let width := (e.opened.map InitializeParams.encodeWidth).getD 0
  (⟨slotBase + e.slotsRequested * slotSpacing, width⟩, { e with slotsRequested := e.slotsRequested + 1 })

/-- Records a copy into a slot. -/
def copyIntoSlot (e : EncodeEngine) (slot : InputSlot) (c : FrameCopy) : EncodeEngine :=
  let (device, hostLen) := match c.source with
    | .device p => (some p, 0)
    | .host n => (none, n)
  { e with copies := e.copies ++ [⟨slot, device, hostLen, c.srcPitch, c.chromaOffsets, c.format⟩] }

/-- Starts encoding the frame of a sequence. -/
def submit (e : EncodeEngine) (seq : Nat) : EncodeEngine :=
  { e with submitted := e.submitted ++ [seq], pending := e.pending ++ [seq] }

/-- The packets of some sequences, in batch order. -/
def packets (e : EncodeEngine) (seqs : List Nat) : List EncodedPacket :=
  let ps := seqs.map fun s => ⟨s, leBytes8 s⟩
  if e.reverseOutput then ps.reverse else ps

/-- The packets that are ready: all in flight but the last `latency`. -/
def drain (e : EncodeEngine) : List EncodedPacket × EncodeEngine :=
  let ready := e.pending.length - e.latency
  (e.packets (e.pending.take ready), { e with pending := e.pending.drop ready })

/-- All packets in flight. -/
def flush (e : EncodeEngine) : List EncodedPacket × EncodeEngine :=
  (e.packets e.pending, { e with flushed := true, pending := [] })

/-- The packets of some sequences are those sequences, in batch order or
reversed. -/
theorem map_sequence_packets (e : EncodeEngine) (seqs : List Nat) :
    (e.packets seqs).map EncodedPacket.sequence = if e.reverseOutput then seqs.reverse else seqs := by
  unfold packets
  split <;> simp [Function.comp_def]

/-- Draining keeps the frames still in flight, the last `latency` of them,
and returns the packets of the others. -/
theorem drain_eq (e : EncodeEngine) :
    e.drain = (e.packets (e.pending.take (e.pending.length - e.latency)),
      { e with pending := e.pending.drop (e.pending.length - e.latency) }) := rfl

/-- Flushing returns the packets of every frame in flight and leaves none. -/
theorem flush_eq (e : EncodeEngine) :
    e.flush = (e.packets e.pending, { e with flushed := true, pending := [] }) := rfl

/-- Reopens the engine with new parameters, unless it declines. -/
def reconfigure (e : EncodeEngine) (p : InitializeParams) : Bool × EncodeEngine :=
  if e.rejectReconfigure then (false, e)
  else (true, { e with reconfigured := e.reconfigured ++ [p], opened := some p })

/-- Registers an input buffer and gives its handle. -/
def registerResource (e : EncodeEngine) (ptr : Nat) : Nat × EncodeEngine :=
  let handle := e.registrations.length + 1
  (handle, { e with registrations := e.registrations ++ [(ptr, handle)] })

/-- Releases a registration. -/
def unregisterResource (e : EncodeEngine) (handle : Nat) : Except CodecError EncodeEngine :=
  if e.failUnregister then .error (.provider "unregister_resource" 8)
  else .ok { e with unregistered := e.unregistered ++ [handle] }

end EncodeEngine

/-- Checks a frame, takes an input slot and copies the frame into it. A
rejected frame leaves the engine as it was. -/
def InputConfig.acquire (c : InputConfig) (src : FrameSource) (e : EncodeEngine) :
    Except CodecError (InputSlot × EncodeEngine) := do
  let copy ← c.prepare src
  let (slot, e) := e.nextInputSlot
  pure (slot, e.copyIntoSlot slot copy)

end VideoCodec
