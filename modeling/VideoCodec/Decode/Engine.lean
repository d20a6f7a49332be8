import VideoCodec.Pixel.Layout
/-!
# The decode engine

The hardware side of a decoder session, held as plain data: the surface
format and size it decodes to, the stream and device its output lives on, how
many frames it decoded, the surfaces waiting to be locked, the addresses
locked and unlocked, the streams it was told to wait on and how often it was
synchronised.

Decoding a packet with bytes yields one surface, stamped with the packet's
presentation time; surface `k` sits at `0x7e00_0000_0000 + k · size`, where
`size` is the frame size of the surface format (0 when it has no layout). That
address is a machine word: a size or an address past the largest word stops
the program. A packet without bytes yields nothing. Locking takes the next waiting surface
and marks its address locked; unlocking an address that is not locked fails
with status 1.
-/

namespace VideoCodec

/-- A decoded surface: its address and timestamp. -/
structure DecodedSurface where
  ptr : Nat
  timestamp : Int
  deriving DecidableEq, Repr

/-- The state of the decode engine. -/
structure DecodeEngine where
  surfaceFormat : SurfaceFormat
  width : Nat
  height : Nat
  stream : Option Nat := none
  device : Int := 0
  decoded : Nat := 0
  lockable : List DecodedSurface := []
  locked : List Nat := []
  unlocked : List Nat := []
  waits : List Nat := []
  synchronized : Nat := 0
  deriving DecidableEq, Repr

/-- The address of the first decoded surface. -/
def surfaceBase : Nat := 0x7e0000000000

namespace DecodeEngine

/-- The pixel format of the decoded surfaces. -/
def pixelFormat (e : DecodeEngine) : PixelFormat := e.surfaceFormat.pixelFormat

/-- Bytes of one decoded surface, 0 when its format has no layout. A frame
size past the largest word is no failure to replace by 0: it stops the
program. -/
def frameBytes (e : DecodeEngine) : Except CodecError Nat :=
  match frameSize e.pixelFormat e.width e.height with
  | .ok n => .ok n
  | .error (.halted s) => .error (.halted s)
  | .error _ => .ok 0

/-- Bits per decoded sample: 16 for the 16-bit surface formats, 8 otherwise. -/
def bitDepth (e : DecodeEngine) : Nat :=
  match e.surfaceFormat with
  | .p016 | .yuv444P16 => 16
  | _ => 8

/-- Decodes a packet's bytes with its presentation time. -/
def decode (e : DecodeEngine) (data : List UInt8) (pts : Int) :
    Except CodecError (List DecodedSurface × DecodeEngine) :=
  if data.isEmpty then .ok ([], e)
  else do
    let size ← e.frameBytes
    let offset ← Word.mul e.decoded size
    let ptr ← Word.add surfaceBase offset
    pure ([⟨ptr, pts⟩], { e with decoded := e.decoded + 1 })

/-- Queues a surface for locking. -/
def pushLockable (e : DecodeEngine) (s : DecodedSurface) : DecodeEngine :=
  { e with lockable := e.lockable ++ [s] }

/-- Locks the next waiting surface, if any. -/
def lockFrame (e : DecodeEngine) : Option DecodedSurface × DecodeEngine :=
  match e.lockable with
  | [] => (none, e)
  | s :: rest => (some s, { e with lockable := rest, locked := e.locked ++ [s.ptr] })

/-- Unlocks a locked address. -/
def unlockFrame (e : DecodeEngine) (ptr : Nat) : Except CodecError DecodeEngine :=
  if e.locked.contains ptr then
    .ok { e with locked := e.locked.filter (· != ptr), unlocked := e.unlocked ++ [ptr] }
  else .error (.provider "unlock_frame" 1)

/-- Makes the engine's output wait on a stream. -/
def waitOnStream (e : DecodeEngine) (stream : Nat) : DecodeEngine :=
  { e with waits := e.waits ++ [stream] }

/-- Waits for the engine to finish all work. -/
def synchronize (e : DecodeEngine) : DecodeEngine :=
  { e with synchronized := e.synchronized + 1 }

end DecodeEngine

end VideoCodec
