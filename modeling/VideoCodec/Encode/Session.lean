import VideoCodec.Config.Resolve
import VideoCodec.Encode.Registry
/-!
# Encoder sessions

An `Encoder` ties a resolved set of session parameters to an encode engine.
Its settings fix the frame geometry and input format, which override the
`fmt` and `s` options; creating the session resolves the options against the
engine as driver and opens the engine with the result.

* `Encoder.encode` checks a frame and copies it into an input slot, gives it
  the next sequence number with the caller's timestamp, submits it, and
  returns the packets that are ready, each with the timestamp of its own
  frame. A frame that fails the check changes nothing.
* `Encoder.endEncode` flushes the engine and returns the remaining packets.
* `Encoder.reconfigure` and `Encoder.reconfigureWithOptions` change the live
  parameters read back from the engine, mark the session low-latency, and
  take effect only if the engine accepts them.
* `Encoder.registerInputFrame` registers a checked device frame with the
  engine once per address, and keeps the frame while it is registered; host
  buffers cannot be registered.
* `Encoder.close` releases every registration.
-/

namespace VideoCodec

/-- What an encoder session is created with. -/
structure EncoderSettings where
  width : Nat
  height : Nat
  format : PixelFormat := .nv12
  hostInput : Bool := false
  device : Int := 0
  options : EncoderOptions := EncoderOptions.empty
  deriving DecidableEq, Repr

/-- The options a session resolves: the settings' options with `fmt` and `s`
set from the settings. -/
def EncoderSettings.resolvedOptions (s : EncoderSettings) : EncoderOptions :=
  let w := s.width
  let h := s.height
  (s.options.insert "fmt" s.format.name).insert "s" s!"{w}x{h}"

/-- An encoder session. -/
structure Encoder where
  engine : EncodeEngine
  memory : DeviceMemory
  settings : EncoderSettings
  params : InitializeParams
  reconfigureParams : ReconfigureParams
  ledger : TimestampLedger
  registry : InputRegistry
  deriving DecidableEq, Repr

namespace Encoder

/-- Creates a session: resolves the options and opens the engine. -/
def create (settings : EncoderSettings) (engine : EncodeEngine) (memory : DeviceMemory) :
    Except CodecError Encoder := do
  let params ← resolveWith EncodeEngine.capabilities settings.resolvedOptions
  pure {
    engine := engine.start params, memory := memory, settings := settings,
    params := params, reconfigureParams := ReconfigureParams.ofParams params, ledger := {},
    registry := {} }

/-- What the session accepts as input, with or without host buffers. -/
def inputConfig (enc : Encoder) (hostInput : Bool) : InputConfig :=
  { memory := enc.memory, device := enc.settings.device, format := enc.settings.format,
    width := enc.settings.width, height := enc.settings.height, hostInput := hostInput }

/-- Stamps a batch of packets from the engine. -/
def stamp (enc : Encoder) (packets : List EncodedPacket) :
    Except CodecError (List TimestampedPacket) × Encoder :=
  let (r, ledger) := enc.ledger.attach packets
  (r, { enc with ledger := ledger })

/-- Encodes one frame with a timestamp and returns the packets that are ready. -/
def encode (enc : Encoder) (src : FrameSource) (ts : Int) :
    Except CodecError (List TimestampedPacket) × Encoder :=
  match (enc.inputConfig enc.settings.hostInput).acquire src enc.engine with
  | .error e => (.error e, enc)
  | .ok (_, engine) =>
    let (seq, ledger) := enc.ledger.nextSequence
    match ledger.submit seq ts with
    | .error e => (.error e, { enc with engine := engine, ledger := ledger })
    | .ok ledger =>
      let (packets, engine) := (engine.submit seq).drain
      stamp { enc with engine := engine, ledger := ledger } packets

/-- Flushes the engine and returns the remaining packets. -/
def endEncode (enc : Encoder) : Except CodecError (List TimestampedPacket) × Encoder :=
  let (packets, engine) := enc.engine.flush
  stamp { enc with engine := engine } packets

/-- Offers new parameters to the engine; they take effect if it accepts. -/
def applyReconfigure (enc : Encoder) (next : InitializeParams) : Bool × Encoder :=
  let (accepted, engine) := enc.engine.reconfigure next
  if accepted then
    (true, { enc with
      engine := engine, params := next, reconfigureParams := ReconfigureParams.ofParams next })
  else (false, { enc with engine := engine })

/-- Reconfigures with a new changeable part. -/
def reconfigure (enc : Encoder) (r : ReconfigureParams) : Except CodecError Bool × Encoder :=
  match enc.engine.currentParams with
  | .error e => (.error e, enc)
  | .ok live =>
    let (ok, enc) := enc.applyReconfigure { r.applyTo live with tuningInfo := .lowLatency }
    (.ok ok, enc)

/-- Reconfigures with options. -/
def reconfigureWithOptions (enc : Encoder) (o : EncoderOptions) : Except CodecError Bool × Encoder :=
  match enc.engine.currentParams >>= reconfigureWith EncodeEngine.capabilities o with
  | .error e => (.error e, enc)
  | .ok next =>
    let (ok, enc) := enc.applyReconfigure next
    (.ok ok, enc)

/-- Registers a device frame for reading in place, once per address. -/
def registerInputFrame (enc : Encoder) (src : FrameSource) : Except CodecError Nat × Encoder :=
  match (enc.inputConfig false).prepare src with
  | .error e => (.error e, enc)
  | .ok copy =>
    match copy.source with
    | .host _ => (.error .unsupportedInputType, enc)
    | .device ptr =>
      let (h, registry, engine) := enc.registry.register enc.engine ptr src
      (.ok h, { enc with registry := registry, engine := engine })

/-- The handle of a registered address. -/
def registration (enc : Encoder) (ptr : Nat) : Option Nat := enc.registry.handle ptr

/-- Number of registered inputs. -/
def registeredInputs (enc : Encoder) : Nat := enc.registry.size

/-- Ends the session: releases every registration and gives the engine back. -/
def close (enc : Encoder) : EncodeEngine :=
  (enc.registry.unregisterAll enc.engine).2.2

end Encoder

end VideoCodec
