import VideoCodec.Encode.Session
/-!
# Encoder sessions as sequences of calls

A caller drives an encoder session by a sequence of calls (`SessionOp`): frames
to encode, the final flush, the two kinds of reconfiguration and input
registrations. Each call answers (`SessionReply`) and moves the session on, and
`Encoder.run` performs a list of calls in order, collecting the answers. Every
statement about "any sequence of calls" in the proofs is a statement about
`Encoder.run`.

Two readings of a run recur there: the timestamps of the frames the session
took, in the order it took them (`takenStamps`: the encode calls answered with
packets), and the packets it handed back (`returnedPackets`).

The calls touch disjoint parts of a session, and the last two sections say so
once, so that an invariant about one part is carried over the calls that leave
it alone without opening them:

* reconfigurations and registrations leave the timestamp ledger and the frames
  in flight alone (`Encoder.SameFlight`);
* encoding, flushing and registrations leave the session parameters and the
  parameters the engine is open with alone (`Encoder.SameParams`).
-/

namespace VideoCodec

/-- A call on an encoder session. -/
inductive SessionOp where
  /-- Encode a frame with a timestamp. -/
  | encode (src : FrameSource) (ts : Int)
  /-- Flush the engine. -/
  | endEncode
  /-- Reconfigure with a new changeable part. -/
  | reconfigure (r : ReconfigureParams)
  /-- Reconfigure from options. -/
  | reconfigureWithOptions (o : EncoderOptions)
  /-- Register a frame for reading in place. -/
  | registerInputFrame (src : FrameSource)

/-- The answer to a call: packets, a verdict on a reconfiguration, or a
registration handle. -/
inductive SessionReply where
  | packets (r : Except CodecError (List TimestampedPacket))
  | verdict (r : Except CodecError Bool)
  | handle (r : Except CodecError Nat)

/-- The timestamp of the frame a call handed over, when the session took it:
an encode answered with packets. -/
def SessionOp.takenStamp : SessionOp → SessionReply → Option Int
  | .encode _ ts, .packets (.ok _) => some ts
  | _, _ => none

/-- The packets an answer hands back. -/
def SessionReply.returned : SessionReply → List TimestampedPacket
  | .packets (.ok ps) => ps
  | _ => []

/-- The timestamps of the frames a session took, in the order it took them. -/
def takenStamps (ops : List SessionOp) (replies : List SessionReply) : List Int :=
  (ops.zip replies).filterMap fun p => p.1.takenStamp p.2

/-- The packets a session handed back, in order. -/
def returnedPackets (replies : List SessionReply) : List TimestampedPacket :=
  replies.flatMap SessionReply.returned

@[simp] theorem takenStamps_nil_left (replies : List SessionReply) :
    takenStamps [] replies = [] := rfl

@[simp] theorem takenStamps_cons (op : SessionOp) (ops : List SessionOp) (r : SessionReply)
    (replies : List SessionReply) :
    takenStamps (op :: ops) (r :: replies) = (op.takenStamp r).toList ++ takenStamps ops replies := by
  cases h : op.takenStamp r <;> simp [takenStamps, h]

/-- A run takes at most one frame per call. -/
theorem takenStamps_length_le (ops : List SessionOp) (replies : List SessionReply) :
    (takenStamps ops replies).length ≤ ops.length := by
  unfold takenStamps
  refine Nat.le_trans (List.length_filterMap_le _ _) ?_
  rw [List.length_zip]
  exact Nat.min_le_left _ _

@[simp] theorem returnedPackets_nil : returnedPackets [] = [] := rfl

@[simp] theorem returnedPackets_cons (r : SessionReply) (replies : List SessionReply) :
    returnedPackets (r :: replies) = r.returned ++ returnedPackets replies := rfl

namespace Encoder

/-- Performs one call. -/
def perform (enc : Encoder) : SessionOp → SessionReply × Encoder
  | .encode src ts => Prod.map .packets id (enc.encode src ts)
  | .endEncode => Prod.map .packets id enc.endEncode
  | .reconfigure r => Prod.map .verdict id (enc.reconfigure r)
  | .reconfigureWithOptions o => Prod.map .verdict id (enc.reconfigureWithOptions o)
  | .registerInputFrame src => Prod.map .handle id (enc.registerInputFrame src)

/-- Performs calls in order and collects their answers. -/
def run (enc : Encoder) : List SessionOp → List SessionReply × Encoder
  | [] => ([], enc)
  | op :: ops =>
    let rest := (enc.perform op).2.run ops
    ((enc.perform op).1 :: rest.1, rest.2)

@[simp] theorem run_nil (enc : Encoder) : enc.run [] = ([], enc) := rfl

@[simp] theorem run_cons (enc : Encoder) (op : SessionOp) (ops : List SessionOp) :
    enc.run (op :: ops) =
      ((enc.perform op).1 :: ((enc.perform op).2.run ops).1, ((enc.perform op).2.run ops).2) :=
  rfl

@[simp] theorem perform_encode (enc : Encoder) (src : FrameSource) (ts : Int) :
    enc.perform (.encode src ts) = (.packets (enc.encode src ts).1, (enc.encode src ts).2) := rfl

@[simp] theorem perform_endEncode (enc : Encoder) :
    enc.perform .endEncode = (.packets enc.endEncode.1, enc.endEncode.2) := rfl

@[simp] theorem perform_reconfigure (enc : Encoder) (r : ReconfigureParams) :
    enc.perform (.reconfigure r) = (.verdict (enc.reconfigure r).1, (enc.reconfigure r).2) := rfl

@[simp] theorem perform_reconfigureWithOptions (enc : Encoder) (o : EncoderOptions) :
    enc.perform (.reconfigureWithOptions o) =
      (.verdict (enc.reconfigureWithOptions o).1, (enc.reconfigureWithOptions o).2) := rfl

@[simp] theorem perform_registerInputFrame (enc : Encoder) (src : FrameSource) :
    enc.perform (.registerInputFrame src) =
      (.handle (enc.registerInputFrame src).1, (enc.registerInputFrame src).2) := rfl

/-- Running two lists of calls one after the other is running them joined. -/
theorem run_append (enc : Encoder) (ops ops' : List SessionOp) :
    enc.run (ops ++ ops') =
      ((enc.run ops).1 ++ ((enc.run ops).2.run ops').1, ((enc.run ops).2.run ops').2) := by
  induction ops generalizing enc with
  | nil => rfl
  | cons op ops ih => simp [ih]

/-- A run answers every call once. -/
theorem length_run (enc : Encoder) (ops : List SessionOp) : (enc.run ops).1.length = ops.length := by
  induction ops generalizing enc with
  | nil => rfl
  | cons op ops ih => simp [ih]

/-- No call changes the settings of a session. -/
theorem perform_settings (enc : Encoder) (op : SessionOp) :
    (enc.perform op).2.settings = enc.settings := by
  cases op with
  | encode src ts =>
    simp only [perform, encode, Prod.map]
    split
    · rfl
    · split <;> rfl
  | endEncode => rfl
  | reconfigure r =>
    simp only [perform, reconfigure, applyReconfigure, Prod.map]
    split
    · rfl
    · split <;> rfl
  | reconfigureWithOptions o =>
    simp only [perform, reconfigureWithOptions, applyReconfigure, Prod.map]
    split
    · rfl
    · split <;> rfl
  | registerInputFrame src =>
    simp only [perform, registerInputFrame, Prod.map]
    split
    · rfl
    · split <;> rfl

theorem run_settings (enc : Encoder) (ops : List SessionOp) :
    (enc.run ops).2.settings = enc.settings := by
  induction ops generalizing enc with
  | nil => rfl
  | cons op ops ih => rw [run_cons, ih, perform_settings]

end Encoder

/-! ### What one call does

One lemma for each path through a call, stated without the pair matches of
the definitions, so that later proofs rewrite with these and never unfold a
call. -/

/-- Taking an input slot fails exactly when the frame is refused, with the
same failure. -/
theorem InputConfig.acquire_eq_error {c : InputConfig} {src : FrameSource} {e : EncodeEngine}
    {err : CodecError} : c.acquire src e = .error err ↔ c.prepare src = .error err := by
  unfold InputConfig.acquire
  cases c.prepare src <;> simp [bind, Except.bind, pure, Except.pure]

/-- Taking an input slot succeeds with the engine's next slot, into which the
checked frame is copied. -/
theorem InputConfig.acquire_eq_ok {c : InputConfig} {src : FrameSource} {e e' : EncodeEngine}
    {slot : InputSlot} : c.acquire src e = .ok (slot, e') ↔
      ∃ copy, c.prepare src = .ok copy ∧ slot = e.nextInputSlot.1 ∧
        e' = e.nextInputSlot.2.copyIntoSlot e.nextInputSlot.1 copy := by
  unfold InputConfig.acquire
  cases c.prepare src <;> simp [bind, Except.bind, pure, Except.pure, eq_comm]

/-- Registering an address changes nothing of the engine but its list of
registrations. -/
theorem InputRegistry.register_engine (r : InputRegistry) (e : EncodeEngine) (ptr : Nat)
    (owner : FrameSource) : ∃ regs, (r.register e ptr owner).2.2 = { e with registrations := regs } := by
  unfold InputRegistry.register
  split
  · exact ⟨e.registrations, rfl⟩
  · exact ⟨_, rfl⟩

namespace Encoder

variable {enc : Encoder} {src : FrameSource} {ts : Int}

/-- Creating a session succeeds exactly when its options resolve, and then
opens the engine with the result and starts an empty ledger and registry. -/
theorem create_eq_ok {settings : EncoderSettings} {e : EncodeEngine} {mem : DeviceMemory} :
    create settings e mem = .ok enc ↔ ∃ params, resolve settings.resolvedOptions = .ok params ∧
      enc =
        { engine := e.start params, memory := mem, settings := settings, params := params,
          reconfigureParams := ReconfigureParams.ofParams params, ledger := {}, registry := {} } := by
  rw [create, EncodeEngine.resolveWith_capabilities]
  cases resolve settings.resolvedOptions <;> simp [bind, Except.bind, pure, Except.pure, eq_comm]

theorem stamp_eq (enc : Encoder) (packets : List EncodedPacket) :
    enc.stamp packets =
      ((enc.ledger.attach packets).1, { enc with ledger := (enc.ledger.attach packets).2 }) :=
  rfl

/-- Flushing stamps every packet in flight. -/
theorem endEncode_eq (enc : Encoder) :
    enc.endEncode = ((enc.ledger.attach enc.engine.flush.1).1,
      { enc with engine := enc.engine.flush.2, ledger := (enc.ledger.attach enc.engine.flush.1).2 }) :=
  rfl

/-- A refused frame is answered with its failure and changes nothing. -/
theorem encode_eq_of_acquire_error {e : CodecError}
    (h : (enc.inputConfig enc.settings.hostInput).acquire src enc.engine = .error e) :
    enc.encode src ts = (.error e, enc) := by
  simp only [encode, h]

/-- A taken frame whose fresh sequence is somehow parked already fails after
the slot and the sequence were spent. -/
theorem encode_eq_of_duplicate {slot : InputSlot} {e1 : EncodeEngine}
    (h : (enc.inputConfig enc.settings.hostInput).acquire src enc.engine = .ok (slot, e1))
    (hdup : enc.ledger.isPending enc.ledger.next = true) :
    enc.encode src ts = (.error (.duplicateSequence enc.ledger.next),
      { enc with engine := e1, ledger := { enc.ledger with next := enc.ledger.next + 1 } }) := by
  have hs : ({ enc.ledger with next := enc.ledger.next + 1 } : TimestampLedger).submit
      enc.ledger.next ts = .error (.duplicateSequence enc.ledger.next) :=
    if_pos hdup
  simp only [encode, h, TimestampLedger.nextSequence, hs]

/-- A taken frame gets the next sequence with its timestamp, is submitted, and
the packets the engine lets out are stamped. -/
theorem encode_eq_of_acquire {slot : InputSlot} {e1 : EncodeEngine}
    (h : (enc.inputConfig enc.settings.hostInput).acquire src enc.engine = .ok (slot, e1))
    (hfresh : enc.ledger.isPending enc.ledger.next = false) :
    enc.encode src ts =
      let e2 := e1.submit enc.ledger.next
      let l2 : TimestampLedger :=
        ⟨enc.ledger.next + 1, enc.ledger.pending ++ [(enc.ledger.next, ts)]⟩
      ((l2.attach e2.drain.1).1, { enc with engine := e2.drain.2, ledger := (l2.attach e2.drain.1).2 }) := by
  have hs : ({ enc.ledger with next := enc.ledger.next + 1 } : TimestampLedger).submit
      enc.ledger.next ts = .ok ⟨enc.ledger.next + 1, enc.ledger.pending ++ [(enc.ledger.next, ts)]⟩ :=
    if_neg (ne_true_of_eq_false hfresh)
  simp only [encode, h, TimestampLedger.nextSequence, hs]
  rfl

/-- The engine declines a reconfiguration and nothing changes, or accepts it
and the session takes the new parameters. -/
theorem applyReconfigure_eq (enc : Encoder) (next : InitializeParams) :
    enc.applyReconfigure next =
      if enc.engine.rejectReconfigure then (false, enc)
      else (true, { enc with
        engine := { enc.engine with
          reconfigured := enc.engine.reconfigured ++ [next], opened := some next },
        params := next, reconfigureParams := ReconfigureParams.ofParams next }) := by
  cases h : enc.engine.rejectReconfigure <;>
    simp [applyReconfigure, EncodeEngine.reconfigure, h]

/-- Reconfiguring writes the new changeable part over the parameters the
engine is open with, marked low-latency. -/
theorem reconfigure_eq_of_currentParams {r : ReconfigureParams} {live : InitializeParams}
    (h : enc.engine.currentParams = .ok live) :
    enc.reconfigure r =
      (.ok (enc.applyReconfigure { r.applyTo live with tuningInfo := .lowLatency }).1,
        (enc.applyReconfigure { r.applyTo live with tuningInfo := .lowLatency }).2) := by
  simp [reconfigure, h]

/-- Reconfiguring from options resolves them against the parameters the
engine is open with. -/
theorem reconfigureWithOptions_eq {o : EncoderOptions} :
    enc.reconfigureWithOptions o =
      match enc.engine.currentParams >>= VideoCodec.reconfigure o with
      | .error e => (.error e, enc)
      | .ok next => (.ok (enc.applyReconfigure next).1, (enc.applyReconfigure next).2) := by
  cases h : enc.engine.currentParams >>= VideoCodec.reconfigure o <;>
    simp only [reconfigureWithOptions, EncodeEngine.reconfigureWith_capabilities, h]

/-- A registration is refused and changes nothing, or registers one address
and changes only the registry and the engine's registrations. -/
theorem registerInputFrame_cases (enc : Encoder) (src : FrameSource) :
    (enc.registerInputFrame src).2 = enc ∨ ∃ ptr, (enc.registerInputFrame src).2 = { enc with
      registry := (enc.registry.register enc.engine ptr src).2.1,
      engine := (enc.registry.register enc.engine ptr src).2.2 } := by
  unfold registerInputFrame
  split
  · exact .inl rfl
  · split
    · exact .inl rfl
    · exact .inr ⟨_, rfl⟩

/-! ### Calls that leave the frames in flight alone -/

/-- Two sessions with the same frames in flight: the same ledger, and an
engine that has submitted the same sequences and holds the same ones. -/
structure SameFlight (enc enc' : Encoder) : Prop where
  ledger : enc'.ledger = enc.ledger
  submitted : enc'.engine.submitted = enc.engine.submitted
  pending : enc'.engine.pending = enc.engine.pending

theorem SameFlight.refl (enc : Encoder) : SameFlight enc enc := ⟨rfl, rfl, rfl⟩

theorem sameFlight_applyReconfigure (enc : Encoder) (next : InitializeParams) :
    SameFlight enc (enc.applyReconfigure next).2 := by
  rw [applyReconfigure_eq]
  split
  · exact .refl enc
  · exact ⟨rfl, rfl, rfl⟩

theorem sameFlight_reconfigure (enc : Encoder) (r : ReconfigureParams) :
    SameFlight enc (enc.reconfigure r).2 := by
  cases h : enc.engine.currentParams with
  | error e => simpa [reconfigure, h] using SameFlight.refl enc
  | ok live =>
    rw [reconfigure_eq_of_currentParams h]
    exact sameFlight_applyReconfigure _ _

theorem sameFlight_reconfigureWithOptions (enc : Encoder) (o : EncoderOptions) :
    SameFlight enc (enc.reconfigureWithOptions o).2 := by
  rw [reconfigureWithOptions_eq]
  split
  · exact .refl enc
  · exact sameFlight_applyReconfigure _ _

theorem sameFlight_registerInputFrame (enc : Encoder) (src : FrameSource) :
    SameFlight enc (enc.registerInputFrame src).2 := by
  rcases registerInputFrame_cases enc src with h | ⟨ptr, h⟩
  · rw [h]
    exact .refl enc
  · rw [h]
    obtain ⟨regs, he⟩ := InputRegistry.register_engine enc.registry enc.engine ptr src
    exact ⟨rfl, by rw [he], by rw [he]⟩

/-! ### Calls that leave the parameters alone -/

/-- Two sessions with the same parameters: the session's own, its changeable
part, and those the engine is open with. -/
structure SameParams (enc enc' : Encoder) : Prop where
  params : enc'.params = enc.params
  reconfigureParams : enc'.reconfigureParams = enc.reconfigureParams
  opened : enc'.engine.opened = enc.engine.opened

theorem SameParams.refl (enc : Encoder) : SameParams enc enc := ⟨rfl, rfl, rfl⟩

theorem sameParams_encode (enc : Encoder) (src : FrameSource) (ts : Int) :
    SameParams enc (enc.encode src ts).2 := by
  rcases hacq : (enc.inputConfig enc.settings.hostInput).acquire src enc.engine with
    err | ⟨slot, e1⟩
  · rw [encode_eq_of_acquire_error hacq]
    exact .refl enc
  · -- the engine after taking the slot is open with the same parameters
    obtain ⟨copy, -, -, rfl⟩ := InputConfig.acquire_eq_ok.mp hacq
    cases hfresh : enc.ledger.isPending enc.ledger.next
    · rw [encode_eq_of_acquire hacq hfresh]
      exact ⟨rfl, rfl, rfl⟩
    · rw [encode_eq_of_duplicate hacq hfresh]
      exact ⟨rfl, rfl, rfl⟩

theorem sameParams_endEncode (enc : Encoder) : SameParams enc enc.endEncode.2 := by
  rw [endEncode_eq]
  exact ⟨rfl, rfl, rfl⟩

theorem sameParams_registerInputFrame (enc : Encoder) (src : FrameSource) :
    SameParams enc (enc.registerInputFrame src).2 := by
  rcases registerInputFrame_cases enc src with h | ⟨ptr, h⟩
  · rw [h]
    exact .refl enc
  · rw [h]
    obtain ⟨regs, he⟩ := InputRegistry.register_engine enc.registry enc.engine ptr src
    exact ⟨rfl, rfl, by rw [he]⟩

end Encoder

end VideoCodec
