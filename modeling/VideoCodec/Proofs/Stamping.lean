import VideoCodec.Proofs.Session
import VideoCodec.Proofs.InputCheck
/-!
# Timestamps follow their frames

The ledger and the engine each keep their own view of the frames in flight:
the ledger parks the caller's timestamp under each sequence it hands out, and
the engine queues the sequences it was given and lets them out in batches,
possibly reversed and held back by its latency. This file proves that the two
views stay in lock-step over every run of a session (`Encoder.InSync`), and
reads off what a caller sees:

* the `k`-th frame the session takes is submitted with sequence `k`, and
  neither encoding nor flushing ever fails on the ledger's bookkeeping;
* every packet handed back carries the timestamp of the frame whose sequence
  it encodes, no frame's packet comes back twice, and after a flush every
  frame taken before it has come back (`encode_stamps_follow_frames`);
* a frame is refused exactly when the input check refuses it, with the same
  failure, and then the session is left as it was; a frame taken costs one
  input slot and one copy (`encode_refuses_exactly_unprepared`).

The invariant carries over the calls that do not touch the frames in flight
through `Encoder.SameFlight`; only encoding and flushing need an argument, and
both are one lemma about stamping a batch from the front of the queue
(`TimestampLedger.attach_batch`).
-/

namespace VideoCodec

/-! ### The ledger, batch by batch -/

namespace TimestampLedger

/-- The parked sequences, in the order they were parked. -/
def keys (l : TimestampLedger) : List Nat := l.pending.map Prod.fst

@[simp] theorem keys_mk (next : Nat) (pending : List (Nat × Int)) :
    keys ⟨next, pending⟩ = pending.map Prod.fst := rfl

theorem isPending_iff_mem_keys {l : TimestampLedger} {s : Nat} :
    l.isPending s = true ↔ s ∈ l.keys := by
  rw [isPending, List.lookup_isSome_iff, keys, List.mem_map]
  constructor
  · rintro ⟨e, he, hs⟩
    exact ⟨e, he, (beq_iff_eq.mp hs).symm⟩
  · rintro ⟨e, he, rfl⟩
    exact ⟨e, he, beq_self_eq_true _⟩

/-- A parked sequence can be looked up, and what is found is parked under it. -/
theorem lookup_of_isPending {l : TimestampLedger} {s : Nat} (h : l.isPending s = true) :
    ∃ t, l.pending.lookup s = some t ∧ (s, t) ∈ l.pending := by
  obtain ⟨t, ht⟩ := Option.isSome_iff_exists.mp h
  obtain ⟨l₁, l₂, hl, -⟩ := List.lookup_eq_some_iff.mp ht
  exact ⟨t, ht, by rw [hl]; simp⟩

/-- Forgetting one sequence leaves what every other sequence looks up. -/
theorem lookup_filter_ne {es : List (Nat × Int)} {s k : Nat} (h : s ≠ k) :
    (es.filter (·.1 != k)).lookup s = es.lookup s := by
  induction es with
  | nil => rfl
  | cons e es ih =>
    obtain ⟨a, b⟩ := e
    by_cases ha : a = k
    · subst ha
      simp [List.lookup_cons, beq_false_of_ne h, ih]
    · by_cases hs : s = a
      · subst hs
        simp [ha]
      · simp [ha, List.lookup_cons, beq_false_of_ne hs, ih]

variable {l : TimestampLedger} {ps : List EncodedPacket} {stamp : Nat → Int}

/-- **Taking out a batch of distinct parked sequences** gives each packet the
timestamp its sequence looks up and forgets exactly the batch. -/
theorem resolveAll_of_nodup (hnd : (ps.map EncodedPacket.sequence).Nodup)
    (hall : ∀ p ∈ ps, l.isPending p.sequence = true) :
    l.resolveAll ps = (.ok (ps.map fun p => ⟨(l.pending.lookup p.sequence).getD 0, p.data⟩),
      { l with pending := l.pending.filter fun e => e.1 ∉ ps.map EncodedPacket.sequence }) := by
  induction ps generalizing l with
  | nil =>
    have hkeep : l.pending.filter (fun e => e.1 ∉ ([] : List EncodedPacket).map EncodedPacket.sequence)
        = l.pending := List.filter_eq_self.mpr (by simp)
    rw [resolveAll, hkeep]
    rfl
  | cons p ps ih =>
    rw [List.map_cons, List.nodup_cons] at hnd
    obtain ⟨t, ht, -⟩ := lookup_of_isPending (hall p (by simp))
    have hlook : ∀ q ∈ ps, (l.pending.filter (·.1 != p.sequence)).lookup q.sequence =
        l.pending.lookup q.sequence :=
      fun q hq => lookup_filter_ne fun h => hnd.1 (h ▸ List.mem_map_of_mem hq)
    have hrest : ∀ q ∈ ps, ({ l with pending := l.pending.filter (·.1 != p.sequence) }
        : TimestampLedger).isPending q.sequence = true := by
      intro q hq
      rw [isPending, hlook q hq]
      exact hall q (by simp [hq])
    rw [resolveAll, resolve_of_lookup ht]
    simp only
    rw [ih hnd.2 hrest]
    simp only [List.map_cons, ht, Option.getD_some, List.filter_filter, Prod.mk.injEq, true_and,
      Except.ok.injEq, List.cons.injEq]
    refine ⟨List.map_congr_left fun q hq => by rw [hlook q hq], ?_⟩
    congr 1
    apply List.filter_congr
    intro e _
    by_cases he : e.1 = p.sequence <;> simp [he]

/-- The same, with the parked timestamps read off a stamp for each sequence. -/
theorem resolveAll_eq (hstamp : ∀ e ∈ l.pending, stamp e.1 = e.2)
    (hnd : (ps.map EncodedPacket.sequence).Nodup)
    (hall : ∀ p ∈ ps, l.isPending p.sequence = true) :
    l.resolveAll ps = (.ok (ps.map fun p => ⟨stamp p.sequence, p.data⟩),
      { l with pending := l.pending.filter fun e => e.1 ∉ ps.map EncodedPacket.sequence }) := by
  rw [resolveAll_of_nodup hnd hall]
  have hstamps : ps.map (fun p => (⟨(l.pending.lookup p.sequence).getD 0, p.data⟩ : TimestampedPacket))
      = ps.map fun p => ⟨stamp p.sequence, p.data⟩ := by
    refine List.map_congr_left fun p hp => ?_
    obtain ⟨t, ht, hmem⟩ := lookup_of_isPending (hall p hp)
    rw [ht, Option.getD_some, hstamp _ hmem]
  rw [hstamps]

/-- A batch whose sequences are distinct and parked is stamped whole. -/
theorem attach_eq (hstamp : ∀ e ∈ l.pending, stamp e.1 = e.2)
    (hnd : (ps.map EncodedPacket.sequence).Nodup)
    (hall : ∀ p ∈ ps, l.isPending p.sequence = true) :
    l.attach ps = (.ok (ps.map fun p => ⟨stamp p.sequence, p.data⟩),
      { l with pending := l.pending.filter fun e => e.1 ∉ ps.map EncodedPacket.sequence }) := by
  rw [attach_of_pending hall, resolveAll_eq hstamp hnd hall]

end TimestampLedger

/-- The packet of the frame with sequence `s`, stamped: the timestamp of the
`s`-th frame taken, and the sequence's eight bytes. -/
def stampedPacket (stamps : List Int) (s : Nat) : TimestampedPacket :=
  ⟨stamps.getD s 0, leBytes8 s⟩

/-- The stamped packet of an earlier frame does not change as more frames are
taken. -/
theorem stampedPacket_append {stamps more : List Int} {s : Nat} (hs : s < stamps.length) :
    stampedPacket (stamps ++ more) s = stampedPacket stamps s := by
  simp [stampedPacket, List.getD_eq_getElem?_getD, List.getElem?_append_left hs]

/-- The engine lets a batch out in its own order: as given, or reversed. -/
theorem EncodeEngine.packets_perm (e : EncodeEngine) (seqs : List Nat) :
    ∃ out : List Nat, out.Perm seqs ∧ e.packets seqs = out.map fun s => ⟨s, leBytes8 s⟩ := by
  unfold EncodeEngine.packets
  split
  · exact ⟨seqs.reverse, List.reverse_perm seqs, by simp [List.map_reverse]⟩
  · exact ⟨seqs, .refl seqs, rfl⟩

/-- The record the engine keeps of a frame copied into a slot. -/
def RecordedCopy.ofCopy (slot : InputSlot) (c : FrameCopy) : RecordedCopy :=
  match c.source with
  | .device p => ⟨slot, some p, 0, c.srcPitch, c.chromaOffsets, c.format⟩
  | .host n => ⟨slot, none, n, c.srcPitch, c.chromaOffsets, c.format⟩

/-- Copying a frame into a slot adds its record and changes nothing else. -/
theorem EncodeEngine.copyIntoSlot_eq (e : EncodeEngine) (slot : InputSlot) (c : FrameCopy) :
    e.copyIntoSlot slot c = { e with copies := e.copies ++ [RecordedCopy.ofCopy slot c] } := by
  unfold EncodeEngine.copyIntoSlot RecordedCopy.ofCopy
  cases c.source <;> rfl

namespace TimestampLedger

variable {l : TimestampLedger} {stamps : List Int} {ready rest out : List Nat}

/-- **Stamping a batch from the front of the flight.** When the ledger parks
exactly the frames in flight, `ready ++ rest`, each with the timestamp of its
frame, the packets of `ready` in any order are stamped with those timestamps,
and the ledger goes on to park exactly `rest`. -/
theorem attach_batch (hkeys : l.keys.Perm (ready ++ rest)) (hnd : (ready ++ rest).Nodup)
    (hstamp : ∀ e ∈ l.pending, stamps[e.1]? = some e.2) (hout : out.Perm ready) :
    (l.attach (out.map fun s => ⟨s, leBytes8 s⟩)).1 = .ok (out.map (stampedPacket stamps)) ∧
      (l.attach (out.map fun s => ⟨s, leBytes8 s⟩)).2.next = l.next ∧
      (l.attach (out.map fun s => ⟨s, leBytes8 s⟩)).2.keys.Perm rest ∧
      (l.attach (out.map fun s => ⟨s, leBytes8 s⟩)).2.pending ⊆ l.pending := by
  have hseqs : (out.map fun s => (⟨s, leBytes8 s⟩ : EncodedPacket)).map EncodedPacket.sequence = out := by
    simp [Function.comp_def]
  have hstamp' : ∀ e ∈ l.pending, stamps.getD e.1 0 = e.2 := by
    intro e he
    simp [List.getD_eq_getElem?_getD, hstamp e he]
  have hall : ∀ p ∈ out.map fun s => (⟨s, leBytes8 s⟩ : EncodedPacket), l.isPending p.sequence = true := by
    intro p hp
    obtain ⟨s, hs, rfl⟩ := List.mem_map.mp hp
    exact isPending_iff_mem_keys.mpr (hkeys.mem_iff.mpr (List.mem_append_left _ (hout.mem_iff.mp hs)))
  have hndout : out.Nodup := hout.nodup_iff.mpr (List.nodup_append.mp hnd).1
  rw [@attach_eq l _ (fun s => stamps.getD s 0) hstamp' (by rw [hseqs]; exact hndout) hall, hseqs]
  refine ⟨by simp [stampedPacket, Function.comp_def], rfl, ?_, fun e he => (List.mem_filter.mp he).1⟩
  -- what stays parked is the flight less the batch, which is `rest`
  have hfilter : (l.keys.filter fun s => s ∉ out).Perm rest := by
    refine ((hkeys.filter _).trans ?_)
    rw [List.filter_append, List.filter_eq_nil_iff.mpr (fun s hs => by simpa using hout.mem_iff.mpr hs),
      List.nil_append, List.filter_eq_self.mpr]
    intro s hs
    have hdis := (List.nodup_append.mp hnd).2.2
    simpa [hout.mem_iff] using fun hr => hdis s hr s hs rfl
  simpa [keys, List.filter_map, Function.comp_def] using hfilter

end TimestampLedger

/-! ### The invariant -/

namespace Encoder

/-- **The ledger and the engine in lock-step.** `stamps` are the timestamps of
the frames taken so far, the `k`-th frame taken under sequence `k`;
`returned` are the sequences whose packets were handed back; `base` is what
the engine had been given before the session. -/
structure InSync (base : List Nat) (stamps : List Int) (returned : List Nat) (enc : Encoder) :
    Prop where
  /-- The next sequence is the number of frames taken. -/
  next_eq : enc.ledger.next = stamps.length
  /-- The ledger parks exactly the frames in flight. -/
  keys_perm : enc.ledger.keys.Perm enc.engine.pending
  /-- Each parked timestamp is that of its frame. -/
  stamp_pending : ∀ e ∈ enc.ledger.pending, stamps[e.1]? = some e.2
  /-- Every frame taken is in flight or handed back, and not both, and once. -/
  accounted : (returned ++ enc.engine.pending).Perm (List.range stamps.length)
  /-- The engine was given the frames in the order they were taken. -/
  submitted_eq : enc.engine.submitted = base ++ List.range stamps.length

namespace InSync

variable {base : List Nat} {stamps : List Int} {returned : List Nat} {enc enc' : Encoder}

theorem nodup (h : InSync base stamps returned enc) : (returned ++ enc.engine.pending).Nodup :=
  h.accounted.nodup_iff.mpr (List.nodup_range)

theorem lt_of_mem (h : InSync base stamps returned enc) {s : Nat}
    (hs : s ∈ returned ++ enc.engine.pending) : s < stamps.length :=
  List.mem_range.mp (h.accounted.subset hs)

/-- No frame is in flight twice. -/
theorem nodup_pending (h : InSync base stamps returned enc) : enc.engine.pending.Nodup :=
  (List.nodup_append.mp h.nodup).2.1

/-- Every frame in flight has a sequence below the next one. -/
theorem pending_lt_next (h : InSync base stamps returned enc) {s : Nat}
    (hs : s ∈ enc.engine.pending) : s < enc.ledger.next := by
  rw [h.next_eq]
  exact h.lt_of_mem (List.mem_append_right _ hs)

/-- The next sequence is not parked yet. -/
theorem fresh (h : InSync base stamps returned enc) :
    enc.ledger.isPending enc.ledger.next = false := by
  cases hp : enc.ledger.isPending enc.ledger.next with
  | false => rfl
  | true =>
    have hmem := h.keys_perm.subset (TimestampLedger.isPending_iff_mem_keys.mp hp)
    exact absurd (h.pending_lt_next hmem) (Nat.lt_irrefl _)

/-- A session just created over an engine with nothing in flight. -/
theorem of_create {settings : EncoderSettings} {e : EncodeEngine} {mem : DeviceMemory}
    (hcreate : Encoder.create settings e mem = .ok enc) (hpend : e.pending = []) :
    InSync e.submitted [] [] enc := by
  obtain ⟨params, -, rfl⟩ := create_eq_ok.mp hcreate
  refine ⟨rfl, ?_, ?_, ?_, ?_⟩
  · show List.Perm [] e.pending
    rw [hpend]
  · intro e he
    cases he
  · show List.Perm ([] ++ e.pending) []
    rw [hpend]
    exact .nil
  · exact (List.append_nil _).symm

theorem of_sameFlight (h : InSync base stamps returned enc) (hs : SameFlight enc enc') :
    InSync base stamps returned enc' where
  next_eq := by rw [hs.ledger]; exact h.next_eq
  keys_perm := by rw [hs.ledger, hs.pending]; exact h.keys_perm
  stamp_pending := by rw [hs.ledger]; exact h.stamp_pending
  accounted := by rw [hs.pending]; exact h.accounted
  submitted_eq := by rw [hs.submitted]; exact h.submitted_eq

/-- **Stamping a batch keeps the lock-step.** When a ledger parks the frames
`ready ++ rest` with their timestamps, and the engine lets out the packets of
`ready` in any order and keeps `rest`, the packets come back stamped and the
session is in lock-step again, with `ready` handed back. -/
theorem batch {l : TimestampLedger} {ready rest out : List Nat}
    (hnext : l.next = stamps.length) (hkeys : l.keys.Perm (ready ++ rest))
    (hstamp : ∀ e ∈ l.pending, stamps[e.1]? = some e.2)
    (hacc : (returned ++ (ready ++ rest)).Perm (List.range stamps.length)) (hout : out.Perm ready)
    (hledger : enc'.ledger = (l.attach (out.map fun s => ⟨s, leBytes8 s⟩)).2)
    (hpend : enc'.engine.pending = rest)
    (hsub : enc'.engine.submitted = base ++ List.range stamps.length) :
    (l.attach (out.map fun s => ⟨s, leBytes8 s⟩)).1 = .ok (out.map (stampedPacket stamps)) ∧
      InSync base stamps (returned ++ out) enc' := by
  have hnd : (ready ++ rest).Nodup :=
    (List.nodup_append.mp (hacc.nodup_iff.mpr (List.nodup_range))).2.1
  obtain ⟨hreply, hn, hk, hsub'⟩ := TimestampLedger.attach_batch hkeys hnd hstamp hout
  refine ⟨hreply, ⟨?_, ?_, ?_, ?_, hsub⟩⟩
  · rw [hledger, hn, hnext]
  · rw [hledger, hpend]
    exact hk
  · rw [hledger]
    exact fun e he => hstamp e (hsub' he)
  · rw [hpend]
    have hshift : List.Perm ((returned ++ out) ++ rest) (returned ++ (ready ++ rest)) := by
      rw [List.append_assoc]
      exact (hout.append_right rest).append_left returned
    exact hshift.trans hacc

end InSync

/-! ### One call at a time -/

variable {base : List Nat} {stamps : List Int} {returned : List Nat} {enc : Encoder}
  {src : FrameSource}

/-- **Encoding a frame that passes the check** takes it under the next
sequence, with its timestamp, and keeps the lock-step; the packets the engine
lets out come back stamped. -/
theorem InSync.encode_of_prepared (h : InSync base stamps returned enc) (ts : Int) {copy : FrameCopy}
    (hok : (enc.inputConfig enc.settings.hostInput).prepare src = .ok copy) :
    ∃ out, (enc.encode src ts).1 = .ok (out.map (stampedPacket (stamps ++ [ts]))) ∧
      InSync base (stamps ++ [ts]) (returned ++ out) (enc.encode src ts).2 := by
  have hacq : (enc.inputConfig enc.settings.hostInput).acquire src enc.engine = .ok
      (enc.engine.nextInputSlot.1, enc.engine.nextInputSlot.2.copyIntoSlot enc.engine.nextInputSlot.1 copy) :=
    InputConfig.acquire_eq_ok.mpr ⟨copy, hok, rfl, rfl⟩
  rw [encode_eq_of_acquire hacq h.fresh]
  dsimp only
  generalize he2 : (enc.engine.nextInputSlot.2.copyIntoSlot enc.engine.nextInputSlot.1 copy).submit
    enc.ledger.next = e2
  have hpend : e2.pending = enc.engine.pending ++ [stamps.length] := by
    rw [← he2, EncodeEngine.copyIntoSlot_eq, h.next_eq]
    rfl
  have hsub : e2.submitted = base ++ List.range (stamps ++ [ts]).length := by
    rw [← he2, EncodeEngine.copyIntoSlot_eq, h.next_eq]
    simp [EncodeEngine.submit, EncodeEngine.nextInputSlot, h.submitted_eq, List.range_succ]
  obtain ⟨out, hout, hpk⟩ := e2.packets_perm (e2.pending.take (e2.pending.length - e2.latency))
  have hdrain : e2.drain.1 = out.map fun s => ⟨s, leBytes8 s⟩ := by
    rw [EncodeEngine.drain_eq]
    exact hpk
  rw [hdrain]
  have hkeys : (TimestampLedger.keys ⟨enc.ledger.next + 1, enc.ledger.pending ++ [(enc.ledger.next, ts)]⟩).Perm
      (e2.pending.take (e2.pending.length - e2.latency) ++ e2.pending.drop (e2.pending.length - e2.latency)) := by
    rw [List.take_append_drop, hpend, TimestampLedger.keys_mk, List.map_append, h.next_eq]
    exact h.keys_perm.append_right _
  have hstamp : ∀ e ∈ enc.ledger.pending ++ [(enc.ledger.next, ts)], (stamps ++ [ts])[e.1]? = some e.2 := by
    intro e he
    rcases List.mem_append.mp he with he | he
    · have hlt : e.1 < stamps.length :=
        h.lt_of_mem (List.mem_append_right _ (h.keys_perm.subset (List.mem_map_of_mem he)))
      rw [List.getElem?_append_left hlt]
      exact h.stamp_pending e he
    · rw [List.mem_singleton.mp he, h.next_eq]
      simp
  have hacc : (returned ++ (e2.pending.take (e2.pending.length - e2.latency) ++
      e2.pending.drop (e2.pending.length - e2.latency))).Perm (List.range (stamps ++ [ts]).length) := by
    rw [List.take_append_drop, hpend, List.length_append, List.length_singleton, List.range_succ,
      ← List.append_assoc]
    exact h.accounted.append_right _
  exact ⟨out, InSync.batch (by simp [h.next_eq]) hkeys hstamp hacc hout rfl rfl hsub⟩

/-- **Flushing** hands back every frame in flight, stamped, and keeps the
lock-step with nothing left in flight. -/
theorem InSync.endEncode (h : InSync base stamps returned enc) :
    ∃ out, enc.endEncode.1 = .ok (out.map (stampedPacket stamps)) ∧
      InSync base stamps (returned ++ out) enc.endEncode.2 ∧ enc.endEncode.2.engine.pending = [] := by
  obtain ⟨out, hout, hpk⟩ := enc.engine.packets_perm enc.engine.pending
  have hflush : enc.engine.flush.1 = out.map fun s => ⟨s, leBytes8 s⟩ := by
    rw [EncodeEngine.flush_eq]
    exact hpk
  rw [endEncode_eq, hflush]
  have hkeys : enc.ledger.keys.Perm (enc.engine.pending ++ []) := by
    rw [List.append_nil]
    exact h.keys_perm
  have hacc : (returned ++ (enc.engine.pending ++ [])).Perm (List.range stamps.length) := by
    rw [List.append_nil]
    exact h.accounted
  refine ⟨out, ?_⟩
  rw [← and_assoc]
  exact ⟨InSync.batch h.next_eq hkeys h.stamp_pending hacc hout rfl rfl h.submitted_eq, rfl⟩

/-- **One call keeps the lock-step.** A call takes at most one frame, hands
back its packets stamped, fails to encode or flush only for a cause outside
the bookkeeping, and after a flush nothing is in flight. -/
theorem InSync.perform (h : InSync base stamps returned enc) (op : SessionOp) :
    ∃ out, InSync base (stamps ++ (op.takenStamp (enc.perform op).1).toList) (returned ++ out)
        (enc.perform op).2 ∧
      (enc.perform op).1.returned =
        out.map (stampedPacket (stamps ++ (op.takenStamp (enc.perform op).1).toList)) ∧
      (∀ err, (enc.perform op).1 = .packets (.error err) → err.External) ∧
      (op = .endEncode → (enc.perform op).2.engine.pending = []) := by
  cases op with
  | encode src ts =>
    cases hp : (enc.inputConfig enc.settings.hostInput).prepare src with
    | error err =>
      have henc : enc.encode src ts = (.error err, enc) :=
        encode_eq_of_acquire_error (InputConfig.acquire_eq_error.mpr hp)
      simp only [perform_encode, henc, SessionOp.takenStamp, Option.toList, List.append_nil]
      refine ⟨[], by simpa using h, rfl, ?_, nofun⟩
      rintro err' ⟨⟩
      exact InputConfig.prepare_failsOnly_external _ src err hp
    | ok copy =>
      obtain ⟨out, hreply, hsync⟩ := h.encode_of_prepared ts hp
      simp only [perform_encode, hreply, SessionOp.takenStamp, Option.toList]
      exact ⟨out, hsync, rfl, nofun, nofun⟩
  | endEncode =>
    obtain ⟨out, hreply, hsync, hpend⟩ := h.endEncode
    simp only [perform_endEncode, hreply, SessionOp.takenStamp, Option.toList, List.append_nil]
    exact ⟨out, hsync, rfl, nofun, fun _ => hpend⟩
  | reconfigure r =>
    simp only [perform_reconfigure, SessionOp.takenStamp, Option.toList, List.append_nil]
    exact ⟨[], by simpa using h.of_sameFlight (sameFlight_reconfigure enc r), rfl, nofun, nofun⟩
  | reconfigureWithOptions o =>
    simp only [perform_reconfigureWithOptions, SessionOp.takenStamp, Option.toList, List.append_nil]
    exact ⟨[], by simpa using h.of_sameFlight (sameFlight_reconfigureWithOptions enc o), rfl,
      nofun, nofun⟩
  | registerInputFrame src =>
    simp only [perform_registerInputFrame, SessionOp.takenStamp, Option.toList, List.append_nil]
    exact ⟨[], by simpa using h.of_sameFlight (sameFlight_registerInputFrame enc src), rfl,
      nofun, nofun⟩

/-- **A run keeps the lock-step.** Over any calls the frames taken extend
`stamps`, the packets handed back are those of distinct frames, each stamped
with its own frame's timestamp, no encode or flush fails on the bookkeeping,
and a flush hands back every frame taken before it. -/
theorem InSync.run (h : InSync base stamps returned enc) (ops : List SessionOp) :
    ∃ out, InSync base (stamps ++ takenStamps ops (enc.run ops).1) (returned ++ out)
        (enc.run ops).2 ∧
      returnedPackets (enc.run ops).1 =
        out.map (stampedPacket (stamps ++ takenStamps ops (enc.run ops).1)) ∧
      (∀ r ∈ (enc.run ops).1, ∀ err, r = .packets (.error err) → err.External) ∧
      (∀ pre post, ops = pre ++ .endEncode :: post →
        ∀ k < stamps.length + (takenStamps pre (enc.run pre).1).length, k ∈ returned ++ out) := by
  induction ops generalizing stamps returned enc with
  | nil =>
    refine ⟨[], by simpa using h, rfl, by simp, ?_⟩
    intro pre post hops
    exact absurd hops.symm (by simp)
  | cons op ops ih =>
    obtain ⟨out₁, h₁, hr₁, hx₁, hend₁⟩ := h.perform op
    obtain ⟨out₂, h₂, hr₂, hx₂, hend₂⟩ := ih h₁
    refine ⟨out₁ ++ out₂, by simpa only [run_cons, takenStamps_cons, List.append_assoc] using h₂,
      ?_, ?_, ?_⟩
    · -- the packets of the first call keep their stamps as more frames are taken
      rw [run_cons, returnedPackets_cons, hr₁, hr₂, takenStamps_cons, List.map_append,
        ← List.append_assoc]
      congr 1
      refine List.map_congr_left fun s hs => (stampedPacket_append ?_).symm
      exact h₁.lt_of_mem (List.mem_append_left _ (List.mem_append_right _ hs))
    · intro r hr err hre
      rw [run_cons, List.mem_cons] at hr
      rcases hr with rfl | hr
      · exact hx₁ err hre
      · exact hx₂ r hr err hre
    · intro pre post hops k hk
      cases pre with
      | nil =>
        -- the flush is this very call: what it leaves in flight is nothing
        obtain ⟨rfl, -⟩ := List.cons.inj hops
        have hlt : k < (stamps ++ (SessionOp.endEncode.takenStamp
            (enc.perform .endEncode).1).toList).length := by
          simp only [takenStamps_nil_left, List.length_nil, Nat.add_zero] at hk
          rw [List.length_append]
          omega
        have hin := h₁.accounted.mem_iff.mpr (List.mem_range.mpr hlt)
        rw [hend₁ rfl, List.append_nil] at hin
        rw [← List.append_assoc]
        exact List.mem_append_left _ hin
      | cons op' pre =>
        obtain ⟨rfl, hrest⟩ := List.cons.inj hops
        have hin := hend₂ pre post hrest k (by
          simp only [run_cons, takenStamps_cons, List.length_append] at hk ⊢
          omega)
        rwa [← List.append_assoc]

/-! ### What a caller sees -/

variable {settings : EncoderSettings} {e : EncodeEngine} {mem : DeviceMemory}

/-- **Timestamps follow their frames.** Over every run of calls on a session
created over an engine with nothing in flight, the ledger and the engine stay
in lock-step (`InSync`: the parked sequences are exactly the distinct frames in
flight, all below the next sequence, each parked with its own frame's
timestamp, and the engine was given the `k`-th frame taken under sequence `k`);
every packet handed back is that of a distinct frame taken, stamped with that
frame's timestamp; no encode or flush fails with a duplicate or an unknown
sequence; and a flush hands back every frame taken before it. -/
theorem encode_stamps_follow_frames (hcreate : Encoder.create settings e mem = .ok enc)
    (hidle : e.pending = []) (ops : List SessionOp) :
    ∃ seqs : List Nat,
      InSync e.submitted (takenStamps ops (enc.run ops).1) seqs (enc.run ops).2 ∧
      (enc.run ops).2.engine.pending.Nodup ∧
      (∀ s ∈ (enc.run ops).2.engine.pending, s < (enc.run ops).2.ledger.next) ∧
      returnedPackets (enc.run ops).1 = seqs.map (stampedPacket (takenStamps ops (enc.run ops).1)) ∧
      seqs.Nodup ∧ (∀ s ∈ seqs, s < (takenStamps ops (enc.run ops).1).length) ∧
      (∀ s, SessionReply.packets (.error (.duplicateSequence s)) ∉ (enc.run ops).1 ∧
        SessionReply.packets (.error (.unknownSequence s)) ∉ (enc.run ops).1) ∧
      (∀ pre post, ops = pre ++ .endEncode :: post →
        ∀ k < (takenStamps pre (enc.run pre).1).length, k ∈ seqs) := by
  obtain ⟨seqs, hsync, hret, hext, hend⟩ := (InSync.of_create hcreate hidle).run ops
  simp only [List.nil_append, List.length_nil, Nat.zero_add] at hsync hret hend
  refine ⟨seqs, hsync, hsync.nodup_pending, fun s => hsync.pending_lt_next, hret,
    (List.nodup_append.mp hsync.nodup).1,
    fun s hs => hsync.lt_of_mem (List.mem_append_left _ hs), fun s => ⟨?_, ?_⟩, hend⟩
  -- both sequence failures are internal ones, and no call fails internally
  · exact fun hmem => hext _ hmem _ rfl rfl
  · exact fun hmem => hext _ hmem _ rfl rfl

/-- An NV12 session at 64x32 over an idle engine: whatever is called on it,
timestamps follow their frames. -/
theorem stamps_follow_frames_at_64x32 :
    ∃ enc, Encoder.create { width := 64, height := 32 } {} ⟨0⟩ = .ok enc ∧
      ({} : EncodeEngine).pending = [] ∧ ∀ ops : List SessionOp, ∃ seqs : List Nat,
        InSync [] (takenStamps ops (enc.run ops).1) seqs (enc.run ops).2 ∧
        (enc.run ops).2.engine.pending.Nodup ∧
        (∀ s ∈ (enc.run ops).2.engine.pending, s < (enc.run ops).2.ledger.next) ∧
        returnedPackets (enc.run ops).1 = seqs.map (stampedPacket (takenStamps ops (enc.run ops).1)) ∧
        seqs.Nodup ∧ (∀ s ∈ seqs, s < (takenStamps ops (enc.run ops).1).length) ∧
        (∀ s, SessionReply.packets (.error (.duplicateSequence s)) ∉ (enc.run ops).1 ∧
          SessionReply.packets (.error (.unknownSequence s)) ∉ (enc.run ops).1) ∧
        (∀ pre post, ops = pre ++ .endEncode :: post →
          ∀ k < (takenStamps pre (enc.run pre).1).length, k ∈ seqs) := by
  obtain ⟨enc, hcreate⟩ : ∃ enc, Encoder.create { width := 64, height := 32 } {} ⟨0⟩ = .ok enc :=
    ⟨_, rfl⟩
  exact ⟨enc, hcreate, rfl, encode_stamps_follow_frames hcreate rfl⟩

/-- **The sequence counter stays within the calls.** Over every run of calls
on a session created over an engine with nothing in flight, the next sequence
is the number of frames taken, at most one per call. The counter is a 64-bit
word whose increment is checked, so no run of fewer than `2⁶⁴ - 1` calls
brings it to the value past which handing out one more number would stop the
program. -/
theorem ledger_next_le_calls (hcreate : Encoder.create settings e mem = .ok enc)
    (hidle : e.pending = []) (ops : List SessionOp) :
    (enc.run ops).2.ledger.next = (takenStamps ops (enc.run ops).1).length ∧
      (enc.run ops).2.ledger.next ≤ ops.length := by
  obtain ⟨seqs, hsync, -⟩ := (InSync.of_create hcreate hidle).run ops
  rw [hsync.next_eq, List.nil_append]
  exact ⟨rfl, takenStamps_length_le ops _⟩

/-- **A refused frame costs nothing.** On a session reached by any run of
calls, encoding a frame fails exactly when the input check refuses it, with
the check's failure, and then the session is left as it was; a frame that is
taken costs one input slot and one copy, the checked frame's, recorded into
that slot. -/
theorem encode_refuses_exactly_unprepared (hcreate : Encoder.create settings e mem = .ok enc)
    (hidle : e.pending = []) (ops : List SessionOp) (src : FrameSource) (ts : Int) :
    let live := (enc.run ops).2
    let c := live.inputConfig live.settings.hostInput
    (∀ err, (live.encode src ts).1 = .error err ↔ c.prepare src = .error err) ∧
      (∀ err, c.prepare src = .error err → (live.encode src ts).2 = live) ∧
      (∀ ps, (live.encode src ts).1 = .ok ps → ∃ copy, c.prepare src = .ok copy ∧
        (live.encode src ts).2.engine.slotsRequested = live.engine.slotsRequested + 1 ∧
        (live.encode src ts).2.engine.copies =
          live.engine.copies ++ [RecordedCopy.ofCopy live.engine.nextInputSlot.1 copy]) := by
  intro live c
  obtain ⟨seqs, hsync, -⟩ := (InSync.of_create hcreate hidle).run ops
  cases hp : c.prepare src with
  | error err =>
    have henc : live.encode src ts = (.error err, live) :=
      encode_eq_of_acquire_error (InputConfig.acquire_eq_error.mpr hp)
    refine ⟨fun err' => by simp only [henc, Except.error.injEq], fun _ _ => by rw [henc], fun ps hps => ?_⟩
    rw [henc] at hps
    cases hps
  | ok copy =>
    have hacq : c.acquire src live.engine = .ok (live.engine.nextInputSlot.1,
        live.engine.nextInputSlot.2.copyIntoSlot live.engine.nextInputSlot.1 copy) :=
      InputConfig.acquire_eq_ok.mpr ⟨copy, hp, rfl, rfl⟩
    obtain ⟨out, hreply, -⟩ := hsync.encode_of_prepared ts hp
    refine ⟨fun err => by rw [hreply]; exact ⟨nofun, nofun⟩, nofun, fun _ _ => ⟨copy, rfl, ?_, ?_⟩⟩
    all_goals
      rw [encode_eq_of_acquire hacq hsync.fresh]
      simp only [EncodeEngine.copyIntoSlot_eq]
      rfl

/-- An NV12 session at 64x32 over an idle engine: a frame is refused exactly
as the check refuses it, and a frame taken costs one slot and one copy. -/
theorem refuses_exactly_unprepared_at_64x32 :
    ∃ enc, Encoder.create { width := 64, height := 32 } {} ⟨0⟩ = .ok enc ∧
      ({} : EncodeEngine).pending = [] ∧ ∀ (ops : List SessionOp) (src : FrameSource) (ts : Int),
        let live := (enc.run ops).2
        let c := live.inputConfig live.settings.hostInput
        (∀ err, (live.encode src ts).1 = .error err ↔ c.prepare src = .error err) ∧
          (∀ err, c.prepare src = .error err → (live.encode src ts).2 = live) ∧
          (∀ ps, (live.encode src ts).1 = .ok ps → ∃ copy, c.prepare src = .ok copy ∧
            (live.encode src ts).2.engine.slotsRequested = live.engine.slotsRequested + 1 ∧
            (live.encode src ts).2.engine.copies =
              live.engine.copies ++ [RecordedCopy.ofCopy live.engine.nextInputSlot.1 copy]) := by
  obtain ⟨enc, hcreate⟩ : ∃ enc, Encoder.create { width := 64, height := 32 } {} ⟨0⟩ = .ok enc :=
    ⟨_, rfl⟩
  exact ⟨enc, hcreate, rfl, encode_refuses_exactly_unprepared hcreate rfl⟩

end Encoder

end VideoCodec
