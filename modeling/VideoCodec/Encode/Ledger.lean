import VideoCodec.Error
/-!
# The timestamp ledger

A hardware encoder may hand packets back in another order than the frames
went in. Every submitted frame therefore gets a fresh **sequence number**,
counted from 0, and the caller's timestamp is parked under it in the ledger
until the packet for that sequence comes out; then the timestamp is taken
out again and put on the packet.

Parking a sequence that is already parked fails, and so does taking out one
that is not. `TimestampLedger.attach` stamps a whole batch of packets: it
first checks that every packet's sequence is parked and changes nothing if
one is not; then it takes the timestamps out in batch order, so a sequence
that occurs twice in one batch fails the second time, after the first was
taken out.

The counter is a 64-bit word whose increment is checked; here it counts
without a bound. A session hands out one number per frame it takes, so the
two agree on every run of fewer than `2⁶⁴ - 1` calls
(`Encoder.ledger_next_le_calls`).
-/

namespace VideoCodec

/-- A packet from the encoder, known by the sequence of its frame. -/
structure EncodedPacket where
  sequence : Nat
  data : List UInt8
  deriving DecidableEq, Repr

/-- A packet with the timestamp of its frame. -/
structure TimestampedPacket where
  timestamp : Int
  data : List UInt8
  deriving DecidableEq, Repr

/-- The next sequence number and the timestamps parked under sequences, in
the order they were parked. -/
structure TimestampLedger where
  next : Nat := 0
  pending : List (Nat × Int) := []
  deriving DecidableEq, Repr

namespace TimestampLedger

/-- Whether a sequence is parked. -/
def isPending (l : TimestampLedger) (seq : Nat) : Bool :=
  (l.pending.lookup seq).isSome

/-- Hands out the next sequence number. -/
def nextSequence (l : TimestampLedger) : Nat × TimestampLedger :=
  (l.next, { l with next := l.next + 1 })

/-- Handing out a number gives the counter and moves it on by one, leaving
the parked timestamps alone. -/
theorem nextSequence_eq (l : TimestampLedger) :
    l.nextSequence = (l.next, { l with next := l.next + 1 }) := rfl

/-- Parks a timestamp under a sequence that is not parked yet. -/
def submit (l : TimestampLedger) (seq : Nat) (ts : Int) : Except CodecError TimestampLedger :=
  if l.isPending seq then .error (.duplicateSequence seq)
  else .ok { l with pending := l.pending ++ [(seq, ts)] }

/-- Parking succeeds exactly for a sequence that is not parked, and then
appends it with its timestamp. -/
theorem submit_eq_ok_iff {l l' : TimestampLedger} {seq : Nat} {ts : Int} :
    l.submit seq ts = .ok l' ↔
      l.isPending seq = false ∧ l' = { l with pending := l.pending ++ [(seq, ts)] } := by
  unfold submit
  cases h : l.isPending seq <;> simp [eq_comm]

/-- Takes the timestamp of a parked sequence out. -/
def resolve (l : TimestampLedger) (seq : Nat) : Except CodecError (Int × TimestampLedger) :=
  match l.pending.lookup seq with
  | some ts => .ok (ts, { l with pending := l.pending.filter (·.1 != seq) })
  | none => .error (.unknownSequence seq)

/-- Taking out a parked sequence gives its timestamp and forgets the
sequence. -/
theorem resolve_of_lookup {l : TimestampLedger} {seq : Nat} {ts : Int}
    (h : l.pending.lookup seq = some ts) :
    l.resolve seq = .ok (ts, { l with pending := l.pending.filter (·.1 != seq) }) := by
  simp [resolve, h]

/-- Taking out a sequence that is not parked fails and names it. -/
theorem resolve_of_lookup_none {l : TimestampLedger} {seq : Nat}
    (h : l.pending.lookup seq = none) : l.resolve seq = .error (.unknownSequence seq) := by
  simp [resolve, h]

/-- Takes out the timestamps of a batch in order, stopping at the first
sequence that is not parked; the ledger keeps what was taken out before it. -/
def resolveAll (l : TimestampLedger) : List EncodedPacket →
    Except CodecError (List TimestampedPacket) × TimestampLedger
  | [] => (.ok [], l)
  | p :: ps =>
    match l.resolve p.sequence with
    | .error e => (.error e, l)
    | .ok (ts, l') =>
      match resolveAll l' ps with
      | (.ok out, l'') => (.ok (⟨ts, p.data⟩ :: out), l'')
      | (.error e, l'') => (.error e, l'')

/-- Stamps a batch of packets with the timestamps of their frames. -/
def attach (l : TimestampLedger) (packets : List EncodedPacket) :
    Except CodecError (List TimestampedPacket) × TimestampLedger :=
  match packets.find? (fun p => !l.isPending p.sequence) with
  | some p => (.error (.unknownSequence p.sequence), l)
  | none => l.resolveAll packets

/-- A batch with a packet whose sequence is not parked fails on the first
such packet and leaves the ledger as it was. -/
theorem attach_of_find? {l : TimestampLedger} {packets : List EncodedPacket} {p : EncodedPacket}
    (h : packets.find? (fun p => !l.isPending p.sequence) = some p) :
    l.attach packets = (.error (.unknownSequence p.sequence), l) := by
  simp [attach, h]

/-- A batch whose sequences are all parked is stamped packet by packet. -/
theorem attach_of_pending {l : TimestampLedger} {packets : List EncodedPacket}
    (h : ∀ p ∈ packets, l.isPending p.sequence = true) : l.attach packets = l.resolveAll packets := by
  have hnone : packets.find? (fun p => !l.isPending p.sequence) = none := by
    rw [List.find?_eq_none]
    intro p hp
    simp [h p hp]
  simp [attach, hnone]

/-- Number of parked sequences. -/
def pendingCount (l : TimestampLedger) : Nat := l.pending.length

end TimestampLedger

end VideoCodec
