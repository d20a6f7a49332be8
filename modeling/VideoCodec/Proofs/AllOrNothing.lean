import Mathlib
import VideoCodec.Proofs.Stamping
/-!
# Stamping a batch all or nothing

`TimestampLedger.attach` stamps a batch of packets in two passes. It first
checks that every packet's sequence is parked, and changes nothing if one is
not; then it takes the timestamps out packet by packet (`resolveAll`),
stopping at the first sequence that is no longer parked. The two passes agree
on a batch with a sequence that is not parked at all, and on a batch whose
sequences are distinct. They disagree on a batch that repeats a parked
sequence: it passes the check, its first occurrence takes the entry out, and
its second then fails, on a ledger that is no longer the one it started from.

The main statement says that this is the only way a batch ends half done
(`attach_all_or_nothing_iff`): stamping is all or nothing
(`TimestampLedger.AllOrNothing`) exactly when a sequence of the batch is not
parked or no sequence repeats in it.

The packet-by-packet pass is read through three facts: it only removes
entries (`resolveAll_sublist`), the entry of the first packet is gone
afterwards (`resolveAll_forgets_first`), and it fails as soon as a packet's
sequence is not parked when its turn comes (`resolveAll_fails_of_not_pending`),
which a repeat brings about (`resolveAll_fails_of_repeat`).
-/

namespace VideoCodec

namespace TimestampLedger

variable {l : TimestampLedger} {ps : List EncodedPacket}

/-! ### The packet-by-packet pass, one packet at a time -/

/-- A packet whose sequence is not parked stops the pass at once. -/
theorem resolveAll_cons_of_lookup_none {p : EncodedPacket} (h : l.pending.lookup p.sequence = none) :
    l.resolveAll (p :: ps) = (.error (.unknownSequence p.sequence), l) := by
  rw [resolveAll, resolve_of_lookup_none h]

/-- A packet whose sequence is parked is stamped, and the rest of the batch
goes on from the ledger without its sequence. -/
theorem resolveAll_cons_of_lookup {p : EncodedPacket} {t : Int}
    (h : l.pending.lookup p.sequence = some t) :
    l.resolveAll (p :: ps) =
      ((({ l with pending := l.pending.filter (·.1 != p.sequence) } : TimestampLedger).resolveAll
          ps).1.map (⟨t, p.data⟩ :: ·),
        (({ l with pending := l.pending.filter (·.1 != p.sequence) } : TimestampLedger).resolveAll
          ps).2) := by
  rw [resolveAll, resolve_of_lookup h]
  dsimp only
  split <;> rename_i heq <;> rw [heq] <;> rfl

/-- A sequence taken out is no longer parked. -/
theorem isPending_filter_self (l : TimestampLedger) (s : Nat) :
    ({ l with pending := l.pending.filter (·.1 != s) } : TimestampLedger).isPending s = false := by
  rw [isPending, Option.isSome_eq_false_iff, Option.isNone_iff_eq_none, List.lookup_eq_none_iff]
  intro e he
  rw [bne_comm]
  exact (List.mem_filter.mp he).2

/-- A sequence that is not parked stays so when entries are removed. -/
theorem isPending_eq_false_of_sublist {l l' : TimestampLedger} {s : Nat}
    (hsub : l'.pending.Sublist l.pending) (h : l.isPending s = false) : l'.isPending s = false := by
  rw [Bool.eq_false_iff] at h ⊢
  intro h'
  exact h (isPending_iff_mem_keys.mpr ((hsub.map Prod.fst).subset (isPending_iff_mem_keys.mp h')))

/-- **The pass only removes entries.** -/
theorem resolveAll_sublist (l : TimestampLedger) (ps : List EncodedPacket) :
    (l.resolveAll ps).2.pending.Sublist l.pending := by
  induction ps generalizing l with
  | nil => exact .refl _
  | cons p ps ih =>
    cases ht : l.pending.lookup p.sequence with
    | none =>
      rw [resolveAll_cons_of_lookup_none ht]
    | some t =>
      rw [resolveAll_cons_of_lookup ht]
      exact (ih _).trans List.filter_sublist

/-- The entry of the first packet is gone after the pass, whatever the rest
of the batch does. -/
theorem resolveAll_forgets_first {p : EncodedPacket} {t : Int}
    (h : l.pending.lookup p.sequence = some t) :
    (l.resolveAll (p :: ps)).2.isPending p.sequence = false := by
  rw [resolveAll_cons_of_lookup h]
  exact isPending_eq_false_of_sublist (resolveAll_sublist _ ps) (isPending_filter_self l p.sequence)

/-- **A packet whose sequence is not parked makes the pass fail**, at it or
at a packet before it. -/
theorem resolveAll_fails_of_not_pending (h : ∃ q ∈ ps, l.isPending q.sequence = false) :
    ∃ s, (l.resolveAll ps).1 = .error (.unknownSequence s) := by
  induction ps generalizing l with
  | nil => simp at h
  | cons p ps ih =>
    obtain ⟨q, hq, hqp⟩ := h
    cases ht : l.pending.lookup p.sequence with
    | none => exact ⟨p.sequence, by rw [resolveAll_cons_of_lookup_none ht]⟩
    | some t =>
      -- `q` is not `p`, which is parked, so it comes later and is still not parked then
      have hq' : q ∈ ps := by
        rcases List.mem_cons.mp hq with rfl | hq'
        · simp [isPending, ht] at hqp
        · exact hq'
      have hq'' : ({ l with pending := l.pending.filter (·.1 != p.sequence) } :
          TimestampLedger).isPending q.sequence = false :=
        isPending_eq_false_of_sublist List.filter_sublist hqp
      obtain ⟨s, hs⟩ := ih ⟨q, hq', hq''⟩
      exact ⟨s, by rw [resolveAll_cons_of_lookup ht, hs]; rfl⟩

/-- **A parked sequence that repeats makes the pass fail**: its first
occurrence takes it out, so at its second it is no longer parked. -/
theorem resolveAll_fails_of_repeat (hall : ∀ p ∈ ps, l.isPending p.sequence = true)
    (hrep : ¬(ps.map EncodedPacket.sequence).Nodup) :
    ∃ s, (l.resolveAll ps).1 = .error (.unknownSequence s) := by
  induction ps generalizing l with
  | nil => simp at hrep
  | cons p ps ih =>
    obtain ⟨t, ht, -⟩ := lookup_of_isPending (hall p (by simp))
    suffices hrest : ∃ s, (({ l with pending := l.pending.filter (·.1 != p.sequence) } :
        TimestampLedger).resolveAll ps).1 = .error (.unknownSequence s) by
      obtain ⟨s, hs⟩ := hrest
      exact ⟨s, by rw [resolveAll_cons_of_lookup ht, hs]; rfl⟩
    by_cases hall' : ∀ q ∈ ps, ({ l with pending := l.pending.filter (·.1 != p.sequence) } :
        TimestampLedger).isPending q.sequence = true
    · -- every later packet is still parked, so `p` does not come back and the repeat is later
      have hp : p.sequence ∉ ps.map EncodedPacket.sequence := by
        intro hmem
        obtain ⟨q, hq, hqs⟩ := List.mem_map.mp hmem
        have := hall' q hq
        rw [hqs, isPending_filter_self] at this
        cases this
      rw [List.map_cons, List.nodup_cons, not_and] at hrep
      exact ih hall' (hrep hp)
    · push Not at hall'
      obtain ⟨q, hq, hqp⟩ := hall'
      exact resolveAll_fails_of_not_pending ⟨q, hq, by simpa using hqp⟩

/-! ### All or nothing -/

/-- **A batch stamped all or nothing.** Either every packet gets the
timestamp parked under its sequence, with its data, and the ledger forgets
exactly the batch's sequences; or stamping fails on a sequence that is not
parked and the ledger keeps every entry it had. -/
def AllOrNothing (l : TimestampLedger) (ps : List EncodedPacket) : Prop :=
  (∃ out, (l.attach ps).1 = .ok out ∧
      List.Forall₂ (fun p t => l.pending.lookup p.sequence = some t.timestamp ∧ t.data = p.data)
        ps out ∧
      (l.attach ps).2.pending = l.pending.filter fun e => e.1 ∉ ps.map EncodedPacket.sequence) ∨
    ∃ s, (l.attach ps).1 = .error (.unknownSequence s) ∧ (l.attach ps).2.pending = l.pending

/-- A batch with a sequence that is not parked fails at the check and
changes nothing. -/
theorem attach_of_not_pending (h : ∃ p ∈ ps, l.isPending p.sequence = false) :
    ∃ s, l.attach ps = (.error (.unknownSequence s), l) := by
  obtain ⟨p, hp⟩ := Option.isSome_iff_exists.mp
    (List.find?_isSome.mpr (by simpa using h : ∃ p ∈ ps, (!l.isPending p.sequence) = true))
  exact ⟨p.sequence, attach_of_find? hp⟩

/-- A batch of distinct parked sequences is stamped whole. -/
theorem attach_of_nodup (hnd : (ps.map EncodedPacket.sequence).Nodup)
    (hall : ∀ p ∈ ps, l.isPending p.sequence = true) :
    l.attach ps = (.ok (ps.map fun p => ⟨(l.pending.lookup p.sequence).getD 0, p.data⟩),
      { l with pending := l.pending.filter fun e => e.1 ∉ ps.map EncodedPacket.sequence }) := by
  rw [attach_of_pending hall, resolveAll_of_nodup hnd hall]

/-- **Stamping is all or nothing exactly when the two passes agree**: when a
sequence of the batch is not parked, or no sequence repeats in it. A batch
that repeats a parked sequence and holds no unparked one fails after taking
out at least its first packet's entry. -/
theorem attach_all_or_nothing_iff (l : TimestampLedger) (ps : List EncodedPacket) :
    l.AllOrNothing ps ↔
      (∃ p ∈ ps, l.isPending p.sequence = false) ∨ (ps.map EncodedPacket.sequence).Nodup := by
  constructor
  · intro h
    by_contra hcon
    push Not at hcon
    obtain ⟨hall, hrep⟩ := hcon
    have hall' : ∀ p ∈ ps, l.isPending p.sequence = true := by simpa using hall
    rw [AllOrNothing, attach_of_pending hall'] at h
    obtain ⟨s, hs⟩ := resolveAll_fails_of_repeat hall' hrep
    rcases h with ⟨out, hok, -⟩ | ⟨-, -, hsame⟩
    · rw [hs] at hok
      cases hok
    · -- the entry of the first packet is gone, so the ledger is not as it was
      obtain ⟨p, ps', rfl⟩ := List.exists_cons_of_ne_nil (show ps ≠ [] by rintro rfl; simp at hrep)
      obtain ⟨t, ht, -⟩ := lookup_of_isPending (hall' p (by simp))
      have hgone : (l.resolveAll (p :: ps')).2.isPending p.sequence = false :=
        resolveAll_forgets_first ht
      rw [isPending, hsame, ← isPending, hall' p (by simp)] at hgone
      cases hgone
  · intro h
    by_cases hall : ∀ p ∈ ps, l.isPending p.sequence = true
    · -- every sequence is parked, so they are distinct and the batch is stamped whole
      have hnd : (ps.map EncodedPacket.sequence).Nodup := by
        rcases h with ⟨p, hp, hpend⟩ | hnd
        · rw [hall p hp] at hpend
          cases hpend
        · exact hnd
      refine .inl ⟨_, by rw [attach_of_nodup hnd hall], ?_, by rw [attach_of_nodup hnd hall]⟩
      refine List.forall₂_map_right_iff.mpr (List.forall₂_same.mpr fun p hp => ⟨?_, rfl⟩)
      obtain ⟨t, ht, -⟩ := lookup_of_isPending (hall p hp)
      simp [ht]
    · push Not at hall
      obtain ⟨s, hs⟩ := attach_of_not_pending (by simpa using hall)
      exact .inr ⟨s, by rw [hs], by rw [hs]⟩

/-- A batch that repeats its one parked sequence fails on the repeat, with
the entry already taken out. -/
theorem attach_repeated_sequence_half_done :
    (⟨1, [(0, 5)]⟩ : TimestampLedger).attach [⟨0, []⟩, ⟨0, []⟩] =
        (.error (.unknownSequence 0), ⟨1, []⟩) ∧
      ¬ (⟨1, [(0, 5)]⟩ : TimestampLedger).AllOrNothing [⟨0, []⟩, ⟨0, []⟩] := by
  have hrun : (⟨1, [(0, 5)]⟩ : TimestampLedger).attach [⟨0, []⟩, ⟨0, []⟩] =
      (.error (.unknownSequence 0), ⟨1, []⟩) := by decide
  refine ⟨hrun, ?_⟩
  rw [AllOrNothing, hrun]
  rintro (⟨out, hok, -⟩ | ⟨s, -, hsame⟩)
  · cases hok
  · cases hsame

end TimestampLedger

end VideoCodec
