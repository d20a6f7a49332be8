import Mathlib
import VideoCodec.Decode.Session
import VideoCodec.Proofs.Handoff
/-!
# Locked frames and the surfaces behind them

A caller can take a decoded frame out of the decoder's rotation
(`Decoder.lockedFrame`) and give it back later (`Decoder.unlockFrame`). The
engine locks the next waiting surface first, and only then is the surface cut
into planes. The caller gets a descriptor back only when the cut succeeds, and
gives a surface back only through a descriptor: the engine unlocks the
address of the descriptor's first plane.

A cut fails for a surface format without a layout, a zero size, or a plane
past the end of the address space. The surface then stays locked, and no
descriptor names it: it is *stranded*. This file proves what the engine holds
locked over every sequence of such calls (`locked_surfaces_held_or_stranded`):

* the locked addresses are, one for one, the addresses of the descriptors
  handed out and not handed back, and the surfaces stranded by failed locks
  (`LocksAccounted`, kept by every call: `LocksAccounted.lockStep`);
* a lock fails exactly when its surface cannot be cut, and it then locks the
  surface all the same;
* giving a frame back succeeds exactly for an address held or stranded.

So a failed lock does not leave the locked surfaces as they were: a 64 by 32
surface of an unknown format stays locked with nothing to unlock it by
(`failed_lock_strands_surface`).
-/

namespace VideoCodec

/-! ### A frame's address -/

/-- A frame cut at `ptr` starts there: its first plane sits at offset zero. -/
theorem assemble_data {ptr w h : Nat} {f : PixelFormat} {ts : Int} {s : Option Nat} {d : Int}
    {fd : FrameDescriptor} (hasm : assemble ptr f w h ts s d = .ok fd) : fd.data = ptr := by
  obtain ⟨layouts, hlay, hoff, -, rfl⟩ := assemble_planes ptr f w h ts s d fd hasm
  obtain ⟨l0, ls, rfl, -⟩ := layouts_cons hoff hlay
  have hcount : f.planeCount ≠ 0 := by
    have := hlay.length_eq
    simp at this
    omega
  obtain ⟨n, hn⟩ := Nat.exists_eq_succ_of_ne_zero hcount
  simp [FrameDescriptor.data, FrameDescriptor.laidOut, hn, List.range_succ_eq_map, runningSums,
    PlaneView.ofLayout]

/-! ### One lock and one unlock -/

namespace Decoder

variable {d : Decoder}

@[simp] theorem syncOutput_engine_lockable (d : Decoder) :
    d.syncOutput.engine.lockable = d.engine.lockable := by
  unfold syncOutput
  split <;> rfl

@[simp] theorem syncOutput_engine_locked (d : Decoder) :
    d.syncOutput.engine.locked = d.engine.locked := by
  unfold syncOutput
  split <;> rfl

/-- Ordering the output leaves how a surface is cut alone. -/
@[simp] theorem describe_syncOutput (d : Decoder) (s : DecodedSurface) :
    d.syncOutput.describe s = d.describe s := by
  unfold syncOutput
  split <;> rfl

/-- **What a lock does**: with no surface waiting, nothing; otherwise it locks
the next surface and answers with its cut, whether or not the cut succeeds. -/
theorem lockedFrame_cases (d : Decoder) :
    (d.engine.lockable = [] ∧ d.lockedFrame = (.ok none, d)) ∨
      ∃ s rest, d.engine.lockable = s :: rest ∧ d.lockedFrame.1 = some <$> d.describe s ∧
        d.lockedFrame.2.engine.lockable = rest ∧
        d.lockedFrame.2.engine.locked = d.engine.locked ++ [s.ptr] := by
  unfold lockedFrame DecodeEngine.lockFrame
  cases h : d.engine.lockable with
  | nil => exact .inl ⟨rfl, rfl⟩
  | cons s rest =>
    refine .inr ⟨s, rest, rfl, ?_, ?_, ?_⟩
    · dsimp only
      rw [describe_syncOutput]
      rfl
    · simp
    · simp

/-- **What an unlock does**: a locked address is unlocked, and any other is
refused with the engine left alone. -/
theorem unlockFrame_eq (d : Decoder) (f : FrameDescriptor) :
    d.unlockFrame f = if f.data ∈ d.engine.locked then
        (.ok (), { d with engine := { d.engine with
          locked := d.engine.locked.filter (· != f.data),
          unlocked := d.engine.unlocked ++ [f.data] } })
      else (.error (.provider "unlock_frame" 1), d) := by
  unfold unlockFrame DecodeEngine.unlockFrame
  by_cases h : f.data ∈ d.engine.locked
  · simp [h]
  · simp [h]

end Decoder

/-! ### A caller's calls -/

/-- A call a caller makes on the locked frames of a decoder. -/
inductive LockCall where
  /-- Take the next decoded frame out of the rotation. -/
  | lock
  /-- Give a frame back. -/
  | unlock (frame : FrameDescriptor)

/-- What a caller holds: the addresses of the descriptors it was handed and
has not handed back, and the addresses of the surfaces whose lock failed. -/
structure LockView where
  held : List Nat := []
  stranded : List Nat := []

namespace Decoder

/-- Performs one call, and follows what the caller holds: a lock that answers
with a frame hands its address out, a lock that fails strands the surface it
took, and giving a frame back returns its address. -/
def lockStep (d : Decoder) (v : LockView) : LockCall → Decoder × LockView
  | .lock =>
    match d.lockedFrame.1, d.engine.lockable with
    | .ok (some f), _ => (d.lockedFrame.2, { v with held := v.held ++ [f.data] })
    | .error _, s :: _ => (d.lockedFrame.2, { v with stranded := v.stranded ++ [s.ptr] })
    | _, _ => (d.lockedFrame.2, v)
  | .unlock f =>
    ((d.unlockFrame f).2, { held := v.held.erase f.data, stranded := v.stranded.erase f.data })

/-- Performs calls in order. -/
def runLocks (d : Decoder) (v : LockView) : List LockCall → Decoder × LockView
  | [] => (d, v)
  | c :: cs => (d.lockStep v c).1.runLocks (d.lockStep v c).2 cs

end Decoder

/-- **Locked surfaces are accounted for**: no address waits or is locked twice,
and the locked addresses are, one for one, those the caller holds and those
stranded. -/
structure LocksAccounted (d : Decoder) (v : LockView) : Prop where
  /-- The waiting and the locked addresses are all distinct. -/
  nodup : (d.engine.lockable.map DecodedSurface.ptr ++ d.engine.locked).Nodup
  /-- The locked addresses are the held and the stranded ones. -/
  perm : d.engine.locked.Perm (v.held ++ v.stranded)

namespace LocksAccounted

variable {d : Decoder} {v : LockView}

/-- A fresh engine, its waiting surfaces at distinct addresses. -/
theorem fresh (hfresh : d.engine.locked = [])
    (hdistinct : (d.engine.lockable.map DecodedSurface.ptr).Nodup) : LocksAccounted d {} where
  nodup := by simpa [hfresh] using hdistinct
  perm := by simp [hfresh]

/-- A frame can be given back exactly when its address is held or stranded. -/
theorem unlock_ok_iff (h : LocksAccounted d v) (f : FrameDescriptor) :
    (d.unlockFrame f).1 = .ok () ↔ f.data ∈ v.held ++ v.stranded := by
  rw [Decoder.unlockFrame_eq, ← h.perm.mem_iff]
  split_ifs with hmem <;> simp [hmem]

/-- A lock that moves the surface at `p` from the waiting to the locked ones
keeps the locks accounted for, once the caller's view gains `p` too. -/
theorem of_locked {d' : Decoder} {v' : LockView} {p : Nat} {rest : List DecodedSurface}
    (h : LocksAccounted d v) (hq : d.engine.lockable.map DecodedSurface.ptr = p :: rest.map DecodedSurface.ptr)
    (hrest : d'.engine.lockable = rest) (hlocked : d'.engine.locked = d.engine.locked ++ [p])
    (hview : (v.held ++ v.stranded ++ [p]).Perm (v'.held ++ v'.stranded)) :
    LocksAccounted d' v' where
  nodup := by
    have hbefore := h.nodup
    rw [hq, List.cons_append] at hbefore
    -- the address moves from the front of the list to its end
    have hp : (p :: (rest.map DecodedSurface.ptr ++ d.engine.locked)).Perm
        (rest.map DecodedSurface.ptr ++ (d.engine.locked ++ [p])) := by
      rw [← List.append_assoc]
      exact (List.perm_append_singleton _ _).symm
    rw [hrest, hlocked]
    exact hp.nodup_iff.mp hbefore
  perm := by
    rw [hlocked]
    exact (h.perm.append_right [p]).trans hview

/-- Locking the next surface moves its address from the waiting to the locked
ones, and hands it to the caller or strands it. -/
theorem lock (h : LocksAccounted d v) :
    LocksAccounted (d.lockStep v .lock).1 (d.lockStep v .lock).2 := by
  rcases Decoder.lockedFrame_cases d with ⟨hnone, heq⟩ | ⟨s, rest, hq, hres, hrest, hlocked⟩
  · simp only [Decoder.lockStep, heq]
    exact h
  · have hptrs : d.engine.lockable.map DecodedSurface.ptr = s.ptr :: rest.map DecodedSurface.ptr := by
      rw [hq, List.map_cons]
    cases hdesc : d.describe s with
    | ok f =>
      have hres' : d.lockedFrame.1 = .ok (some f) := by
        rw [hres, hdesc]
        rfl
      have hstep : d.lockStep v .lock = (d.lockedFrame.2, { v with held := v.held ++ [f.data] }) := by
        simp only [Decoder.lockStep, hres']
      rw [hstep, assemble_data hdesc]
      -- the surface joins the held addresses
      refine h.of_locked hptrs hrest hlocked ?_
      simp only [List.append_assoc]
      exact .append_left _ List.perm_append_comm
    | error e =>
      have hres' : d.lockedFrame.1 = .error e := by
        rw [hres, hdesc]
        rfl
      have hstep : d.lockStep v .lock =
          (d.lockedFrame.2, { v with stranded := v.stranded ++ [s.ptr] }) := by
        simp only [Decoder.lockStep, hres', hq]
      rw [hstep]
      -- the surface joins the stranded addresses
      exact h.of_locked hptrs hrest hlocked (.of_eq (List.append_assoc _ _ _))

/-- Giving a frame back returns its address, and leaves everything alone when
the address is not locked. -/
theorem unlock (h : LocksAccounted d v) (f : FrameDescriptor) :
    LocksAccounted (d.lockStep v (.unlock f)).1 (d.lockStep v (.unlock f)).2 := by
  have hnd : (v.held ++ v.stranded).Nodup := h.perm.nodup_iff.mp (List.nodup_append.mp h.nodup).2.1
  simp only [Decoder.lockStep, Decoder.unlockFrame_eq]
  split_ifs with hmem
  · -- one occurrence of the address, held or stranded, goes
    have herase : (v.held.erase f.data ++ v.stranded.erase f.data).Perm
        ((v.held ++ v.stranded).filter (· != f.data)) := by
      rw [List.filter_append, ← (List.nodup_append.mp hnd).1.erase_eq_filter,
        ← (List.nodup_append.mp hnd).2.1.erase_eq_filter]
    refine ⟨?_, ?_⟩
    · exact h.nodup.sublist (List.Sublist.append_left List.filter_sublist _)
    · exact (h.perm.filter _).trans herase.symm
  · -- an address neither held nor stranded: nothing to erase
    have hno : f.data ∉ v.held ++ v.stranded := fun hin => hmem (h.perm.mem_iff.mpr hin)
    rw [List.erase_of_not_mem (fun hin => hno (List.mem_append_left _ hin)),
      List.erase_of_not_mem (fun hin => hno (List.mem_append_right _ hin))]
    exact h

/-- **Every call keeps the locked surfaces accounted for.** -/
theorem lockStep (h : LocksAccounted d v) :
    ∀ c, LocksAccounted (d.lockStep v c).1 (d.lockStep v c).2
  | .lock => h.lock
  | .unlock f => h.unlock f

/-- **Every run keeps the locked surfaces accounted for.** -/
theorem runLocks (h : LocksAccounted d v) (calls : List LockCall) :
    LocksAccounted (d.runLocks v calls).1 (d.runLocks v calls).2 := by
  induction calls generalizing d v with
  | nil => exact h
  | cons c cs ih => exact ih (h.lockStep c)

end LocksAccounted

/-- **The surfaces a caller's calls leave locked.** Start from a fresh engine,
its waiting surfaces at distinct addresses, and make any sequence of locks and
unlocks. The engine then holds locked, one for one, the addresses of the
descriptors handed out and not handed back, and those of the surfaces stranded
by failed locks. The next lock fails exactly when the next surface cannot be
cut, and then locks it all the same; giving a frame back succeeds exactly for
an address held or stranded. -/
theorem locked_surfaces_held_or_stranded (d : Decoder) (hfresh : d.engine.locked = [])
    (hdistinct : (d.engine.lockable.map DecodedSurface.ptr).Nodup) (calls : List LockCall) :
    let r := d.runLocks {} calls
    r.1.engine.locked.Nodup ∧ r.1.engine.locked.Perm (r.2.held ++ r.2.stranded) ∧
    (∀ e, r.1.lockedFrame.1 = .error e ↔ ∃ s rest, r.1.engine.lockable = s :: rest ∧
      r.1.describe s = .error e ∧ r.1.lockedFrame.2.engine.locked = r.1.engine.locked ++ [s.ptr]) ∧
    ∀ f, (r.1.unlockFrame f).1 = .ok () ↔ f.data ∈ r.2.held ++ r.2.stranded := by
  intro r
  have h : LocksAccounted r.1 r.2 := (LocksAccounted.fresh hfresh hdistinct).runLocks calls
  refine ⟨(List.nodup_append.mp h.nodup).2.1, h.perm, fun e => ?_, h.unlock_ok_iff⟩
  rcases Decoder.lockedFrame_cases r.1 with ⟨hnone, heq⟩ | ⟨s, rest, hq, hres, -, hlocked⟩
  · simp [heq, hnone]
  · rw [hres, hq]
    constructor
    · intro herr
      refine ⟨s, rest, rfl, ?_, hlocked⟩
      cases hdesc : r.1.describe s with
      | ok f => rw [hdesc] at herr; cases herr
      | error e' => rw [hdesc] at herr; cases herr; rfl
    · rintro ⟨s', rest', hcons, hdesc, -⟩
      cases hcons
      rw [hdesc]
      rfl

/-- Two locks in turn, and no unlock, on a 64 by 32 NV12 engine with two
lockable surfaces: the locked surfaces are, one for one, those held and those
stranded, and a frame unlocks exactly when its surface is one of them. -/
theorem nv12_locks_held_or_stranded :
    let d : Decoder := { engine := {
      surfaceFormat := .nv12
      width := 64
      height := 32
      lockable := [⟨0x1000, 0⟩, ⟨0x2000, 1⟩] } }
    d.engine.locked = [] ∧ (d.engine.lockable.map DecodedSurface.ptr).Nodup ∧
    let r := d.runLocks {} [.lock, .lock]
    r.1.engine.locked.Nodup ∧ r.1.engine.locked.Perm (r.2.held ++ r.2.stranded) ∧
    (∀ e, r.1.lockedFrame.1 = .error e ↔ ∃ s rest, r.1.engine.lockable = s :: rest ∧
      r.1.describe s = .error e ∧ r.1.lockedFrame.2.engine.locked = r.1.engine.locked ++ [s.ptr]) ∧
    ∀ f, (r.1.unlockFrame f).1 = .ok () ↔ f.data ∈ r.2.held ++ r.2.stranded := by
  intro d
  exact ⟨rfl, by decide, locked_surfaces_held_or_stranded d rfl (by decide) [.lock, .lock]⟩

/-- A surface of an unknown format, 64 by 32 at `0x1000`: locking it fails,
because it cannot be cut into planes, and the engine holds it locked where it
held nothing. -/
theorem failed_lock_strands_surface :
    let d : Decoder := { engine := {
      surfaceFormat := .other 7
      width := 64
      height := 32
      lockable := [⟨0x1000, 0⟩] } }
    d.lockedFrame.1 = .error (.unsupportedFormat .undefined) ∧ d.engine.locked = [] ∧
      d.lockedFrame.2.engine.locked = [0x1000] := by
  decide

end VideoCodec
