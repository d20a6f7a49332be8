import Mathlib
import VideoCodec.Proofs.Handoff
import VideoCodec.Proofs.PlaneExport
/-!
# What a prepared copy rests on

Before a caller's frame is copied into an encoder input slot,
`InputConfig.prepare` checks it through the protocol it came in and describes
the copy. This file says what a successful preparation has checked of the
memory the caller described (`InputConfig.prepared_copy_rests_on_checks`):

* the copy is of the session's frame: its width, height and format
  (`InputConfig.Framed`);
* a host buffer holds at least a whole frame;
* each array interface declares its plane as the layout has it: the shape
  exactly, and the strides too where it gives any (`InputConfig.Declares`),
  and the copy reads from the first plane with its pitch;
* a tensor is checked for its memory kind, its device, its sample width and
  its row count (`InputConfig.TensorChecked`), and the copy takes its row
  stride, clamped at zero, as pitch.

The proof follows `prepare` down its branches, one lemma for each, with the
combinators of `ReturnsOnly`.

## What the tensor protocol leaves unchecked

A plane's check compares the whole shape and the strides with the layout. The
tensor check reads only the row count: the tensor's width, its strides, its
type code and its lanes are never compared with the frame. A tensor one column
wide, with a row stride of one element, is admitted for an NV12 frame 64
pixels wide, and its copy reads rows of 64 bytes one byte apart
(`narrow_tensor_copy_admitted`).
-/

namespace VideoCodec

/-- The row pitch of a tensor in elements, as a copy takes it: the first
stride, or the second extent when no stride is given, clamped at zero. -/
def DlTensor.rowElements (t : DlTensor) : Nat :=
  match t.strides.head? with
  | some s => clampToNat s
  | none => clampToNat (t.shape.getD 1 0)

namespace InputConfig

/-- An array interface declares plane `p` of the session's frame as its
layout `l` has it: the shape exactly, and the strides too where it gives any. -/
def Declares (c : InputConfig) (desc : ArrayInterface) (p : Nat) (l : PlaneLayout) : Prop :=
  PlaneLayout.resolve c.format c.width c.height p = .ok l ∧ desc.shape = l.shape.toList ∧
    ∀ st, desc.strides = some st → st = l.strides.toList

/-- What the tensor protocol checks of a tensor: memory the device can read,
the session's device, the format's sample width, and as many rows as the luma
and the chroma stacked under it. -/
structure TensorChecked (c : InputConfig) (t : DlTensor) : Prop where
  accessible : t.deviceType.isCudaAccessible = true
  device : t.deviceId = c.device
  bits : t.dtype.bits = c.format.element.bits
  rows : clampToNat (t.shape.headD 0) = c.height * 3 / 2

/-- A copy of the session's frame: its width, height and format. -/
def Framed (c : InputConfig) (copy : FrameCopy) : Prop :=
  copy.width = c.width ∧ copy.height = c.height ∧ copy.format = c.format

/-- **What the copy of a frame rests on**, by the protocol the frame came in:
what was checked of the memory the caller described, and where the copy reads
from with what pitch. -/
inductive Admits (c : InputConfig) (src : FrameSource) (copy : FrameCopy) : Prop
  /-- A host buffer, with no device protocol beside it, that holds a whole
  frame. -/
  | host (len size : Nat) (hnone : src.array = none ∧ src.planes = none ∧ src.tensor = none)
      (hsrc : src.host = some len) (hon : c.hostInput = true)
      (hsize : frameSize c.format c.width c.height = .ok size) (hfits : size ≤ len)
      (hsource : copy.source = .host len)
  /-- The one array of a packed format, declaring the frame's plane. -/
  | array (desc : ArrayInterface) (l : PlaneLayout) (hf : c.format.isPacked = true)
      (hsrc : src.array = some desc) (hdecl : c.Declares desc 0 l)
      (hsource : copy.source = .device desc.data) (hpitch : copy.srcPitch = l.strides.rows)
  /-- One array per plane, each declaring its plane; the copy starts at the
  first, with its pitch. -/
  | planes (descs : List ArrayInterface) (d : ArrayInterface) (l : PlaneLayout)
      (hf : c.format.isPacked = false) (hsrc : src.planes = some descs)
      (hlen : descs.length = c.format.planeCount)
      (hdecl : ∀ di ∈ descs.zipIdx, ∃ l, c.Declares di.1 di.2 l)
      (hhead : descs.head? = some d) (hluma : c.Declares d 0 l)
      (hsource : copy.source = .device d.data) (hpitch : copy.srcPitch = l.strides.rows)
  /-- One tensor of a semi-planar format, as far as it is checked; the pitch
  is its row stride. -/
  | tensor (t : DlTensor) (hf : c.format = .nv12 ∨ c.format = .p010)
      (hsrc : src.tensor = some t) (hchk : c.TensorChecked t)
      (hsource : copy.source = .device (t.data + t.byteOffset))
      (hpitch : copy.srcPitch = t.rowElements * c.format.element.size)

variable {c : InputConfig}

theorem framed_deviceCopy (luma : PlaneView) (chroma : List Nat) :
    c.Framed (c.deviceCopy luma chroma) :=
  ⟨rfl, rfl, rfl⟩

/-- A checked plane declares its plane and keeps the caller's address; its
row pitch is the layout's. -/
theorem coerce_declares (desc : ArrayInterface) (p : Nat) :
    ReturnsOnly (coerce c.memory c.device desc c.format c.width c.height p) fun v =>
      ∃ l, c.Declares desc p l ∧ v.data = desc.data ∧ v.rowPitch = l.strides.rows :=
  (coerce_returnsOnly _ _ desc _ _ _ p).mono fun v ⟨l, _, hl, _, _, _, _, hshape, hstrides, hv⟩ =>
    ⟨l, ⟨hl, hshape, hstrides⟩, by rw [hv]; rfl, by rw [hv]; rfl⟩

/-- Checked planes: one per plane of the format, each declaring its plane. -/
theorem coercePlanes_declares (src : FrameSource) :
    ReturnsOnly (c.coercePlanes src) fun views => ∃ descs, src.planes = some descs ∧
      descs.length = c.format.planeCount ∧
      List.Forall₂ (fun di v => ∃ l, c.Declares di.1 di.2 l ∧ v.data = di.1.data ∧
        v.rowPitch = l.strides.rows) descs.zipIdx views := by
  unfold coercePlanes
  split
  · exact .error _
  · rename_i descs hdescs
    by_cases hlen : descs.length = c.format.planeCount
    · rw [if_neg (not_not.mpr hlen)]
      exact (ReturnsOnly.mapM (fun ⟨d, i⟩ => coerce_declares d i) _).mono
        fun views hviews => ⟨descs, hdescs, hlen, hviews⟩
    · rw [if_pos hlen]
      exact .error _

/-- Planes that declare their planes, copied from the first. -/
theorem admits_of_planes {src : FrameSource} {luma : PlaneView} {rest : List PlaneView}
    (chroma : List Nat) (hf : c.format.isPacked = false)
    (hviews : ∃ descs, src.planes = some descs ∧ descs.length = c.format.planeCount ∧
      List.Forall₂ (fun di v => ∃ l, c.Declares di.1 di.2 l ∧ v.data = di.1.data ∧
        v.rowPitch = l.strides.rows) descs.zipIdx (luma :: rest)) :
    c.Framed (c.deviceCopy luma chroma) ∧ c.Admits src (c.deviceCopy luma chroma) := by
  obtain ⟨descs, hsrc, hlen, hall⟩ := hviews
  have hdecl : ∀ di ∈ descs.zipIdx, ∃ l, c.Declares di.1 di.2 l :=
    ((List.forall₂_and_left _ _).mp (hall.imp fun _ _ h => ⟨h.imp fun _ hl => hl.1, h⟩)).1
  -- the first plane is the luma plane, declared as plane 0
  cases descs with
  | nil => cases hall
  | cons d ds =>
    obtain _ | ⟨⟨l, hluma, hdata, hpitch⟩, _⟩ := hall
    exact ⟨framed_deviceCopy luma chroma,
      .planes (d :: ds) d l hf hsrc hlen hdecl rfl hluma (by rw [← hdata]; rfl) hpitch⟩

/-- A prepared tensor passed the tensor checks, and is copied from its address
with its row stride. -/
theorem prepareTensor_returnsOnly (t : DlTensor) :
    ReturnsOnly (c.prepareTensor t) fun copy => c.TensorChecked t ∧
      copy = { source := .device (t.data + t.byteOffset),
               srcPitch := t.rowElements * c.format.element.size,
               chromaOffsets := [c.width * c.height * c.format.element.size], width := c.width,
               height := c.height, format := c.format } := by
  unfold prepareTensor
  refine .guard_passed fun hacc => .guard_passed fun hdev => .guard_passed fun hbits =>
    .guard_passed fun hrows => ?_
  refine .bind (Word.add_returnsOnly _ _) fun _ hsource => .bind (Word.mul_returnsOnly _ _)
    fun _ hpitch => .bind (Word.mul_returnsOnly _ _) fun _ hluma =>
      .bind (Word.mul_returnsOnly _ _) fun _ hchroma => .pure ⟨⟨?_, ?_, ?_, ?_⟩, ?_⟩
  · simpa using hacc
  · simpa using hdev
  · simpa using hbits
  · simpa using hrows
  · subst hsource hpitch hluma hchroma
    rfl

/-- A prepared device frame rests on what its protocol checked. -/
theorem prepareDevice_admits (src : FrameSource) :
    ReturnsOnly (c.prepareDevice src) fun copy => c.Framed copy ∧ c.Admits src copy := by
  unfold prepareDevice
  split
  case h_1 | h_2 | h_3 | h_4 =>
    rename_i hf
    split
    · exact .error _
    · rename_i desc hdesc
      exact .bind (coerce_declares desc 0) fun v ⟨l, hdecl, hdata, hpitch⟩ =>
        .pure ⟨framed_deviceCopy v [],
          .array desc l (by rw [hf]; rfl) hdesc hdecl (by rw [← hdata]; rfl) hpitch⟩
  case h_5 | h_6 =>
    rename_i hf
    split
    · rename_i t ht
      refine (c.prepareTensor_returnsOnly t).mono fun copy ⟨hchk, hcopy⟩ => ?_
      subst hcopy
      exact ⟨⟨rfl, rfl, rfl⟩, .tensor t (by simp [hf]) ht hchk rfl rfl⟩
    · refine .bind (c.coercePlanes_declares src) fun planes hplanes => ?_
      split
      · refine .guard_passed fun _ => .bind (.any _) fun _ _ => .pure ?_
        exact admits_of_planes _ (by rw [hf]; rfl) hplanes
      · exact .throw _
  case h_7 | h_8 | h_9 =>
    rename_i hf
    refine .bind (c.coercePlanes_declares src) fun planes hplanes => ?_
    split
    · refine .guard_passed fun _ => .bind (.any _) fun _ _ => .bind (.any _) fun _ _ => .pure ?_
      exact admits_of_planes _ (by rw [hf]; rfl) hplanes
    · exact .throw _
  case h_10 => exact .error _

/-- A prepared host buffer holds a whole frame. -/
theorem prepareHost_admits {src : FrameSource} {len : Nat}
    (hnone : src.array = none ∧ src.planes = none ∧ src.tensor = none)
    (hsrc : src.host = some len) (hon : c.hostInput = true) :
    ReturnsOnly (c.prepareHost len) fun copy => c.Framed copy ∧ c.Admits src copy := by
  unfold prepareHost
  refine .bind (.self _) fun offsets hoff => .guard_passed fun hfits =>
    .bind (.any _) fun _ _ => .pure ⟨⟨rfl, rfl, rfl⟩, ?_⟩
  exact .host len _ hnone hsrc hon (frameSize_of_planeOffsets hoff) (Nat.not_lt.mp hfits) rfl

/-- **A prepared copy stays within the memory the caller described.** Whatever
the frame, a copy that the session prepares from it is of the session's frame,
and rests on what the frame's protocol checked. A host buffer holds a whole
frame; each array interface declares its plane's shape, and its strides where
it gives any, as the layout has them; a tensor is on the session's device, in
memory the device reads, with the format's sample width and the frame's rows,
and the copy takes its row stride as pitch. -/
theorem prepared_copy_rests_on_checks {src : FrameSource} {copy : FrameCopy}
    (h : c.prepare src = .ok copy) : c.Framed copy ∧ c.Admits src copy := by
  unfold prepare at h
  split at h
  · exact c.prepareDevice_admits src copy h
  · rename_i hdev
    -- no device protocol: the three are absent, and only a host buffer is left
    have hnone : src.array = none ∧ src.planes = none ∧ src.tensor = none := by
      simpa [and_assoc] using hdev
    split at h
    · rename_i len hlen
      split at h
      · rename_i hon
        exact prepareHost_admits hnone hlen hon copy h
      · cases h
    · cases h

end InputConfig

/-- The tensor of a P010 frame of 64 by 32, rows and columns as the frame has
them, is admitted and copied with its row stride of 64 samples. -/
theorem p010_tensor_copy_admitted :
    let c : InputConfig := ⟨⟨0⟩, 0, .p010, 64, 32, false⟩
    let src : FrameSource := { tensor := some ⟨0x8000, .cuda, 0, ⟨1, 16, 1⟩, [48, 64], [64, 1], 0⟩ }
    let copy : FrameCopy := ⟨.device 0x8000, 128, [64 * 32 * 2], 64, 32, .p010⟩
    c.prepare src = .ok copy ∧ c.Framed copy ∧ c.Admits src copy := by
  intro c src copy
  have h : c.prepare src = .ok copy := by decide
  exact ⟨h, InputConfig.prepared_copy_rests_on_checks h⟩

/-- A tensor one column wide is admitted for an NV12 frame of 64 by 32, and
its copy reads rows of 64 bytes one byte apart: the tensor's width and row
stride are never checked against the frame. -/
theorem narrow_tensor_copy_admitted :
    let c : InputConfig := ⟨⟨0⟩, 0, .nv12, 64, 32, false⟩
    let t : DlTensor := ⟨4096, .cuda, 0, ⟨1, 8, 1⟩, [48, 1], [1, 1], 0⟩
    (∃ copy, c.prepare { tensor := some t } = .ok copy ∧ copy.srcPitch = 1 ∧
      copy.srcPitch < c.width * c.format.element.size) ∧
      t.shape ≠ [(c.height * 3 / 2 : Nat), (c.width : Nat)] := by
  intro c t
  refine ⟨⟨⟨.device 4096, 1, [64 * 32], 64, 32, .nv12⟩, by decide, rfl, by decide⟩, by decide⟩

end VideoCodec
