import Mathlib
import VideoCodec.Proofs.PlaneExport
/-!
# Frames handed over plane by plane

A frame of a planar format (NV12, P010, planar 4:4:4 of bytes or of 16-bit
samples, YV12) reaches the encoder as a list of array interfaces, one per
plane. The session checks the list (`InputConfig.coercePlanes`), compares the
row pitches of planes that must share one, checks that each plane starts
after the one before it, and copies from the first plane with the others at
their distances from it. This file proves exactly which lists are taken and
what they are taken as (`prepare_plane_list`):

* a list is taken exactly when it has one interface per plane, each checks as
  its plane, and the planes start in plane order (`InputConfig.PlanesCopied`);
  the distances are then never negative;
* the two pitch comparisons never fail: a checked plane has the strides of its
  layout (`coerce_rowPitch`), and the formats give the compared planes one
  pitch; so the session's answer, once the planes checked, is the copy or a
  plane-order failure (`InputConfig.prepare_semiPlanar_eq`,
  `InputConfig.prepare_threePlane_eq`);
* hence every stride mismatch the session reports is a plane whose declared
  strides differ from its layout's (`coerce_failsOnly_declaredStrides`).
-/

namespace VideoCodec

/-! ### Failures of a bind and of a check, knowing what came before -/

namespace FailsOnly

variable {α β : Type} {P : CodecError → Prop}

/-- A bind fails as `P` allows when its first step does and the rest does on
every result of the first step. -/
theorem bind_ok {x : Except CodecError α} {f : α → Except CodecError β} (hx : FailsOnly x P)
    (hf : ∀ a, x = .ok a → FailsOnly (f a) P) : FailsOnly (x >>= f) P := by
  intro e he
  cases h : x with
  | error e' =>
    rw [h] at he
    cases he
    exact hx _ h
  | ok a =>
    rw [h] at he
    exact hf a h e he

/-- A check inside a `do` block fails as `P` allows when its failure does
whenever the check fires, and the rest `k` does. -/
theorem check {c : Prop} [Decidable c] {e : CodecError} {k : Unit → Except CodecError α}
    (he : c → P e) (hk : FailsOnly (k ()) P) :
    FailsOnly (if c then MonadExcept.throw e >>= k else k ()) P := by
  split
  · rename_i hc
    exact bind (throw (he hc)) fun _ => hk
  · exact hk

end FailsOnly

/-- A map over a list that fails, fails at one element, with that element's
failure. -/
theorem mapM_eq_error {α β : Type} {f : α → Except CodecError β} {e : CodecError} :
    ∀ {xs : List α}, xs.mapM f = .error e → ∃ x ∈ xs, f x = .error e
  | [], h => by cases h
  | x :: xs, h => by
    rw [List.mapM_cons] at h
    cases hx : f x with
    | error e' =>
      rw [hx] at h
      cases h
      exact ⟨x, List.mem_cons_self, hx⟩
    | ok b =>
      rw [hx] at h
      cases hxs : xs.mapM f with
      | error e' =>
        rw [hxs] at h
        cases h
        obtain ⟨y, hy, hfy⟩ := mapM_eq_error hxs
        exact ⟨y, List.mem_cons_of_mem x hy, hfy⟩
      | ok bs =>
        rw [hxs] at h
        cases h

/-! ### One checked plane -/

section Check

variable {m : DeviceMemory} {device : Int} {desc : ArrayInterface} {f : PixelFormat}
  {w h p : Nat} {v : PlaneView}

/-- A checked plane has the row pitch of its layout. -/
theorem coerce_rowPitch (hv : coerce m device desc f w h p = .ok v) :
    ∃ l, PlaneLayout.resolve f w h p = .ok l ∧ v.rowPitch = l.strides.rows := by
  obtain ⟨l, s, hl, -, -, -, -, -, -, rfl⟩ := coerce_eq_ok_iff.mp hv
  exact ⟨l, hl, rfl⟩

/-- The failures that the declared-stride check of plane `p` gives: a stride
mismatch is a plane that declares strides `b` other than the strides `a` of its
layout. -/
def DeclaredStrideFault (desc : ArrayInterface) (f : PixelFormat) (w h p : Nat)
    (e : CodecError) : Prop :=
  ∀ a b, e = .strideMismatch a b → ∃ l, PlaneLayout.resolve f w h p = .ok l ∧
    desc.strides = some b ∧ a = l.strides.toList ∧ b ≠ a

/-- **The one stride check of a plane**: a plane fails with a stride mismatch
only when it declares strides, and they are not those of its layout. -/
theorem coerce_failsOnly_declaredStrides (m : DeviceMemory) (device : Int)
    (desc : ArrayInterface) (f : PixelFormat) (w h p : Nat) :
    FailsOnly (coerce m device desc f w h p) (DeclaredStrideFault desc f w h p) := by
  unfold coerce
  refine .bind_ok ?_ fun l hl => ?_
  · unfold PlaneLayout.resolve
    exact .ite (.error nofun) <| .ite (.error nofun) <| .ite (.error nofun) (.ok _)
  refine .bind ?_ fun s => ?_
  · unfold normalizeStream
    split
    · exact .error nofun
    all_goals exact .ok _
  have hquery : FailsOnly (m.deviceOf desc.data) (DeclaredStrideFault desc f w h p) := by
    unfold DeviceMemory.deviceOf
    exact .ite (.error nofun) (.ok _)
  -- the sample type and the shape fail otherwise; the strides, only when declared
  refine .check nofun (.check nofun ?_)
  split
  · rename_i st hst
    refine .check (fun hne a b hab => ?_) (.bind hquery fun _ => .check nofun (.pure _))
    cases hab
    exact ⟨l, hl, hst, rfl, hne⟩
  · exact .bind hquery fun _ => .check nofun (.pure _)

end Check

/-! ### A list of planes -/

/-- The order check of two planes: the next plane must start after the one
before. -/
theorem ensureFollows_eq (i : Nat) (prev next : PlaneView) :
    ensureFollows i prev next =
      if prev.data < next.data then .ok () else .error (.invalidPlaneOrder i prev.data next.data) := by
  unfold ensureFollows
  by_cases hlt : prev.data < next.data
  · rw [if_neg (Nat.not_le.mpr hlt), if_pos hlt]
  · rw [if_pos (Nat.not_lt.mp hlt), if_neg hlt]

namespace InputConfig

variable {c : InputConfig} {src : FrameSource} {descs : List ArrayInterface}
  {views : List PlaneView} {copy : FrameCopy}

/-- **What a list of planes checks as**: one interface per plane, each checked
as the plane at its place in the list. -/
theorem coercePlanes_eq_ok_iff (hplanes : src.planes = some descs) :
    c.coercePlanes src = .ok views ↔ descs.length = c.format.planeCount ∧
      List.Forall₂ (fun (di : ArrayInterface × Nat) v =>
        coerce c.memory c.device di.1 c.format c.width c.height di.2 = .ok v) descs.zipIdx views := by
  unfold coercePlanes
  rw [hplanes]
  dsimp only
  by_cases hlen : descs.length = c.format.planeCount
  · rw [if_neg (not_not.mpr hlen)]
    exact ⟨fun h => ⟨hlen, ReturnsOnly.mapM (fun _ => .self _) _ _ h⟩,
      fun h => mapM_eq_ok_of_forall₂ h.2⟩
  · rw [if_pos hlen]
    simp [hlen]

/-- A property of the checked planes, said of the plane list: it holds of the
views the list checks as. -/
theorem checked_planes_iff (hplanes : src.planes = some descs) (P : List PlaneView → Prop) :
    (descs.length = c.format.planeCount ∧ ∃ views,
        List.Forall₂ (fun (di : ArrayInterface × Nat) v =>
          coerce c.memory c.device di.1 c.format c.width c.height di.2 = .ok v) descs.zipIdx views ∧
        P views) ↔
      ∃ views, c.coercePlanes src = .ok views ∧ P views := by
  simp only [coercePlanes_eq_ok_iff hplanes]
  constructor
  · rintro ⟨hlen, views, hv, hp⟩
    exact ⟨views, ⟨hlen, hv⟩, hp⟩
  · rintro ⟨views, ⟨hlen, hv⟩, hp⟩
    exact ⟨hlen, views, hv, hp⟩

/-- A list of planes is refused for its length, or at one plane, with that
plane's failure. -/
theorem coercePlanes_eq_error (hplanes : src.planes = some descs) {e : CodecError}
    (h : c.coercePlanes src = .error e) :
    (descs.length ≠ c.format.planeCount ∧ e = .missingPlanes c.format.planeCount descs.length) ∨
      ∃ i desc, descs[i]? = some desc ∧
        coerce c.memory c.device desc c.format c.width c.height i = .error e := by
  unfold coercePlanes at h
  rw [hplanes] at h
  dsimp only at h
  split_ifs at h with hlen
  · cases h
    exact .inl ⟨hlen, rfl⟩
  · obtain ⟨⟨desc, i⟩, hmem, hdesc⟩ := mapM_eq_error h
    exact .inr ⟨i, desc, List.mem_zipIdx_iff_getElem?.mp hmem, hdesc⟩

/-- **The copy of checked planes** `views`: they start in plane order, and the
copy reads from the first plane, with the row pitch of the first plane's
layout and the other planes at their distances from it, which the order keeps
from being negative. -/
def PlanesCopied (c : InputConfig) (views : List PlaneView) (copy : FrameCopy) : Prop :=
  (views.map PlaneView.data).Pairwise (· < ·) ∧ ∃ luma l0, views.head? = some luma ∧
    PlaneLayout.resolve c.format c.width c.height 0 = .ok l0 ∧
    copy = {
      source := .device luma.data
      srcPitch := l0.strides.rows
      chromaOffsets := views.tail.map fun v => v.data - luma.data
      width := c.width
      height := c.height
      format := c.format }

/-- The copy of checked planes whose first plane has the pitch of its layout:
the planes in plane order, copied from the first. -/
theorem planesCopied_cons_iff {v : PlaneView} {vs : List PlaneView} {l0 : PlaneLayout}
    (hl0 : PlaneLayout.resolve c.format c.width c.height 0 = .ok l0)
    (hp0 : v.rowPitch = l0.strides.rows) :
    c.PlanesCopied (v :: vs) copy ↔ ((v :: vs).map PlaneView.data).Pairwise (· < ·) ∧
      copy = c.deviceCopy v (vs.map fun u => u.data - v.data) := by
  unfold PlanesCopied deviceCopy
  simp [hl0, hp0]

/-- The planar formats: two planes, or three. -/
def PlanarFamily (f : PixelFormat) : Prop :=
  (f = .nv12 ∨ f = .p010) ∨ (f = .yuv444 ∨ f = .yuv444P16 ∨ f = .yv12)

/-- A plane list that fails to check is refused with that failure. -/
theorem prepare_of_coercePlanes_error (hf : PlanarFamily c.format)
    (hplanes : src.planes = some descs) (htensor : c.format = .nv12 ∨ c.format = .p010 → src.tensor = none)
    {e : CodecError} (hcp : c.coercePlanes src = .error e) : c.prepare src = .error e := by
  rw [prepare_of_device (by simp [hplanes])]
  obtain ⟨m, device, f, w, h, host⟩ := c
  dsimp only at hf htensor hcp ⊢
  rcases hf with (rfl | rfl) | (rfl | rfl | rfl)
  · unfold prepareDevice
    dsimp only
    rw [htensor (.inl rfl), hcp]
    rfl
  · unfold prepareDevice
    dsimp only
    rw [htensor (.inr rfl), hcp]
    rfl
  all_goals
    unfold prepareDevice
    dsimp only
    rw [hcp]
    rfl

/-- Checked semi-planar planes of one pitch are copied when the chroma plane
starts after the luma plane, and refused for their order otherwise. -/
theorem prepare_semiPlanar_eq {v0 v1 : PlaneView} (hf : c.format = .nv12 ∨ c.format = .p010)
    (hplanes : src.planes = some descs) (htensor : src.tensor = none)
    (hcp : c.coercePlanes src = .ok [v0, v1]) (hpitch : v0.rowPitch = v1.rowPitch) :
    c.prepare src = if v0.data < v1.data then .ok (c.deviceCopy v0 [v1.data - v0.data])
      else .error (.invalidPlaneOrder 1 v0.data v1.data) := by
  rw [prepare_of_device (by simp [hplanes])]
  obtain ⟨m, device, f, w, h, host⟩ := c
  dsimp only at hf hcp ⊢
  rcases hf with rfl | rfl
  all_goals
    unfold prepareDevice
    dsimp only
    rw [htensor, hcp]
    simp only [bind, Except.bind]
    rw [if_neg (not_not.mpr hpitch), ensureFollows_eq]
    split_ifs <;> rfl

/-- Checked planes of a three-plane format, whose chroma planes share one
pitch, are copied when each plane starts after the one before, and refused for
the first pair out of order otherwise. -/
theorem prepare_threePlane_eq {v0 v1 v2 : PlaneView}
    (hf : c.format = .yuv444 ∨ c.format = .yuv444P16 ∨ c.format = .yv12)
    (hplanes : src.planes = some descs) (hcp : c.coercePlanes src = .ok [v0, v1, v2])
    (hpitch : v1.rowPitch = v2.rowPitch) :
    c.prepare src = if v0.data < v1.data then
        if v1.data < v2.data then .ok (c.deviceCopy v0 [v1.data - v0.data, v2.data - v0.data])
        else .error (.invalidPlaneOrder 2 v1.data v2.data)
      else .error (.invalidPlaneOrder 1 v0.data v1.data) := by
  rw [prepare_of_device (by simp [hplanes])]
  obtain ⟨m, device, f, w, h, host⟩ := c
  dsimp only at hf hcp ⊢
  rcases hf with rfl | rfl | rfl
  all_goals
    unfold prepareDevice
    dsimp only
    rw [hcp]
    simp only [bind, Except.bind]
    rw [if_neg (not_not.mpr hpitch), ensureFollows_eq, ensureFollows_eq]
    split_ifs <;> rfl

/-- **Checked planes are copied or refused for their order.** Once a plane list
of a planar format checked as `views`, the session takes it exactly as
`PlanesCopied` says, and every other answer is a plane-order failure. -/
theorem prepare_of_coercePlanes_ok (copy : FrameCopy) (hf : PlanarFamily c.format)
    (hplanes : src.planes = some descs) (htensor : c.format = .nv12 ∨ c.format = .p010 → src.tensor = none)
    (hcp : c.coercePlanes src = .ok views) :
    (c.prepare src = .ok copy ↔ c.PlanesCopied views copy) ∧
      ∀ e, c.prepare src = .error e → ∃ i a b, e = .invalidPlaneOrder i a b := by
  obtain ⟨hlen, hv⟩ := (coercePlanes_eq_ok_iff hplanes).mp hcp
  rcases hf with hsemi | hthree
  · -- a luma plane and a chroma plane of the luma pitch
    have hcount : c.format.planeCount = 2 := by rcases hsemi with h | h <;> rw [h] <;> rfl
    rw [hcount] at hlen
    obtain ⟨d0, d1, rfl⟩ := List.length_eq_two.mp hlen
    obtain _ | ⟨h0, _ | ⟨h1, _ | _⟩⟩ := hv
    obtain ⟨l0, hl0, hp0⟩ := coerce_rowPitch h0
    obtain ⟨l1, hl1, hp1⟩ := coerce_rowPitch h1
    have hpitch := PlaneLayout.rowPitch_semiPlanar hsemi hl0 hl1
    rw [prepare_semiPlanar_eq hsemi hplanes (htensor hsemi) hcp (by rw [hp0, hp1, hpitch]),
      planesCopied_cons_iff hl0 hp0]
    split_ifs with h01
    · simp [h01, eq_comm]
    · simp [h01]
  · -- three planes, the chroma planes of one pitch
    have hcount : c.format.planeCount = 3 := by
      rcases hthree with h | h | h <;> rw [h] <;> rfl
    rw [hcount] at hlen
    obtain ⟨d0, d1, d2, rfl⟩ := List.length_eq_three.mp hlen
    obtain _ | ⟨h0, _ | ⟨h1, _ | ⟨h2, _ | _⟩⟩⟩ := hv
    obtain ⟨l0, hl0, hp0⟩ := coerce_rowPitch h0
    obtain ⟨l1, hl1, hp1⟩ := coerce_rowPitch h1
    obtain ⟨l2, hl2, hp2⟩ := coerce_rowPitch h2
    have hpitch := PlaneLayout.rowPitch_planar hthree hl1 hl2
    rw [prepare_threePlane_eq hthree hplanes hcp (by rw [hp1, hp2, hpitch]),
      planesCopied_cons_iff hl0 hp0]
    split_ifs with h01 h12
    · simp [h01, h12, eq_comm, h01.trans h12]
    · simp [h01, h12]
    · simp [h01]

end InputConfig

/-! ### The session's answer to a plane list -/

/-- **A plane list is taken exactly when its planes check and lie in order.**
For a session of a planar format, and a frame given as a list of array
interfaces (with no tensor beside them for NV12 and P010, which would take
precedence), the session takes the frame exactly when the list has one
interface per plane, each checks as the plane at its place, and the checked
planes start in plane order. The copy then reads from the first plane, with the
row pitch of the first plane's layout and the other planes at their
distances from it. The session's own pitch comparisons never fail, so a stride
mismatch it reports is always a plane declaring strides other than its
layout's. -/
theorem prepare_plane_list {c : InputConfig} {src : FrameSource} {descs : List ArrayInterface}
    (hf : c.format = .nv12 ∨ c.format = .p010 ∨ c.format = .yuv444 ∨ c.format = .yuv444P16 ∨
      c.format = .yv12)
    (hplanes : src.planes = some descs) (htensor : c.format = .nv12 ∨ c.format = .p010 → src.tensor = none)
    (copy : FrameCopy) :
    (c.prepare src = .ok copy ↔ descs.length = c.format.planeCount ∧ ∃ views,
        List.Forall₂ (fun (di : ArrayInterface × Nat) v =>
          coerce c.memory c.device di.1 c.format c.width c.height di.2 = .ok v) descs.zipIdx views ∧
        c.PlanesCopied views copy) ∧
    ∀ a b, c.prepare src = .error (.strideMismatch a b) →
      ∃ i desc l, descs[i]? = some desc ∧
        coerce c.memory c.device desc c.format c.width c.height i = .error (.strideMismatch a b) ∧
        PlaneLayout.resolve c.format c.width c.height i = .ok l ∧
        desc.strides = some b ∧ a = l.strides.toList ∧ b ≠ a := by
  have hfam : InputConfig.PlanarFamily c.format := or_assoc.mpr hf
  refine ⟨?_, fun a b h => ?_⟩
  · -- the list checks one way only, so the copy is of the views it checks as
    rw [InputConfig.checked_planes_iff hplanes]
    cases hcp : c.coercePlanes src with
    | error e => simp [InputConfig.prepare_of_coercePlanes_error hfam hplanes htensor hcp]
    | ok views => simp [(InputConfig.prepare_of_coercePlanes_ok copy hfam hplanes htensor hcp).1]
  · cases hcp : c.coercePlanes src with
    | error e =>
      rw [InputConfig.prepare_of_coercePlanes_error hfam hplanes htensor hcp] at h
      cases h
      rcases InputConfig.coercePlanes_eq_error hplanes hcp with ⟨-, he⟩ | ⟨i, desc, hdesc, hc⟩
      · cases he
      · obtain ⟨l, hl, hst, rfl, hne⟩ :=
          coerce_failsOnly_declaredStrides _ _ _ _ _ _ _ _ hc a b rfl
        exact ⟨i, desc, l, hdesc, hc, hl, hst, rfl, hne⟩
    | ok views =>
      -- past the checks of the planes, only their order can fail
      obtain ⟨i, a', b', he⟩ :=
        (InputConfig.prepare_of_coercePlanes_ok copy hfam hplanes htensor hcp).2 _ h
      cases he

/-- Three byte planes of a 4 by 2 frame at `0x1000`, `0x1100` and `0x1200`,
with no strides declared, handed to a planar 4:4:4 session. -/
theorem yuv444_plane_list_answer :
    let c : InputConfig := ⟨⟨0⟩, 0, .yuv444, 4, 2, false⟩
    let descs : List ArrayInterface :=
      [0x1000, 0x1100, 0x1200].map fun ptr => ⟨[2, 4, 1], none, "|u1", ptr, false, 3, none⟩
    let src : FrameSource := { planes := some descs }
    let copy : FrameCopy := ⟨.device 0x1000, 4, [0x100, 0x200], 4, 2, .yuv444⟩
    (c.format = .nv12 ∨ c.format = .p010 ∨ c.format = .yuv444 ∨ c.format = .yuv444P16 ∨
      c.format = .yv12) ∧ src.planes = some descs ∧
    (c.format = .nv12 ∨ c.format = .p010 → src.tensor = none) ∧
    (c.prepare src = .ok copy ↔ descs.length = c.format.planeCount ∧ ∃ views,
        List.Forall₂ (fun (di : ArrayInterface × Nat) v =>
          coerce c.memory c.device di.1 c.format c.width c.height di.2 = .ok v) descs.zipIdx views ∧
        c.PlanesCopied views copy) ∧
    ∀ a b, c.prepare src = .error (.strideMismatch a b) →
      ∃ i desc l, descs[i]? = some desc ∧
        coerce c.memory c.device desc c.format c.width c.height i = .error (.strideMismatch a b) ∧
        PlaneLayout.resolve c.format c.width c.height i = .ok l ∧
        desc.strides = some b ∧ a = l.strides.toList ∧ b ≠ a := by
  intro c descs src copy
  have hf : c.format = .nv12 ∨ c.format = .p010 ∨ c.format = .yuv444 ∨
      c.format = .yuv444P16 ∨ c.format = .yv12 := .inr (.inr (.inl rfl))
  exact ⟨hf, rfl, fun _ => rfl, prepare_plane_list hf rfl (fun _ => rfl) copy⟩

end VideoCodec
