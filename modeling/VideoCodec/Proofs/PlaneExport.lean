import Mathlib
import VideoCodec.Proofs.Handoff
/-!
# Exported planes read back as themselves

A caller hands a plane in as an array interface, and `coerce` checks it
against the layout of its plane; a checked plane hands itself out again as an
array interface (`PlaneView.arrayInterface`). The check is loose in three ways:
the strides may be left out, each sample type has four spellings, and the two
default streams 1 and 2 both mean no stream. The export is canonical in all
three: it writes the strides out, spells the sample type one way and writes the
normalised stream. This file proves that the export lands back among what the
check accepts, with nothing lost on the way:

* a checked plane is the layout of its plane at the caller's address, with the
  caller's read-only flag and the normalised stream (`coerce_eq_ok_iff`);
* checking the export of a plane that fits its layout gives the plane back
  (`coerce_arrayInterface_self`), so exporting and checking again is the
  identity on checked planes (`coerce_reimport`);
* a plane that `assemble` cuts fits its layout (`assemble_plane_fits`), so the
  identity holds for it too, unless its address is null or its stream is one
  that the check rewrites (`exported_planes_read_back`).

The stream is where a careless round trip changes a view: a plane on stream 1
or 2 comes back on no stream, and a plane on stream 0 does not come back.
-/

namespace VideoCodec

/-! ### Streams and devices -/

/-- Every address but null lives on the memory's one device. -/
theorem DeviceMemory.deviceOf_eq_ok {m : DeviceMemory} {ptr : Nat} {d : Int} :
    m.deviceOf ptr = .ok d ↔ ptr ≠ 0 ∧ d = m.ordinal := by
  unfold DeviceMemory.deviceOf
  by_cases hptr : ptr = 0
  · simp [hptr]
  · simp [hptr, eq_comm]

/-- Normalising keeps a stream exactly when it is none or a handle past the two
default streams. -/
theorem normalizeStream_eq_ok_self {s : Option Nat} :
    normalizeStream s = .ok s ↔ ∀ k, s = some k → 2 < k := by
  match s with
  | none => simp [normalizeStream]
  | some 0 => simp [normalizeStream]
  | some 1 => simp [normalizeStream]
  | some 2 => simp [normalizeStream]
  | some (k + 3) =>
    refine ⟨fun _ j hj => ?_, fun _ => rfl⟩
    cases hj
    omega

/-- A normalised stream is normalised already. -/
theorem normalizeStream_normalized {s s' : Option Nat} (h : normalizeStream s = .ok s') :
    normalizeStream s' = .ok s' := by
  match s, h with
  | none, h | some 1, h | some 2, h =>
    cases h
    rfl
  | some (k + 3), h =>
    cases h
    rfl

/-! ### What a check gives -/

section Check

variable {m : DeviceMemory} {device : Int} {desc : ArrayInterface} {f : PixelFormat}
  {w h p : Nat} {v : PlaneView}

/-- The last check of a plane: the address must live on the session's device,
and the plane is then placed on it. -/
theorem deviceCheck_returnsOnly (m : DeviceMemory) (device : Int) (ptr : Nat)
    (place : Int → PlaneView) :
    ReturnsOnly (m.deviceOf ptr >>= fun found =>
        if found ≠ device then
          MonadExcept.throw (CodecError.deviceMismatch device found) >>= fun (_ : Unit) =>
            pure (place found)
        else pure (place found))
      fun v => ptr ≠ 0 ∧ m.ordinal = device ∧ v = place device := by
  refine .bind (.self _) fun found hfound => .guard_passed fun hdev => .pure ?_
  obtain ⟨hdata, rfl⟩ := DeviceMemory.deviceOf_eq_ok.mp hfound
  exact ⟨hdata, not_not.mp hdev, by rw [not_not.mp hdev]⟩

/-- A checked plane passed every check: its plane has a layout, its stream is
allowed, its type string, shape and any strides it declares agree with the
layout, and its address is not null and on the session's device. It is then
that layout at the caller's address, with the caller's read-only flag and the
normalised stream. -/
theorem coerce_returnsOnly (m : DeviceMemory) (device : Int) (desc : ArrayInterface)
    (f : PixelFormat) (w h p : Nat) :
    ReturnsOnly (coerce m device desc f w h p) fun v => ∃ l s,
      PlaneLayout.resolve f w h p = .ok l ∧ normalizeStream desc.stream = .ok s ∧
      desc.data ≠ 0 ∧ m.ordinal = device ∧ l.element.accepts desc.typestr = true ∧
      desc.shape = l.shape.toList ∧ (∀ st, desc.strides = some st → st = l.strides.toList) ∧
      v = { PlaneView.ofLayout l desc.data s device with readOnly := desc.readOnly } := by
  unfold coerce
  refine .bind (.self _) fun l hl => .bind (.self _) fun s hs =>
    .guard_passed fun haccept => .guard_passed fun hshape => ?_
  simp only [Bool.not_eq_true', Bool.not_eq_false, not_not] at haccept hshape
  dsimp only
  -- declared strides are checked, absent ones are not; both ways meet at the device check
  split
  · rename_i st hst
    refine .guard_passed fun hstrides => (deviceCheck_returnsOnly m device desc.data _).mono
      fun v ⟨hdata, hdev, hv⟩ => ⟨l, s, hl, hs, hdata, hdev, haccept, hshape, fun st' hst' => ?_, hv⟩
    rw [hst] at hst'
    cases hst'
    exact not_not.mp hstrides
  · rename_i hst
    refine (deviceCheck_returnsOnly m device desc.data _).mono
      fun v ⟨hdata, hdev, hv⟩ => ⟨l, s, hl, hs, hdata, hdev, haccept, hshape, fun st' hst' => ?_, hv⟩
    rw [hst] at hst'
    cases hst'

/-- **What a check accepts.** A plane is checked exactly when its plane has a
layout, its stream is allowed, its address is not null and the memory's device
is the session's, and its type string, shape and any strides it declares agree
with the layout; the checked plane is then that layout at the caller's address,
with the caller's read-only flag and the normalised stream. -/
theorem coerce_eq_ok_iff :
    coerce m device desc f w h p = .ok v ↔ ∃ l s,
      PlaneLayout.resolve f w h p = .ok l ∧ normalizeStream desc.stream = .ok s ∧
      desc.data ≠ 0 ∧ m.ordinal = device ∧ l.element.accepts desc.typestr = true ∧
      desc.shape = l.shape.toList ∧ (∀ st, desc.strides = some st → st = l.strides.toList) ∧
      v = { PlaneView.ofLayout l desc.data s device with readOnly := desc.readOnly } := by
  refine ⟨coerce_returnsOnly m device desc f w h p v, ?_⟩
  rintro ⟨l, s, hl, hs, hdata, rfl, haccept, hshape, hstrides, rfl⟩
  unfold coerce
  cases hst : desc.strides with
  | none =>
    simp [hl, hs, haccept, hshape, DeviceMemory.deviceOf, hdata, bind, Except.bind, pure,
      Except.pure]
  | some st =>
    simp [hl, hs, haccept, hshape, hstrides st hst, DeviceMemory.deviceOf, hdata, bind,
      Except.bind, pure, Except.pure]

end Check

/-! ### Checking an export -/

section Export

variable {m : DeviceMemory} {device : Int} {f : PixelFormat} {w h p : Nat} {v : PlaneView}

/-- **Checking the export of a plane that fits its layout gives the plane
back**: a plane with the layout of its plane, a non-null address, a stream
that normalising keeps, and the session's device, which is the memory's. -/
theorem coerce_arrayInterface_self (hl : PlaneLayout.resolve f w h p = .ok v.layout)
    (hdata : v.data ≠ 0) (hs : normalizeStream v.stream = .ok v.stream)
    (hmem : m.ordinal = device) (hdev : v.device = device) :
    coerce m device v.arrayInterface f w h p = .ok v := by
  refine coerce_eq_ok_iff.mpr ⟨v.layout, v.stream, hl, hs, hdata, hmem, ?_, rfl, ?_, ?_⟩
  · exact ElementType.accepts_typestr v.element
  · intro st hst
    cases hst
    rfl
  · obtain ⟨shape, strides, element, stream, data, readOnly, d⟩ := v
    cases hdev
    rfl

/-- **Exporting a checked plane and checking it again gives it back.** -/
theorem coerce_reimport {desc : ArrayInterface} (hv : coerce m device desc f w h p = .ok v) :
    coerce m device v.arrayInterface f w h p = .ok v := by
  obtain ⟨l, s, hl, hs, hdata, hmem, -, -, -, rfl⟩ := coerce_eq_ok_iff.mp hv
  exact coerce_arrayInterface_self hl hdata (normalizeStream_normalized hs) hmem rfl

end Export

/-! ### The planes of an assembled frame -/

/-- An entry of a zip of two related lists comes from related entries at the
same place. -/
theorem getElem?_zipWith_of_forall₂ {α β γ : Type} {R : α → β → Prop} {g : α → β → γ}
    {as : List α} {bs : List β} (hab : List.Forall₂ R as bs) {i : Nat} {c : γ}
    (hc : (List.zipWith g as bs)[i]? = some c) :
    ∃ a b, as[i]? = some a ∧ R a b ∧ c = g a b := by
  induction hab generalizing i with
  | nil => simp at hc
  | cons hr _ ih =>
    cases i with
    | zero =>
      simp only [List.zipWith_cons_cons, List.getElem?_cons_zero, Option.some.injEq] at hc
      exact ⟨_, _, rfl, hr, hc.symm⟩
    | succ i =>
      rw [List.zipWith_cons_cons, List.getElem?_cons_succ] at hc
      obtain ⟨a, b, ha, hrab, rfl⟩ := ih hc
      exact ⟨a, b, by simpa using ha, hrab, rfl⟩

/-- **A plane that `assemble` cuts fits its layout**: plane `p` of an assembled
frame has the layout of plane `p`, the frame's stream and the frame's device. -/
theorem assemble_plane_fits {ptr : Nat} {f : PixelFormat} {w h : Nat} {ts : Int}
    {s : Option Nat} {d : Int} {fd : FrameDescriptor} {p : Nat} {v : PlaneView}
    (hfd : assemble ptr f w h ts s d = .ok fd) (hv : fd.planes[p]? = some v) :
    PlaneLayout.resolve f w h p = .ok v.layout ∧ v.stream = s ∧ v.device = d := by
  obtain ⟨layouts, hlay, -, -, rfl⟩ := assemble_planes ptr f w h ts s d fd hfd
  obtain ⟨q, l, hq, hl, rfl⟩ := getElem?_zipWith_of_forall₂ hlay hv
  -- the entry at place `p` of the plane indices is `p` itself
  have hpq : q = p := by
    have hp : p < f.planeCount := by
      have := (List.getElem?_eq_some_iff.mp hq).1
      simpa using this
    rw [List.getElem?_range hp] at hq
    exact (Option.some.inj hq).symm
  subst hpq
  exact ⟨hl, rfl, rfl⟩

/-- **Exported planes read back as themselves.** For a session on device `d`
whose memory puts every non-null address on `d`, and every format, size and
plane index: a plane that the check accepts has the layout of its plane, the
caller's address and read-only flag and the normalised stream, and checking
its export gives it back; and checking the export of a plane of a frame that
`assemble` cuts on `d` gives that plane back, when its address is not null and
its stream is none or a handle past the default streams 1 and 2. -/
theorem exported_planes_read_back (d : Int) (f : PixelFormat) (w h p : Nat) :
    (∀ desc v, coerce ⟨d⟩ d desc f w h p = .ok v →
      PlaneLayout.resolve f w h p = .ok v.layout ∧ v.data = desc.data ∧
        v.readOnly = desc.readOnly ∧ normalizeStream desc.stream = .ok v.stream ∧
        coerce ⟨d⟩ d v.arrayInterface f w h p = .ok v) ∧
    (∀ ptr ts s fd v, assemble ptr f w h ts s d = .ok fd → fd.planes[p]? = some v →
      v.data ≠ 0 → (∀ k, v.stream = some k → 2 < k) →
        coerce ⟨d⟩ d v.arrayInterface f w h p = .ok v) := by
  refine ⟨fun desc v hv => ?_, fun ptr ts s fd v hfd hv hdata hs => ?_⟩
  · obtain ⟨l, s, hl, hs, -, -, -, -, -, rfl⟩ := coerce_eq_ok_iff.mp hv
    exact ⟨hl, rfl, rfl, hs, coerce_reimport hv⟩
  · obtain ⟨hl, -, hdev⟩ := assemble_plane_fits hfd hv
    exact coerce_arrayInterface_self hl hdata (normalizeStream_eq_ok_self.mpr hs) rfl hdev

/-- An NV12 luma plane declared loosely, on the default stream 2 and without
strides, reads back from its export; so does the chroma plane of an assembled
NV12 frame on stream 77. -/
theorem exported_nv12_planes_read_back :
    (∃ v, coerce ⟨0⟩ 0 ⟨[32, 64, 1], none, "B", 0x100000, true, 3, some 2⟩ .nv12 64 32 0 = .ok v ∧
      PlaneLayout.resolve .nv12 64 32 0 = .ok v.layout ∧ v.data = 0x100000 ∧
      v.readOnly = true ∧ normalizeStream (some 2) = .ok v.stream ∧
      coerce ⟨0⟩ 0 v.arrayInterface .nv12 64 32 0 = .ok v) ∧
    (∃ fd v, assemble 0x100000 .nv12 64 32 7 (some 77) 0 = .ok fd ∧ fd.planes[1]? = some v ∧
      v.data ≠ 0 ∧ (∀ k, v.stream = some k → 2 < k) ∧
      coerce ⟨0⟩ 0 v.arrayInterface .nv12 64 32 1 = .ok v) := by
  obtain ⟨v, hv⟩ : ∃ v, coerce ⟨0⟩ 0 ⟨[32, 64, 1], none, "B", 0x100000, true, 3, some 2⟩
      .nv12 64 32 0 = .ok v := ⟨_, rfl⟩
  obtain ⟨fd, hfd⟩ : ∃ fd, assemble 0x100000 .nv12 64 32 7 (some 77) 0 = .ok fd := ⟨_, rfl⟩
  obtain ⟨u, hu⟩ : ∃ u, fd.planes[1]? = some u := by
    cases hfd
    exact ⟨_, rfl⟩
  have hdata : u.data ≠ 0 := by
    cases hfd
    cases hu
    decide
  have hstream : ∀ k, u.stream = some k → 2 < k := by
    cases hfd
    cases hu
    intro k hk
    cases hk
    decide
  exact ⟨⟨v, hv, (exported_planes_read_back 0 .nv12 64 32 0).1 _ v hv⟩,
    ⟨fd, u, hfd, hu, hdata, hstream,
      (exported_planes_read_back 0 .nv12 64 32 1).2 _ _ _ fd u hfd hu hdata hstream⟩⟩

end VideoCodec
