import Mathlib
import VideoCodec.Frame.Descriptor
import VideoCodec.Frame.Input
import VideoCodec.Proofs.PlaneBytes
/-!
# Decoded frames handed back to the encoder

A frame the decoder hands out is one address cut into planes (`assemble`): plane
`p` has the layout the format gives it and starts after the planes before it, at
the running sums of their sizes (`planeOffsets`). This file follows such a frame
back into an encoder session of its format, size and device, handed over plane
by plane through the array-interface protocol (`FrameDescriptor.planeSource`),
or for NV12 as the one tensor of all its rows (`FrameDescriptor.coalesce`). The
session takes it and copies from the frame's address, with the row pitch of the
first plane and the chroma planes where the layout puts them: the same pitch
and offsets it uses for a frame in a host buffer
(`assembled_frame_prepares_as_laid_out`).

| step | what it does | lemma |
|---|---|---|
| cutting a frame | plane `p` at the address plus the offset of `p` | `assemble_planes` |
| checking one exported plane | gives the plane back | `coerce_arrayInterface` |
| one family of formats | the copy of its planes | `InputConfig.prepareDevice_packed`, `_semiPlanar`, `_planar` |
| the frame handed back | the copy from its address | `prepare_laidOut` |
| a host buffer | the copy at the layout's offsets | `InputConfig.prepareHost_of_offsets` |
| one tensor | the copy of its rows | `InputConfig.prepareTensor_dlpack` |

Only one frame that `assemble` builds is refused: a three-plane 4:2:0 frame
narrower or shorter than two pixels, whose chroma planes are empty, so that the
second starts where the first does and fails the plane-order check.
-/

namespace VideoCodec

/-! ### Maps over lists -/

namespace ReturnsOnly

variable {α : Type}

/-- A computation returns only what it returns. -/
theorem self (x : Except CodecError α) : ReturnsOnly x (x = .ok ·) :=
  fun _ h => h

/-- A map over a list returns, element by element, what the mapped function
returns. -/
theorem mapM {γ : Type} {R : γ → α → Prop} {f : γ → Except CodecError α}
    (hf : ∀ a, ReturnsOnly (f a) (R a)) :
    ∀ xs : List γ, ReturnsOnly (xs.mapM f) (List.Forall₂ R xs)
  | [] => pure .nil
  | a :: as => by
    rw [List.mapM_cons]
    exact bind (hf a) fun b hb => bind (mapM hf as) fun bs hbs => pure (.cons hb hbs)

end ReturnsOnly

/-- A map over a list that succeeds element by element succeeds. -/
theorem mapM_eq_ok_of_forall₂ {α γ : Type} {g : γ → Except CodecError α} {xs : List γ}
    {ys : List α} (h : List.Forall₂ (fun a b => g a = .ok b) xs ys) : xs.mapM g = .ok ys := by
  induction h with
  | nil => rfl
  | cons ha _ ih =>
    rw [List.mapM_cons, ha, ih]
    rfl

/-! ### Layouts -/

namespace PlaneLayout

variable {f : PixelFormat} {w h p : Nat} {l l0 l1 l2 : PlaneLayout}

/-- A layout is only given for a frame with both sizes nonzero. -/
theorem ne_zero_of_resolve (hl : resolve f w h p = .ok l) : w ≠ 0 ∧ h ≠ 0 := by
  unfold resolve at hl
  split_ifs at hl with hwh
  exact not_or.mp hwh

/-- The formats with a layout, by family: packed, semi-planar 4:2:0 and
three-plane. -/
theorem format_cases_of_resolve (hl : resolve f w h p = .ok l) :
    (f = .argb ∨ f = .abgr) ∨ (f = .nv12 ∨ f = .p010) ∨
      (f = .yuv444 ∨ f = .yuv444P16 ∨ f = .yv12) := by
  unfold resolve at hl
  split_ifs at hl with _ hf
  cases f <;> simp_all

/-- The first plane spans the frame: a row per line and a column per pixel. -/
theorem resolve_zero_shape (hl : resolve f w h 0 = .ok l) :
    l.shape.rows = h ∧ l.shape.cols = w ∧ 0 < l.shape.comps := by
  unfold resolve at hl
  split_ifs at hl
  cases hl
  cases f <;> simp

/-- The first plane of a frame is never empty. -/
theorem bytes_pos_of_resolve_zero (hl : resolve f w h 0 = .ok l) : 0 < l.bytes := by
  obtain ⟨hw, hh⟩ := ne_zero_of_resolve hl
  obtain ⟨hrows, hcols, hcomps⟩ := resolve_zero_shape hl
  unfold bytes
  rw [hrows, hcols]
  have := l.element.size_pos
  positivity

/-- The interleaved chroma plane of a semi-planar format has the luma row
pitch. -/
theorem rowPitch_semiPlanar (hf : f = .nv12 ∨ f = .p010) (h0 : resolve f w h 0 = .ok l0)
    (h1 : resolve f w h 1 = .ok l1) : l0.strides.rows = l1.strides.rows := by
  unfold resolve at h0 h1
  split_ifs at h0 h1
  cases h0
  cases h1
  rcases hf with rfl | rfl <;> rfl

/-- The two chroma planes of a three-plane format have one row pitch. -/
theorem rowPitch_planar (hf : f = .yuv444 ∨ f = .yuv444P16 ∨ f = .yv12)
    (h1 : resolve f w h 1 = .ok l1) (h2 : resolve f w h 2 = .ok l2) :
    l1.strides.rows = l2.strides.rows := by
  unfold resolve at h1 h2
  split_ifs at h1 h2
  cases h1
  cases h2
  rcases hf with rfl | rfl | rfl <;> rfl

/-- The first chroma plane of a three-plane format is not empty, unless a
4:2:0 frame is narrower or shorter than two pixels. -/
theorem bytes_pos_planar (hf : f = .yuv444 ∨ f = .yuv444P16 ∨ f = .yv12)
    (hchroma : f = .yv12 → 2 ≤ w ∧ 2 ≤ h) (h1 : resolve f w h 1 = .ok l1) :
    0 < l1.bytes := by
  obtain ⟨hw, hh⟩ := ne_zero_of_resolve h1
  unfold resolve at h1
  split_ifs at h1
  cases h1
  rcases hf with rfl | rfl | rfl
  all_goals
    simp [bytes, PixelFormat.element, ElementType.size] at hchroma ⊢
    omega

/-- The NV12 luma plane: `h` rows of `w` bytes. -/
theorem resolve_nv12_zero (hl : resolve .nv12 w h 0 = .ok l) :
    l = ⟨⟨h, w, 1⟩, ⟨w, 1, 1⟩, .u8⟩ := by
  unfold resolve at hl
  split_ifs at hl
  cases hl
  rfl

end PlaneLayout

/-! ### Cutting a frame into planes -/

section Assemble

variable {f : PixelFormat} {w h p ptr : Nat} {ts : Int} {s : Option Nat} {d : Int}
  {offsets : List Nat} {l : PlaneLayout} {layouts : List PlaneLayout}

/-- The offsets strictly between the first and the last: the starts of every
plane after the first. -/
theorem runningSums_inner {a n : Nat} {xs : List Nat} (hlen : xs.length = n) :
    ((runningSums a xs).drop 1).dropLast = ((runningSums a xs).take n).drop 1 := by
  rw [List.dropLast_drop_eq_drop_dropLast, List.dropLast_eq_take, runningSums_length, hlen,
    Nat.add_sub_cancel]

/-- The plane offsets of a format are those of the layouts of its planes,
laid back to back from zero. -/
theorem planeOffsets_layouts (f : PixelFormat) (w h : Nat) :
    ReturnsOnly (planeOffsets f w h) fun offsets => ∃ layouts,
      List.Forall₂ (fun p l => PlaneLayout.resolve f w h p = .ok l)
        (List.range f.planeCount) layouts ∧
      offsetsFrom 0 layouts = .ok offsets := by
  unfold planeOffsets
  refine .ite (.error _) ?_
  exact .bind (.mapM (fun p => .self (PlaneLayout.resolve f w h p)) _) fun layouts hlay =>
    fun offsets hoff => ⟨layouts, hlay, hoff⟩

/-- A format with plane offsets has planes. -/
theorem planeCount_ne_zero_of_planeOffsets (hoff : planeOffsets f w h = .ok offsets) :
    f.planeCount ≠ 0 := by
  intro hn
  rw [planeOffsets, if_pos hn] at hoff
  cases hoff

/-- A format with plane offsets has a first plane, and lays it out. -/
theorem layouts_cons (hoff : planeOffsets f w h = .ok offsets)
    (hlay : List.Forall₂ (fun p l => PlaneLayout.resolve f w h p = .ok l)
      (List.range f.planeCount) layouts) :
    ∃ l0 ls, layouts = l0 :: ls ∧ PlaneLayout.resolve f w h 0 = .ok l0 := by
  obtain ⟨n, hn⟩ := Nat.exists_eq_succ_of_ne_zero (planeCount_ne_zero_of_planeOffsets hoff)
  rw [hn, List.range_succ_eq_map] at hlay
  obtain _ | ⟨h0, -⟩ := hlay
  exact ⟨_, _, rfl, h0⟩

theorem frameSize_of_planeOffsets (hoff : planeOffsets f w h = .ok offsets) :
    frameSize f w h = .ok (offsets.getLastD 0) := by
  rw [frameSize, hoff]
  rfl

/-- A plane is only placed below the largest address. -/
theorem placePlane_below (ptr : Nat) (f : PixelFormat) (w h : Nat) (s : Option Nat) (d : Int)
    (offsets : List Nat) (p : Nat) :
    ReturnsOnly (placePlane ptr f w h s d offsets p) fun _ =>
      ptr + offsets.getD p 0 < addressLimit := by
  unfold placePlane
  refine .bind (.any _) fun _ _ => ?_
  dsimp only
  split
  · exact .pure ‹_›
  · exact .throw _

theorem placePlane_of_resolve (hl : PlaneLayout.resolve f w h p = .ok l) :
    ReturnsOnly (placePlane ptr f w h s d offsets p)
      (· = PlaneView.ofLayout l (ptr + offsets.getD p 0) s d) := by
  unfold placePlane
  refine .bind (.of_eq hl) fun l' hl' => ?_
  subst hl'
  exact .ite (.pure rfl) (.throw _)

/-- Planes placed one by one are their layouts at their offsets. -/
theorem placed_planes {ps : List Nat} {planes : List PlaneView}
    (hlay : List.Forall₂ (fun p l => PlaneLayout.resolve f w h p = .ok l) ps layouts)
    (hpl : List.Forall₂ (fun p v => placePlane ptr f w h s d offsets p = .ok v) ps planes) :
    planes =
      List.zipWith (fun p l => PlaneView.ofLayout l (ptr + offsets.getD p 0) s d) ps layouts := by
  induction hlay generalizing planes with
  | nil =>
    cases hpl
    rfl
  | cons hl _ ih =>
    cases hpl with
    | cons hv hrest =>
      rw [List.zipWith_cons_cons, placePlane_of_resolve hl _ hv, ih hrest]

/-- The frame cut at `ptr` along the layouts of its planes: plane `p` has
layout `layouts[p]` and starts after the planes before it. -/
def FrameDescriptor.laidOut (ts : Int) (f : PixelFormat) (w h ptr : Nat) (s : Option Nat)
    (d : Int) (layouts : List PlaneLayout) : FrameDescriptor :=
  { timestamp := ts, format := f, width := w, height := h,
    planes := List.zipWith (fun p l => PlaneView.ofLayout l
      (ptr + (runningSums 0 (layouts.map PlaneLayout.bytes)).getD p 0) s d)
      (List.range f.planeCount) layouts }

/-- **What `assemble` builds**: the frame laid out along the layouts the
format gives its planes. -/
theorem assemble_planes (ptr : Nat) (f : PixelFormat) (w h : Nat) (ts : Int)
    (s : Option Nat) (d : Int) :
    ReturnsOnly (assemble ptr f w h ts s d) fun fd => ∃ layouts,
      List.Forall₂ (fun p l => PlaneLayout.resolve f w h p = .ok l)
        (List.range f.planeCount) layouts ∧
      planeOffsets f w h = .ok (runningSums 0 (layouts.map PlaneLayout.bytes)) ∧
      offsetsFrom 0 layouts = .ok (runningSums 0 (layouts.map PlaneLayout.bytes)) ∧
      fd = FrameDescriptor.laidOut ts f w h ptr s d layouts := by
  unfold assemble
  refine .bind (.self (planeOffsets f w h)) fun offsets hoff => ?_
  obtain ⟨layouts, hlay, hfrom⟩ := planeOffsets_layouts f w h offsets hoff
  obtain ⟨rfl, -⟩ := offsetsFrom_eq_ok (by decide) hfrom
  refine .bind (.mapM (fun p => .self _) _) fun planes hpl => .pure ⟨layouts, hlay, hoff, hfrom, ?_⟩
  rw [placed_planes hlay hpl]
  rfl

/-- A frame with planes is only cut at an address below the largest. -/
theorem ptr_lt_of_assemble {fd : FrameDescriptor} (hasm : assemble ptr f w h ts s d = .ok fd) :
    ptr < addressLimit := by
  unfold assemble at hasm
  obtain ⟨offsets, hoff, hasm⟩ := bind_eq_ok_iff.mp hasm
  obtain ⟨planes, hpl, -⟩ := bind_eq_ok_iff.mp hasm
  obtain ⟨n, hn⟩ := Nat.exists_eq_succ_of_ne_zero (planeCount_ne_zero_of_planeOffsets hoff)
  rw [hn, List.range_succ_eq_map, List.mapM_cons] at hpl
  obtain ⟨v, hv, -⟩ := bind_eq_ok_iff.mp hpl
  have := placePlane_below ptr f w h s d offsets 0 v hv
  omega

end Assemble

/-! ### Checking the planes of a frame -/

/-- A frame handed over plane by plane, as the array-interface protocol
carries it: the interface of its one plane for a packed format, the
interfaces of its planes in order otherwise. -/
def FrameDescriptor.planeSource (fd : FrameDescriptor) : FrameSource :=
  if fd.format.isPacked then { array := fd.planes.head?.map PlaneView.arrayInterface }
  else { planes := some (fd.planes.map PlaneView.arrayInterface) }

/-- Every stream but the forbidden one is accepted. -/
theorem normalizeStream_ok {s : Option Nat} (hs : s ≠ some 0) :
    ∃ s', normalizeStream s = .ok s' := by
  match s, hs with
  | none, _ => exact ⟨none, rfl⟩
  | some 0, hs => exact absurd rfl hs
  | some 1, _ => exact ⟨none, rfl⟩
  | some 2, _ => exact ⟨none, rfl⟩
  | some (n + 3), _ => exact ⟨some (n + 3), rfl⟩

/-- **A plane checked against its own layout** comes back as it was exported,
with its stream normalised and on the session's device. -/
theorem coerce_arrayInterface {f : PixelFormat} {w h p data : Nat} {l : PlaneLayout}
    {s s' : Option Nat} {m : DeviceMemory} {device : Int}
    (hl : PlaneLayout.resolve f w h p = .ok l) (hdata : data ≠ 0)
    (hs : normalizeStream s = .ok s') (hdev : m.ordinal = device) (dev : Int) :
    coerce m device (PlaneView.ofLayout l data s dev).arrayInterface f w h p =
      .ok (PlaneView.ofLayout l data s' device) := by
  subst hdev
  simp [coerce, hl, hs, PlaneView.ofLayout, PlaneView.arrayInterface,
    ElementType.accepts_typestr, DeviceMemory.deviceOf, hdata, bind, Except.bind, pure,
    Except.pure]

theorem ensureFollows_of_lt {i : Nat} {prev next : PlaneView} (h : prev.data < next.data) :
    ensureFollows i prev next = .ok () := by
  rw [ensureFollows, if_neg (Nat.not_le.mpr h)]

namespace InputConfig

variable {c : InputConfig} {ptr : Nat} {s s' : Option Nat} {l0 l1 l2 : PlaneLayout}

theorem coercePlanes_of_forall₂ {descs : List ArrayInterface} {views : List PlaneView}
    (hlen : descs.length = c.format.planeCount)
    (hv : List.Forall₂ (fun (di : ArrayInterface × Nat) v =>
      coerce c.memory c.device di.1 c.format c.width c.height di.2 = .ok v) descs.zipIdx views) :
    c.coercePlanes { planes := some descs } = .ok views := by
  unfold coercePlanes
  dsimp only
  rw [if_neg (not_not.mpr hlen)]
  exact mapM_eq_ok_of_forall₂ hv

theorem prepare_of_device {src : FrameSource}
    (h : (src.array.isSome || src.planes.isSome || src.tensor.isSome) = true) :
    c.prepare src = c.prepareDevice src := by
  rw [prepare, if_pos h]

theorem prepare_host (hhost : c.hostInput = true) (len : Nat) :
    c.prepare { host := some len } = c.prepareHost len := by
  simp [prepare, hhost]

/-- A host buffer that holds the frame is copied with the first plane's row
pitch and the starts of the other planes. -/
theorem prepareHost_of_offsets {offsets : List Nat} {len : Nat}
    (hoff : planeOffsets c.format c.width c.height = .ok offsets)
    (h0 : PlaneLayout.resolve c.format c.width c.height 0 = .ok l0)
    (hlen : offsets.getLastD 0 ≤ len) :
    c.prepareHost len =
      .ok { source := .host len, srcPitch := l0.strides.rows,
            chromaOffsets := (offsets.drop 1).dropLast, width := c.width, height := c.height,
            format := c.format } := by
  unfold prepareHost
  rw [hoff]
  dsimp only [bind, Except.bind]
  rw [if_neg (Nat.not_lt.mpr hlen), h0]
  rfl

/-- A tensor of the session's device, sample width and row count is copied
from its address, with its row stride as pitch and the chroma rows after the
luma rows, when its address, its pitch and the luma plane fit a word. -/
theorem prepareTensor_dlpack (t : TensorView) (hdev : t.device = c.device)
    (hbits : t.element.bits = c.format.element.bits) (hrows : t.rows = c.height * 3 / 2)
    (hdata : t.data < Text.limitU64) (hpitch : t.rowStride * c.format.element.size < Text.limitU64)
    (hluma : c.width * c.height * c.format.element.size < Text.limitU64) :
    c.prepareTensor t.dlpack =
      .ok { source := .device t.data, srcPitch := t.rowStride * c.format.element.size,
            chromaOffsets := [c.width * c.height * c.format.element.size], width := c.width,
            height := c.height, format := c.format } := by
  have hsamples : c.width * c.height < Text.limitU64 :=
    Nat.lt_of_le_of_lt (Nat.le_mul_of_pos_right _ c.format.element.size_pos) hluma
  simp [prepareTensor, TensorView.dlpack, hdev, hbits, hrows, clampToNat,
    DlDeviceType.isCudaAccessible, DlDataType.ofElement, Word.add_of_lt, Word.mul_of_lt, hdata,
    hpitch, hsamples, hluma, bind, Except.bind, pure, Except.pure]
  omega

section Device

/-! Planes exported at their layouts, back to back from a non-null address, to
a session whose device memory is its own device. Each format family takes its
own branch of `prepareDevice`; the config is taken apart before the format is
fixed, so that the branch and the copy it builds name the same format. -/

variable (hdev : c.memory.ordinal = c.device) (hptr : ptr ≠ 0)
  (hs : normalizeStream s = .ok s')
include hdev hptr hs

theorem prepareDevice_packed (hf : c.format = .argb ∨ c.format = .abgr)
    (h0 : PlaneLayout.resolve c.format c.width c.height 0 = .ok l0) (dev : Int) :
    c.prepareDevice { array := some (PlaneView.ofLayout l0 ptr s dev).arrayInterface } =
      .ok { source := .device ptr, srcPitch := l0.strides.rows, chromaOffsets := [],
            width := c.width, height := c.height, format := c.format } := by
  obtain ⟨m, device, f, w, h, host⟩ := c
  have hv := coerce_arrayInterface h0 hptr hs hdev dev
  dsimp only at hf hv ⊢
  rcases hf with rfl | rfl
  all_goals
    unfold prepareDevice
    dsimp only
    rw [hv]
    rfl

theorem prepareDevice_semiPlanar (hf : c.format = .nv12 ∨ c.format = .p010)
    (h0 : PlaneLayout.resolve c.format c.width c.height 0 = .ok l0)
    (h1 : PlaneLayout.resolve c.format c.width c.height 1 = .ok l1) (dev : Int) :
    c.prepareDevice { planes := some [(PlaneView.ofLayout l0 ptr s dev).arrayInterface,
        (PlaneView.ofLayout l1 (ptr + l0.bytes) s dev).arrayInterface] } =
      .ok { source := .device ptr, srcPitch := l0.strides.rows, chromaOffsets := [l0.bytes],
            width := c.width, height := c.height, format := c.format } := by
  have hpos := PlaneLayout.bytes_pos_of_resolve_zero h0
  have hplanes : c.coercePlanes { planes := some [(PlaneView.ofLayout l0 ptr s dev).arrayInterface,
      (PlaneView.ofLayout l1 (ptr + l0.bytes) s dev).arrayInterface] } =
      .ok [PlaneView.ofLayout l0 ptr s' c.device,
        PlaneView.ofLayout l1 (ptr + l0.bytes) s' c.device] := by
    refine coercePlanes_of_forall₂ ?_ (.cons ?_ (.cons ?_ .nil))
    · rcases hf with hf | hf <;> rw [hf] <;> rfl
    · exact coerce_arrayInterface h0 hptr hs hdev dev
    · exact coerce_arrayInterface h1 (by omega) hs hdev dev
  have hpitch : (PlaneView.ofLayout l0 ptr s' c.device).rowPitch =
      (PlaneView.ofLayout l1 (ptr + l0.bytes) s' c.device).rowPitch :=
    PlaneLayout.rowPitch_semiPlanar hf h0 h1
  -- the luma plane is never empty, so the chroma plane starts after it
  have hfollows : ensureFollows 1 (PlaneView.ofLayout l0 ptr s' c.device)
      (PlaneView.ofLayout l1 (ptr + l0.bytes) s' c.device) = .ok () :=
    ensureFollows_of_lt (by simp [PlaneView.ofLayout]; omega)
  obtain ⟨m, device, f, w, h, host⟩ := c
  dsimp only at hf hplanes hpitch hfollows ⊢
  rcases hf with rfl | rfl
  all_goals
    unfold prepareDevice
    dsimp only
    rw [hplanes]
    simp only [bind, Except.bind]
    rw [if_neg (not_not.mpr hpitch), hfollows]
    simp [deviceCopy, PlaneView.ofLayout, PlaneView.rowPitch]
    rfl

theorem prepareDevice_planar (hf : c.format = .yuv444 ∨ c.format = .yuv444P16 ∨ c.format = .yv12)
    (h0 : PlaneLayout.resolve c.format c.width c.height 0 = .ok l0)
    (h1 : PlaneLayout.resolve c.format c.width c.height 1 = .ok l1)
    (h2 : PlaneLayout.resolve c.format c.width c.height 2 = .ok l2) (hpos1 : 0 < l1.bytes)
    (dev : Int) :
    c.prepareDevice { planes := some [(PlaneView.ofLayout l0 ptr s dev).arrayInterface,
        (PlaneView.ofLayout l1 (ptr + l0.bytes) s dev).arrayInterface,
        (PlaneView.ofLayout l2 (ptr + (l0.bytes + l1.bytes)) s dev).arrayInterface] } =
      .ok { source := .device ptr, srcPitch := l0.strides.rows,
            chromaOffsets := [l0.bytes, l0.bytes + l1.bytes],
            width := c.width, height := c.height, format := c.format } := by
  have hpos0 := PlaneLayout.bytes_pos_of_resolve_zero h0
  have hplanes : c.coercePlanes { planes := some [(PlaneView.ofLayout l0 ptr s dev).arrayInterface,
      (PlaneView.ofLayout l1 (ptr + l0.bytes) s dev).arrayInterface,
      (PlaneView.ofLayout l2 (ptr + (l0.bytes + l1.bytes)) s dev).arrayInterface] } =
      .ok [PlaneView.ofLayout l0 ptr s' c.device,
        PlaneView.ofLayout l1 (ptr + l0.bytes) s' c.device,
        PlaneView.ofLayout l2 (ptr + (l0.bytes + l1.bytes)) s' c.device] := by
    refine coercePlanes_of_forall₂ ?_ (.cons ?_ (.cons ?_ (.cons ?_ .nil)))
    · rcases hf with hf | hf | hf <;> rw [hf] <;> rfl
    · exact coerce_arrayInterface h0 hptr hs hdev dev
    · exact coerce_arrayInterface h1 (by omega) hs hdev dev
    · exact coerce_arrayInterface h2 (by omega) hs hdev dev
  have hpitch : (PlaneView.ofLayout l1 (ptr + l0.bytes) s' c.device).rowPitch =
      (PlaneView.ofLayout l2 (ptr + (l0.bytes + l1.bytes)) s' c.device).rowPitch :=
    PlaneLayout.rowPitch_planar hf h1 h2
  -- both chroma planes start after the plane before them: neither that plane is empty
  have hfollows1 : ensureFollows 1 (PlaneView.ofLayout l0 ptr s' c.device)
      (PlaneView.ofLayout l1 (ptr + l0.bytes) s' c.device) = .ok () :=
    ensureFollows_of_lt (by simp [PlaneView.ofLayout]; omega)
  have hfollows2 : ensureFollows 2 (PlaneView.ofLayout l1 (ptr + l0.bytes) s' c.device)
      (PlaneView.ofLayout l2 (ptr + (l0.bytes + l1.bytes)) s' c.device) = .ok () :=
    ensureFollows_of_lt (by simp [PlaneView.ofLayout]; omega)
  obtain ⟨m, device, f, w, h, host⟩ := c
  dsimp only at hf hplanes hpitch hfollows1 hfollows2 ⊢
  rcases hf with rfl | rfl | rfl
  all_goals
    unfold prepareDevice
    dsimp only
    rw [hplanes]
    simp only [bind, Except.bind]
    rw [if_neg (not_not.mpr hpitch), hfollows1]
    dsimp only
    rw [hfollows2]
    simp [deviceCopy, PlaneView.ofLayout, PlaneView.rowPitch]
    rfl

end Device

end InputConfig

/-! ### The frame handed back -/

section Handoff

variable {f : PixelFormat} {w h ptr : Nat} {ts : Int} {s s' : Option Nat} {d : Int}
  {m : DeviceMemory} {device : Int} {l0 : PlaneLayout} {layouts : List PlaneLayout}

/-! Each format family lays out its own number of planes, which are handed over
as one interface or as a list, and take their family's branch of the check.
-/

section Families

variable
  (hlay : List.Forall₂ (fun p l => PlaneLayout.resolve f w h p = .ok l)
    (List.range f.planeCount) (l0 :: layouts))
  (h0 : PlaneLayout.resolve f w h 0 = .ok l0) (hptr : ptr ≠ 0)
  (hs : normalizeStream s = .ok s') (hdev : m.ordinal = device) (host : Bool)
include hlay h0 hptr hs hdev

theorem prepare_laidOut_packed (hf : f = .argb ∨ f = .abgr) :
    (InputConfig.mk m device f w h host).prepare
        (FrameDescriptor.laidOut ts f w h ptr s d (l0 :: layouts)).planeSource =
      .ok { source := .device ptr, srcPitch := l0.strides.rows,
            chromaOffsets := ((runningSums 0 ((l0 :: layouts).map PlaneLayout.bytes)).take
              f.planeCount).drop 1, width := w, height := h, format := f } := by
  have hn : f.planeCount = 1 := by rcases hf with rfl | rfl <;> rfl
  have hpacked : f.isPacked = true := by rcases hf with rfl | rfl <;> rfl
  obtain rfl : layouts = [] := by
    rw [hn, show List.range 1 = [0] from rfl] at hlay
    obtain _ | ⟨-, _ | _⟩ := hlay
    rfl
  have hsrc : (FrameDescriptor.laidOut ts f w h ptr s d [l0]).planeSource =
      { array := some (PlaneView.ofLayout l0 ptr s d).arrayInterface } := by
    simp [FrameDescriptor.laidOut, FrameDescriptor.planeSource, hpacked, hn, runningSums]
  rw [hsrc, InputConfig.prepare_of_device rfl,
    InputConfig.prepareDevice_packed hdev hptr hs hf h0 d]
  simp [hn]

theorem prepare_laidOut_semiPlanar (hf : f = .nv12 ∨ f = .p010) :
    (InputConfig.mk m device f w h host).prepare
        (FrameDescriptor.laidOut ts f w h ptr s d (l0 :: layouts)).planeSource =
      .ok { source := .device ptr, srcPitch := l0.strides.rows,
            chromaOffsets := ((runningSums 0 ((l0 :: layouts).map PlaneLayout.bytes)).take
              f.planeCount).drop 1, width := w, height := h, format := f } := by
  have hn : f.planeCount = 2 := by rcases hf with rfl | rfl <;> rfl
  have hpacked : f.isPacked = false := by rcases hf with rfl | rfl <;> rfl
  obtain ⟨l1, rfl, h1⟩ : ∃ l1, layouts = [l1] ∧ PlaneLayout.resolve f w h 1 = .ok l1 := by
    rw [hn, show List.range 2 = [0, 1] from rfl] at hlay
    obtain _ | ⟨-, _ | ⟨h1, _ | _⟩⟩ := hlay
    exact ⟨_, rfl, h1⟩
  have hsrc : (FrameDescriptor.laidOut ts f w h ptr s d [l0, l1]).planeSource =
      { planes := some [(PlaneView.ofLayout l0 ptr s d).arrayInterface,
          (PlaneView.ofLayout l1 (ptr + l0.bytes) s d).arrayInterface] } := by
    simp [FrameDescriptor.laidOut, FrameDescriptor.planeSource, hpacked, hn, runningSums,
      show List.range 2 = [0, 1] from rfl]
  rw [hsrc, InputConfig.prepare_of_device rfl,
    InputConfig.prepareDevice_semiPlanar hdev hptr hs hf h0 h1 d]
  simp [hn, runningSums]

theorem prepare_laidOut_planar (hf : f = .yuv444 ∨ f = .yuv444P16 ∨ f = .yv12)
    (hchroma : f = .yv12 → 2 ≤ w ∧ 2 ≤ h) :
    (InputConfig.mk m device f w h host).prepare
        (FrameDescriptor.laidOut ts f w h ptr s d (l0 :: layouts)).planeSource =
      .ok { source := .device ptr, srcPitch := l0.strides.rows,
            chromaOffsets := ((runningSums 0 ((l0 :: layouts).map PlaneLayout.bytes)).take
              f.planeCount).drop 1, width := w, height := h, format := f } := by
  have hn : f.planeCount = 3 := by rcases hf with rfl | rfl | rfl <;> rfl
  have hpacked : f.isPacked = false := by rcases hf with rfl | rfl | rfl <;> rfl
  obtain ⟨l1, l2, rfl, h1, h2⟩ : ∃ l1 l2, layouts = [l1, l2] ∧
      PlaneLayout.resolve f w h 1 = .ok l1 ∧ PlaneLayout.resolve f w h 2 = .ok l2 := by
    rw [hn, show List.range 3 = [0, 1, 2] from rfl] at hlay
    obtain _ | ⟨-, _ | ⟨h1, _ | ⟨h2, _ | _⟩⟩⟩ := hlay
    exact ⟨_, _, rfl, h1, h2⟩
  have hsrc : (FrameDescriptor.laidOut ts f w h ptr s d [l0, l1, l2]).planeSource =
      { planes := some [(PlaneView.ofLayout l0 ptr s d).arrayInterface,
          (PlaneView.ofLayout l1 (ptr + l0.bytes) s d).arrayInterface,
          (PlaneView.ofLayout l2 (ptr + (l0.bytes + l1.bytes)) s d).arrayInterface] } := by
    simp [FrameDescriptor.laidOut, FrameDescriptor.planeSource, hpacked, hn, runningSums,
      show List.range 3 = [0, 1, 2] from rfl]
  rw [hsrc, InputConfig.prepare_of_device rfl,
    InputConfig.prepareDevice_planar hdev hptr hs hf h0 h1 h2
      (PlaneLayout.bytes_pos_planar hf hchroma h1) d]
  simp [hn, runningSums]

end Families

/-- **A frame laid out and handed back plane by plane** is copied from its
address, with the first plane's row pitch and the starts of the other planes. -/
theorem prepare_laidOut
    (hlay : List.Forall₂ (fun p l => PlaneLayout.resolve f w h p = .ok l)
      (List.range f.planeCount) (l0 :: layouts)) (h0 : PlaneLayout.resolve f w h 0 = .ok l0)
    (hptr : ptr ≠ 0) (hs : normalizeStream s = .ok s') (hchroma : f = .yv12 → 2 ≤ w ∧ 2 ≤ h)
    (hdev : m.ordinal = device) (host : Bool) :
    (InputConfig.mk m device f w h host).prepare
        (FrameDescriptor.laidOut ts f w h ptr s d (l0 :: layouts)).planeSource =
      .ok { source := .device ptr, srcPitch := l0.strides.rows,
            chromaOffsets := ((runningSums 0 ((l0 :: layouts).map PlaneLayout.bytes)).take
              f.planeCount).drop 1, width := w, height := h, format := f } := by
  rcases PlaneLayout.format_cases_of_resolve h0 with hf | hf | hf
  · exact prepare_laidOut_packed hlay h0 hptr hs hdev host hf
  · exact prepare_laidOut_semiPlanar hlay h0 hptr hs hdev host hf
  · exact prepare_laidOut_planar hlay h0 hptr hs hdev host hf hchroma

/-- **An NV12 frame handed back as one tensor** of all its rows is copied as
its planes are: from its address, with the luma row pitch and the chroma rows
after the luma plane. -/
theorem prepare_coalesced_nv12
    (hlay : List.Forall₂ (fun p l => PlaneLayout.resolve .nv12 w h p = .ok l)
      (List.range PixelFormat.nv12.planeCount) (l0 :: layouts))
    (h0 : PlaneLayout.resolve .nv12 w h 0 = .ok l0) (hptr : ptr < addressLimit)
    (hluma : l0.bytes < Text.limitU64) (host : Bool) :
    ∃ t, (FrameDescriptor.laidOut ts .nv12 w h ptr s d (l0 :: layouts)).coalesce = .ok t ∧
      (InputConfig.mk m d .nv12 w h host).prepare { tensor := some t.dlpack } =
        .ok { source := .device ptr, srcPitch := l0.strides.rows,
              chromaOffsets := ((runningSums 0 ((l0 :: layouts).map PlaneLayout.bytes)).take
                PixelFormat.nv12.planeCount).drop 1, width := w, height := h, format := .nv12 } := by
  obtain ⟨-, hh⟩ := PlaneLayout.ne_zero_of_resolve h0
  obtain rfl := PlaneLayout.resolve_nv12_zero h0
  obtain ⟨l1, rfl⟩ : ∃ l1, layouts = [l1] := by
    obtain _ | ⟨-, _ | ⟨-, _ | _⟩⟩ := hlay
    exact ⟨_, rfl⟩
  -- the luma plane is `w` bytes wide and `h` rows high, so its row and its bytes fit a word
  have hwh : w * h < Text.limitU64 := by
    rw [Nat.mul_comm]
    simpa [PlaneLayout.bytes, ElementType.size] using hluma
  have hw : w < Text.limitU64 := Nat.lt_of_le_of_lt (Nat.le_mul_of_pos_right w (by omega)) hwh
  refine ⟨_, rfl, ?_⟩
  rw [InputConfig.prepare_of_device rfl]
  unfold InputConfig.prepareDevice
  dsimp only
  rw [InputConfig.prepareTensor_dlpack _ rfl rfl rfl]
  · simp [FrameDescriptor.laidOut, runningSums, PlaneView.ofLayout, PlaneLayout.bytes,
      PixelFormat.element, ElementType.size, PixelFormat.planeCount, Nat.mul_comm]
  · simpa [FrameDescriptor.laidOut, runningSums, PlaneView.ofLayout, addressLimit, Text.limitU64]
      using hptr
  · simpa [FrameDescriptor.laidOut, PixelFormat.element, ElementType.size] using hw
  · simpa [PixelFormat.element, ElementType.size] using hwh

/-- **A decoded frame hands back as it is laid out.** Cut a frame at a
non-null address into its planes, on any stream but the forbidden one, and
hand it to a session of its format, size and device (every non-null address on
that device), plane by plane. The session copies it from the frame's address
with the row pitch of the first plane and the chroma planes at the plane
offsets between the first and the frame's end: the pitch and offsets it uses
for the frame in any host buffer of at least the frame's size. An NV12 frame
handed over as the one tensor of its rows is copied the same way. The only
condition `assemble` does not check already is that a three-plane 4:2:0 frame
be at least two pixels wide and high, as even sizes are. -/
theorem assembled_frame_prepares_as_laid_out {fd : FrameDescriptor}
    (hasm : assemble ptr f w h ts s d = .ok fd) (hptr : ptr ≠ 0) (hs : s ≠ some 0)
    (hchroma : f = .yv12 → 2 ≤ w ∧ 2 ≤ h) (host : Bool) :
    ∃ luma offsets size, PlaneLayout.resolve f w h 0 = .ok luma ∧
      planeOffsets f w h = .ok offsets ∧ frameSize f w h = .ok size ∧
      let copy (source : CopySource) : FrameCopy :=
        { source := source, srcPitch := luma.strides.rows,
          chromaOffsets := (offsets.take f.planeCount).drop 1, width := w, height := h, format := f }
      (InputConfig.mk ⟨d⟩ d f w h host).prepare fd.planeSource = .ok (copy (.device ptr)) ∧
      (∀ len, size ≤ len →
        (InputConfig.mk ⟨d⟩ d f w h true).prepare { host := some len } = .ok (copy (.host len))) ∧
      (f = .nv12 → ∃ t, fd.coalesce = .ok t ∧
        (InputConfig.mk ⟨d⟩ d f w h host).prepare { tensor := some t.dlpack } =
          .ok (copy (.device ptr))) := by
  obtain ⟨layouts, hlay, hoff, hfrom, rfl⟩ := assemble_planes ptr f w h ts s d fd hasm
  obtain ⟨l0, ls, rfl, h0⟩ := layouts_cons hoff hlay
  obtain ⟨s', hs'⟩ := normalizeStream_ok hs
  refine ⟨l0, _, _, h0, hoff, frameSize_of_planeOffsets hoff, ?_⟩
  intro copy
  refine ⟨prepare_laidOut hlay h0 hptr hs' hchroma rfl host, fun len hlen => ?_, fun hnv => ?_⟩
  · -- the host path reads the same offsets, less the frame's end
    have hcount : ((l0 :: ls).map PlaneLayout.bytes).length = f.planeCount := by
      simpa using hlay.length_eq.symm
    rw [InputConfig.prepare_host rfl, InputConfig.prepareHost_of_offsets hoff h0 hlen,
      runningSums_inner hcount]
  · subst hnv
    have hend := (offsetsFrom_eq_ok (by decide) hfrom).2.1
    simp only [List.map_cons, List.foldr_cons] at hend
    exact prepare_coalesced_nv12 hlay h0 (ptr_lt_of_assemble hasm) (by omega) host

/-- A 64x32 NV12 frame at `0x1000` hands back as it is laid out. -/
theorem assembled_frame_prepares_as_laid_out_at_nv12 :
    ∃ fd, assemble 0x1000 .nv12 64 32 0 none 0 = .ok fd ∧
      ∃ luma offsets size, PlaneLayout.resolve .nv12 64 32 0 = .ok luma ∧
        planeOffsets .nv12 64 32 = .ok offsets ∧ frameSize .nv12 64 32 = .ok size ∧
        let copy (source : CopySource) : FrameCopy :=
          { source := source, srcPitch := luma.strides.rows,
            chromaOffsets := (offsets.take PixelFormat.nv12.planeCount).drop 1, width := 64,
            height := 32, format := .nv12 }
        (InputConfig.mk ⟨0⟩ 0 .nv12 64 32 false).prepare fd.planeSource =
          .ok (copy (.device 0x1000)) ∧
        (∀ len, size ≤ len →
          (InputConfig.mk ⟨0⟩ 0 .nv12 64 32 true).prepare { host := some len } =
            .ok (copy (.host len))) ∧
        (PixelFormat.nv12 = .nv12 → ∃ t, fd.coalesce = .ok t ∧
          (InputConfig.mk ⟨0⟩ 0 .nv12 64 32 false).prepare { tensor := some t.dlpack } =
            .ok (copy (.device 0x1000))) := by
  obtain ⟨fd, hasm⟩ : ∃ fd, assemble 0x1000 .nv12 64 32 0 none 0 = .ok fd := ⟨_, rfl⟩
  exact ⟨fd, hasm,
    assembled_frame_prepares_as_laid_out hasm (by decide) (by decide) (by decide) false⟩

end Handoff

end VideoCodec
