import Mathlib
import VideoCodec.Proofs.Handoff
/-!
# A frame seen as one tensor of rows

The planes of an NV12 frame and of a planar 4:4:4 frame of bytes are rows of
`w` bytes, back to back: NV12 has `h` luma rows and `⌊h/2⌋` rows of
interleaved chroma pairs, planar 4:4:4 has three planes of `h` rows. So the
whole frame is one tensor of rows, `w` bytes apart, from the frame's address
(`FrameDescriptor.coalesce`). That tensor does not read its rows off the
planes: it counts them by a formula of its own, `3h/2` for NV12 and `3h` for
4:4:4.

This file proves that the formula and the planes that `assemble` lays out
agree for every size, odd ones included, where `⌊3h/2⌋ = h + ⌊h/2⌋` and where
the NV12 chroma rows hold one byte less than `w` but keep the pitch `w`:

* row `r` of plane `i` is row `rowsBefore i + r` of the tensor, with
  `rowsBefore i` the rows of the planes before `i` (`FrameDescriptor.StacksRows`);
  a frame stacks its rows when its first plane starts at the tensor and each
  plane starts where the rows of the one before end (`StacksRows.cons`);
* the two frames that `assemble` builds for these formats, spelled out
  (`assemble_nv12`, `assemble_yuv444`);
* so the tensor has as many rows as the planes together, `w` columns, row
  stride `w` and the first plane's address and sample type, and it addresses
  exactly the rows of the planes; every other format has no such tensor
  (`coalesce_stacks_plane_rows`).
-/

namespace VideoCodec

/-! ### Layouts of the two formats -/

namespace PlaneLayout

variable {w h p : Nat} {l : PlaneLayout}

/-- The NV12 chroma plane: `⌊h/2⌋` rows of `⌊w/2⌋` byte pairs, at the luma
pitch `w`. -/
theorem resolve_nv12_one (hl : resolve .nv12 w h 1 = .ok l) :
    l = ⟨⟨h / 2, w / 2, 2⟩, ⟨w, 2, 1⟩, .u8⟩ := by
  unfold resolve at hl
  split_ifs at hl
  cases hl
  rfl

/-- Each plane of planar 4:4:4: `h` rows of `w` bytes. -/
theorem resolve_yuv444 (hl : resolve .yuv444 w h p = .ok l) :
    l = ⟨⟨h, w, 1⟩, ⟨w, 1, 1⟩, .u8⟩ := by
  unfold resolve at hl
  split_ifs at hl
  cases hl
  rfl

end PlaneLayout

/-! ### Rows stacked plane after plane -/

namespace FrameDescriptor

/-- The rows of the planes before plane `i`. -/
def rowsBefore (planes : List PlaneView) (i : Nat) : Nat :=
  ((planes.take i).map fun v => v.shape.rows).sum

/-- The rows of all planes. -/
def totalRows (planes : List PlaneView) : Nat :=
  (planes.map fun v => v.shape.rows).sum

@[simp] theorem rowsBefore_zero (planes : List PlaneView) : rowsBefore planes 0 = 0 := by
  simp [rowsBefore]

@[simp] theorem rowsBefore_cons_succ (v : PlaneView) (planes : List PlaneView) (i : Nat) :
    rowsBefore (v :: planes) (i + 1) = v.shape.rows + rowsBefore planes i := by
  simp [rowsBefore]

/-- **Planes stacked as the rows of a tensor**: row `r` of plane `i` starts
where row `rowsBefore i + r` of the tensor does. -/
def StacksRows (t : TensorView) (planes : List PlaneView) : Prop :=
  ∀ i (hi : i < planes.length), ∀ r < planes[i].shape.rows,
    planes[i].data + r * planes[i].strides.rows = t.data + (rowsBefore planes i + r) * t.rowStride

namespace StacksRows

variable {t : TensorView} {v : PlaneView} {planes : List PlaneView}

theorem nil (t : TensorView) : StacksRows t [] := by
  intro i hi
  simp at hi

/-- A plane that starts at the tensor with the tensor's row pitch, followed by
planes stacked from where its rows end. -/
theorem cons (hdata : v.data = t.data) (hpitch : v.strides.rows = t.rowStride)
    (hrest : StacksRows { t with data := t.data + v.shape.rows * t.rowStride } planes) :
    StacksRows t (v :: planes) := by
  intro i hi r hr
  cases i with
  | zero =>
    simp only [List.getElem_cons_zero, rowsBefore_zero, Nat.zero_add]
    rw [hdata, hpitch]
  | succ i =>
    have hrow := hrest i (by simpa using hi) r (by simpa using hr)
    simp only [List.getElem_cons_succ, rowsBefore_cons_succ]
    rw [hrow]
    ring

end StacksRows

end FrameDescriptor

/-! ### The frames `assemble` builds -/

section Assemble

variable {ptr w h : Nat} {ts : Int} {s : Option Nat} {d : Int} {fd : FrameDescriptor}

/-- An NV12 frame: `h` luma rows of `w` bytes, then the chroma plane right
after them, at the same pitch. -/
theorem assemble_nv12 (hasm : assemble ptr .nv12 w h ts s d = .ok fd) :
    fd = { timestamp := ts, format := .nv12, width := w, height := h,
           planes := [PlaneView.ofLayout ⟨⟨h, w, 1⟩, ⟨w, 1, 1⟩, .u8⟩ ptr s d,
             PlaneView.ofLayout ⟨⟨h / 2, w / 2, 2⟩, ⟨w, 2, 1⟩, .u8⟩ (ptr + h * w) s d] } := by
  obtain ⟨layouts, hlay, -, -, rfl⟩ := assemble_planes ptr .nv12 w h ts s d fd hasm
  obtain _ | ⟨h0, _ | ⟨h1, _ | _⟩⟩ := hlay
  rw [PlaneLayout.resolve_nv12_zero h0, PlaneLayout.resolve_nv12_one h1]
  simp [FrameDescriptor.laidOut, runningSums, PlaneLayout.bytes, ElementType.size,
    PixelFormat.planeCount, show List.range 2 = [0, 1] from rfl]

/-- A planar 4:4:4 frame: three planes of `h` rows of `w` bytes, each right
after the one before. -/
theorem assemble_yuv444 (hasm : assemble ptr .yuv444 w h ts s d = .ok fd) :
    fd = { timestamp := ts, format := .yuv444, width := w, height := h,
           planes := [PlaneView.ofLayout ⟨⟨h, w, 1⟩, ⟨w, 1, 1⟩, .u8⟩ ptr s d,
             PlaneView.ofLayout ⟨⟨h, w, 1⟩, ⟨w, 1, 1⟩, .u8⟩ (ptr + h * w) s d,
             PlaneView.ofLayout ⟨⟨h, w, 1⟩, ⟨w, 1, 1⟩, .u8⟩ (ptr + (h * w + h * w)) s d] } := by
  obtain ⟨layouts, hlay, -, -, rfl⟩ := assemble_planes ptr .yuv444 w h ts s d fd hasm
  obtain _ | ⟨h0, _ | ⟨h1, _ | ⟨h2, _ | _⟩⟩⟩ := hlay
  rw [PlaneLayout.resolve_yuv444 h0, PlaneLayout.resolve_yuv444 h1, PlaneLayout.resolve_yuv444 h2]
  simp [FrameDescriptor.laidOut, runningSums, PlaneLayout.bytes, ElementType.size,
    PixelFormat.planeCount, show List.range 3 = [0, 1, 2] from rfl]

/-- An assembled frame keeps its format. -/
theorem assemble_format (hasm : assemble ptr f w h ts s d = .ok fd) : fd.format = f := by
  obtain ⟨layouts, -, -, -, rfl⟩ := assemble_planes ptr f w h ts s d fd hasm
  rfl

end Assemble

/-! ### The tensor of all rows -/

/-- **The tensor of a frame addresses exactly the rows of its planes.** Cut a
frame into planes with `assemble`. For NV12 and planar 4:4:4 the frame joins
into one tensor, never missing its planes: it starts at the first plane with
that plane's sample type, has as many rows as the planes together and `w`
columns, with strides `w` and `1`, and row `r` of plane `i` is its row
`rowsBefore i + r`. Every other format is refused as unsupported. -/
theorem coalesce_stacks_plane_rows {ptr w h : Nat} {f : PixelFormat} {ts : Int}
    {s : Option Nat} {d : Int} {fd : FrameDescriptor} (hasm : assemble ptr f w h ts s d = .ok fd) :
    (f = .nv12 ∨ f = .yuv444 →
      ∃ t luma rest, fd.planes = luma :: rest ∧ fd.coalesce = .ok t ∧
        t.data = luma.data ∧ t.element = luma.element ∧
        t.rows = FrameDescriptor.totalRows fd.planes ∧ t.cols = w ∧ t.rowStride = w ∧
        t.colStride = 1 ∧ FrameDescriptor.StacksRows t fd.planes) ∧
    (f ≠ .nv12 → f ≠ .yuv444 → fd.coalesce = .error (.unsupportedFormat f)) := by
  refine ⟨fun hf => ?_, fun hnv hyuv => ?_⟩
  · rcases hf with rfl | rfl
    · -- NV12: `⌊3h/2⌋` rows are the `h` luma rows and the `⌊h/2⌋` chroma rows
      obtain rfl := assemble_nv12 hasm
      refine ⟨_, _, _, rfl, rfl, rfl, rfl, ?_, rfl, rfl, rfl, ?_⟩
      · simp [FrameDescriptor.totalRows, PlaneView.ofLayout]
        omega
      · refine .cons rfl rfl (.cons ?_ rfl (.nil _))
        simp [PlaneView.ofLayout]
    · -- planar 4:4:4: three planes of `h` rows each
      obtain rfl := assemble_yuv444 hasm
      refine ⟨_, _, _, rfl, rfl, rfl, rfl, ?_, rfl, rfl, rfl, ?_⟩
      · simp [FrameDescriptor.totalRows, PlaneView.ofLayout]
        omega
      · refine .cons rfl rfl (.cons ?_ rfl (.cons ?_ rfl (.nil _)))
        · simp [PlaneView.ofLayout]
        · simp [PlaneView.ofLayout]
          ring
  · have hformat := assemble_format hasm
    unfold FrameDescriptor.coalesce FrameDescriptor.coalescedRows
    rw [hformat]
    cases f <;> simp_all

/-- An NV12 frame of odd size, 5 by 3 at `0x1000`: its tensor has
`⌊9/2⌋ = 4` rows, three of luma and one of chroma, and addresses them. -/
theorem odd_nv12_frame_stacks_plane_rows :
    ∃ fd, assemble 0x1000 .nv12 5 3 0 none 0 = .ok fd ∧
      (PixelFormat.nv12 = .nv12 ∨ PixelFormat.nv12 = .yuv444 →
        ∃ t luma rest, fd.planes = luma :: rest ∧ fd.coalesce = .ok t ∧
          t.data = luma.data ∧ t.element = luma.element ∧
          t.rows = FrameDescriptor.totalRows fd.planes ∧ t.cols = 5 ∧ t.rowStride = 5 ∧
          t.colStride = 1 ∧ FrameDescriptor.StacksRows t fd.planes) ∧
      (PixelFormat.nv12 ≠ .nv12 → PixelFormat.nv12 ≠ .yuv444 →
        fd.coalesce = .error (.unsupportedFormat .nv12)) := by
  obtain ⟨fd, hasm⟩ : ∃ fd, assemble 0x1000 .nv12 5 3 0 none 0 = .ok fd := ⟨_, rfl⟩
  exact ⟨fd, hasm, coalesce_stacks_plane_rows hasm⟩

end VideoCodec
