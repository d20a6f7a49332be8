import Mathlib
import VideoCodec.Proofs.Handoff
/-!
# Plane offsets and frame sizes

A frame of a format with a layout lies in memory as its planes back to back,
with no padding. `planeOffsets` gives where each plane starts and, last, where
the frame ends; `frameSize` is that end. This file shows that the offsets are
the running sums of the planes' sizes for every size of frame, odd ones
included, and gives the size of a whole frame in closed form. The sizes and
offsets are machine words: a frame whose closed form does not fit one stops
the program with an overflow (`planeOffsets_past_word`).

| property | theorem |
|---|---|
| the offsets are the running sums of a table of plane sizes | `VideoCodec.planeOffsets_eq` |
| past a word, an overflow | `VideoCodec.planeOffsets_past_word` |
| the table is what the layouts of the planes cover | `VideoCodec.layouts_planeBytes` |
| a plane starts where the one before it ends | `VideoCodec.runningSums_getD_succ` |
| the end of the frame is the sum of its planes | `VideoCodec.runningSums_getD_length` |
| even sizes: a fixed number of bytes per two pixels | `VideoCodec.PixelFormat.two_mul_frameBytes` |
| a cut frame covers the planes, each at its offset | `VideoCodec.assemble_offsets` |

The closed form rounds the chroma planes of 4:2:0 down: an odd row or column
of luma has no chroma of its own. So a 3 by 3 NV12 frame takes 9 bytes of
luma and 2 of chroma, where the even-size rule of one and a half bytes per
pixel would give 13. A packed frame of 2³¹ by 2³¹ pixels takes 2⁶⁴ bytes, one
more than the largest word, and stops on the product of its shape
(`argb_frame_past_word_halts`).
-/

namespace VideoCodec

namespace PixelFormat

/-- Bytes of a whole frame of a format with a layout: a luma plane and two
chroma samples per 2 by 2 block for 4:2:0, three full planes for 4:4:4, four
components per pixel when packed; samples of 16-bit formats take two bytes. -/
def frameBytes (f : PixelFormat) (w h : Nat) : Nat :=
  match f with
  | .nv12 | .yv12 => w * h + 2 * (w / 2) * (h / 2)
  | .p010 => 2 * w * h + 4 * (w / 2) * (h / 2)
  | .yuv444 => 3 * w * h
  | .yuv444P16 => 6 * w * h
  | .argb | .abgr => 4 * w * h
  | .argb10 | .abgr10 | .undefined => 0

/-- Bytes of each plane of a frame of a format with a layout. -/
def planeBytes (f : PixelFormat) (w h : Nat) : List Nat :=
  match f with
  | .nv12 => [w * h, 2 * (w / 2) * (h / 2)]
  | .p010 => [2 * w * h, 4 * (w / 2) * (h / 2)]
  | .yuv444 => [w * h, w * h, w * h]
  | .yuv444P16 => [2 * w * h, 2 * w * h, 2 * w * h]
  | .yv12 => [w * h, (w / 2) * (h / 2), (w / 2) * (h / 2)]
  | .argb | .abgr => [4 * w * h]
  | .argb10 | .abgr10 | .undefined => []

/-- Bytes per two pixels of a frame of even size. -/
def bytesPerTwoPixels : PixelFormat → Nat
  | .nv12 | .yv12 => 3
  | .p010 | .yuv444 => 6
  | .yuv444P16 => 12
  | .argb | .abgr => 8
  | .argb10 | .abgr10 | .undefined => 0

/-- **On even sizes a frame takes a fixed number of bytes per pixel**: one and
a half for the 8-bit 4:2:0 formats, three for P010 and 8-bit 4:4:4, six for
16-bit 4:4:4 and four for packed formats. -/
theorem two_mul_frameBytes (f : PixelFormat) {w h : Nat} (hw : 2 ∣ w) (hh : 2 ∣ h) :
    2 * f.frameBytes w h = f.bytesPerTwoPixels * (w * h) := by
  obtain ⟨a, rfl⟩ := hw
  obtain ⟨b, rfl⟩ := hh
  have ha : 2 * a / 2 = a := by omega
  have hb : 2 * b / 2 = b := by omega
  cases f <;> simp only [frameBytes, bytesPerTwoPixels, ha, hb] <;> ring

/-- The planes of a frame add up to the closed form. -/
theorem foldr_planeBytes (f : PixelFormat) (w h : Nat) :
    (f.planeBytes w h).foldr (· + ·) 0 = f.frameBytes w h := by
  cases f <;> simp only [planeBytes, frameBytes, List.foldr_cons, List.foldr_nil] <;> ring

theorem length_planeBytes {f : PixelFormat} (hf : f ≠ .argb10 ∧ f ≠ .abgr10 ∧ f ≠ .undefined)
    (w h : Nat) : (f.planeBytes w h).length = f.planeCount := by
  obtain ⟨ha, hb, hu⟩ := hf
  cases f <;> simp_all [planeBytes, planeCount]

/-- A frame takes at least a byte per pixel. -/
theorem mul_le_frameBytes {f : PixelFormat} (hf : f ≠ .argb10 ∧ f ≠ .abgr10 ∧ f ≠ .undefined)
    (w h : Nat) : w * h ≤ f.frameBytes w h := by
  obtain ⟨ha, hb, hu⟩ := hf
  have hblocks := Nat.zero_le (w / 2 * (h / 2))
  cases f
  case argb10 => exact absurd rfl ha
  case abgr10 => exact absurd rfl hb
  case undefined => exact absurd rfl hu
  all_goals
    simp only [frameBytes]
    nlinarith

end PixelFormat

/-! ### Running sums -/

theorem runningSums_head? (a : Nat) (xs : List Nat) : (runningSums a xs).head? = some a := by
  cases xs <;> rfl

theorem runningSums_getD_zero (a : Nat) (xs : List Nat) : (runningSums a xs).getD 0 0 = a := by
  cases xs <;> rfl

/-- Each entry of the running sums is the one before it plus the element
between them. -/
theorem runningSums_getD_succ {a i : Nat} {xs : List Nat} (hi : i < xs.length) :
    (runningSums a xs).getD (i + 1) 0 = (runningSums a xs).getD i 0 + xs.getD i 0 := by
  induction xs generalizing a i with
  | nil => simp at hi
  | cons x xs ih =>
    cases i with
    | zero =>
      rw [runningSums, List.getD_cons_succ, List.getD_cons_zero, List.getD_cons_zero,
        runningSums_getD_zero]
    | succ i =>
      have hi' : i < xs.length := by simpa using hi
      simpa [runningSums] using ih hi'

/-- The last running sum is the sum of the whole list. -/
theorem runningSums_getD_length (a : Nat) (xs : List Nat) :
    (runningSums a xs).getD xs.length 0 = a + xs.foldr (· + ·) 0 := by
  induction xs generalizing a with
  | nil => simp [runningSums]
  | cons x xs ih =>
    simp only [runningSums, List.length_cons, List.getD_cons_succ, ih, List.foldr_cons]
    omega

/-! ### The layouts of a frame -/

section Layouts

variable {f : PixelFormat} {w h : Nat}

/-- Every plane of a format with a layout has one, at every size. -/
theorem resolve_exists (hf : f ≠ .argb10 ∧ f ≠ .abgr10 ∧ f ≠ .undefined) (hw : 0 < w)
    (hh : 0 < h) {p : Nat} (hp : p < f.planeCount) : ∃ l, PlaneLayout.resolve f w h p = .ok l := by
  unfold PlaneLayout.resolve
  rw [if_neg (by omega), if_neg (by tauto), if_neg (by omega)]
  exact ⟨_, rfl⟩

/-- A computation that succeeds on every element of a list gives a list of
results. -/
theorem exists_forall₂_ok {α γ : Type} {g : γ → Except CodecError α} :
    ∀ {xs : List γ}, (∀ a ∈ xs, ∃ b, g a = .ok b) →
      ∃ ys, List.Forall₂ (fun a b => g a = .ok b) xs ys
  | [], _ => ⟨[], .nil⟩
  | a :: as, h => by
    obtain ⟨b, hb⟩ := h a List.mem_cons_self
    obtain ⟨bs, hbs⟩ := exists_forall₂_ok fun x hx => h x (List.mem_cons_of_mem a hx)
    exact ⟨b :: bs, .cons hb hbs⟩

/-- A plane of a frame has at most a row per line, and components. -/
theorem PlaneLayout.rows_le_of_resolve {p : Nat} {l : PlaneLayout}
    (hl : PlaneLayout.resolve f w h p = .ok l) : l.shape.rows ≤ h ∧ 0 < l.shape.comps := by
  unfold PlaneLayout.resolve at hl
  split_ifs at hl
  cases hl
  split <;> simp only <;> omega

theorem planeOffsets_of_layouts {layouts : List PlaneLayout} (hn : f.planeCount ≠ 0)
    (hlay : List.Forall₂ (fun p l => PlaneLayout.resolve f w h p = .ok l)
      (List.range f.planeCount) layouts) :
    planeOffsets f w h = offsetsFrom 0 layouts := by
  rw [planeOffsets, if_neg hn, mapM_eq_ok_of_forall₂ hlay]
  rfl

/-- **The sizes of the planes of a frame**, read off their layouts. -/
theorem layouts_planeBytes (hf : f ≠ .argb10 ∧ f ≠ .abgr10 ∧ f ≠ .undefined)
    {layouts : List PlaneLayout}
    (hlay : List.Forall₂ (fun p l => PlaneLayout.resolve f w h p = .ok l)
      (List.range f.planeCount) layouts) :
    layouts.map PlaneLayout.bytes = f.planeBytes w h := by
  obtain ⟨ha, hb, hu⟩ := hf
  cases f
  case argb10 => exact absurd rfl ha
  case abgr10 => exact absurd rfl hb
  case undefined => exact absurd rfl hu
  -- one layout per plane; each is the format's once the checks of `resolve` pass
  all_goals
    rcases hlay with _ | ⟨h0, _ | ⟨h1, _ | ⟨h2, _ | _⟩⟩⟩
    all_goals
      unfold PlaneLayout.resolve at *
      split_ifs at *
      simp only [Except.ok.injEq] at *
      subst_vars
      simp only [List.map_cons, List.map_nil, PlaneLayout.bytes, PixelFormat.planeBytes,
        PixelFormat.element, ElementType.size]
      ring_nf

/-- The layouts of a frame's planes add up to the closed form. -/
theorem foldr_layouts_bytes (hf : f ≠ .argb10 ∧ f ≠ .abgr10 ∧ f ≠ .undefined)
    {layouts : List PlaneLayout}
    (hlay : List.Forall₂ (fun p l => PlaneLayout.resolve f w h p = .ok l)
      (List.range f.planeCount) layouts) :
    (layouts.map PlaneLayout.bytes).foldr (· + ·) 0 = f.frameBytes w h := by
  rw [layouts_planeBytes hf hlay, PixelFormat.foldr_planeBytes]

/-- The layouts of the planes of a frame of a format with a layout, at every
size of at least one pixel. -/
theorem layouts_exist (hf : f ≠ .argb10 ∧ f ≠ .abgr10 ∧ f ≠ .undefined) (hw : 0 < w)
    (hh : 0 < h) : ∃ layouts, List.Forall₂ (fun p l => PlaneLayout.resolve f w h p = .ok l)
      (List.range f.planeCount) layouts :=
  exists_forall₂_ok fun _ hp => resolve_exists hf hw hh (List.mem_range.1 hp)

/-- Planes with rows below a word, of a total below a word, have their sizes. -/
theorem byteSize_of_forall₂ {ps : List Nat} {layouts : List PlaneLayout}
    (hlay : List.Forall₂ (fun p l => PlaneLayout.resolve f w h p = .ok l) ps layouts)
    (hrows : h < Text.limitU64)
    (hend : (layouts.map PlaneLayout.bytes).foldr (· + ·) 0 < Text.limitU64) :
    ∀ l ∈ layouts, l.byteSize = .ok l.bytes := by
  induction hlay with
  | nil => nofun
  | cons hl _ ih =>
    simp only [List.map_cons, List.foldr_cons] at hend
    obtain ⟨hle, hcomps⟩ := PlaneLayout.rows_le_of_resolve hl
    intro l hmem
    rcases List.mem_cons.mp hmem with rfl | hmem
    · exact PlaneLayout.byteSize_of_lt (by omega) hcomps (by omega)
    · exact ih (by omega) l hmem

/-- **The planes of a frame that fits a word have their sizes**: every plane
has at most a row per line, and the lines are at most the frame's bytes. -/
theorem layouts_byteSize (hf : f ≠ .argb10 ∧ f ≠ .abgr10 ∧ f ≠ .undefined) (hw : 0 < w)
    {layouts : List PlaneLayout}
    (hlay : List.Forall₂ (fun p l => PlaneLayout.resolve f w h p = .ok l)
      (List.range f.planeCount) layouts) (hword : f.frameBytes w h < Text.limitU64) :
    ∀ l ∈ layouts, l.byteSize = .ok l.bytes := by
  have hrows : h < Text.limitU64 := Nat.lt_of_le_of_lt
    (Nat.le_trans (Nat.le_mul_of_pos_left h hw) (PixelFormat.mul_le_frameBytes hf w h)) hword
  refine byteSize_of_forall₂ hlay hrows ?_
  rw [foldr_layouts_bytes hf hlay]
  exact hword

theorem planeCount_ne_zero (hf : f ≠ .argb10 ∧ f ≠ .abgr10 ∧ f ≠ .undefined) :
    f.planeCount ≠ 0 := by
  obtain ⟨-, -, hu⟩ := hf
  cases f <;> simp_all [PixelFormat.planeCount]

/-- **The plane offsets in closed form**: the running sums of the planes'
sizes, when the frame fits a word. -/
theorem planeOffsets_eq (hf : f ≠ .argb10 ∧ f ≠ .abgr10 ∧ f ≠ .undefined) (hw : 0 < w)
    (hh : 0 < h) (hword : f.frameBytes w h < Text.limitU64) :
    planeOffsets f w h = .ok (runningSums 0 (f.planeBytes w h)) := by
  obtain ⟨layouts, hlay⟩ := layouts_exist hf hw hh
  have htotal : 0 + (layouts.map PlaneLayout.bytes).foldr (· + ·) 0 < Text.limitU64 := by
    rw [Nat.zero_add, foldr_layouts_bytes hf hlay]
    exact hword
  rw [planeOffsets_of_layouts (planeCount_ne_zero hf) hlay,
    offsetsFrom_of_lt (layouts_byteSize hf hw hlay hword) htotal, layouts_planeBytes hf hlay]

/-- **Past a word, an overflow**: a frame whose closed form does not fit a word
has no offsets and no size; their computation stops on an overflow. -/
theorem planeOffsets_past_word (hf : f ≠ .argb10 ∧ f ≠ .abgr10 ∧ f ≠ .undefined) (hw : 0 < w)
    (hh : 0 < h) (hword : Text.limitU64 ≤ f.frameBytes w h) :
    ∃ e, Word.Overflow e ∧ planeOffsets f w h = .error e ∧ frameSize f w h = .error e := by
  obtain ⟨layouts, hlay⟩ := layouts_exist hf hw hh
  rw [planeOffsets_of_layouts (planeCount_ne_zero hf) hlay]
  cases hoff : offsetsFrom 0 layouts with
  | error e =>
    refine ⟨e, offsetsFrom_failsOnly 0 layouts e hoff, rfl, ?_⟩
    rw [frameSize, planeOffsets_of_layouts (planeCount_ne_zero hf) hlay, hoff]
    rfl
  | ok offsets =>
    -- offsets that were computed end within a word, at the closed form
    have hend := (offsetsFrom_eq_ok (by decide) hoff).2.1
    rw [Nat.zero_add, foldr_layouts_bytes hf hlay] at hend
    omega

/-- Plane `i` of a frame that fits a word has a layout, and its size, which
the table gives. -/
theorem resolve_planeBytes (hf : f ≠ .argb10 ∧ f ≠ .abgr10 ∧ f ≠ .undefined) (hw : 0 < w)
    (hh : 0 < h) (hword : f.frameBytes w h < Text.limitU64) {i : Nat} (hi : i < f.planeCount) :
    ∃ l, PlaneLayout.resolve f w h i = .ok l ∧ l.byteSize = .ok l.bytes ∧
      l.bytes = (f.planeBytes w h).getD i 0 := by
  obtain ⟨layouts, hlay⟩ := layouts_exist hf hw hh
  have hlen : i < layouts.length := by simpa [← hlay.length_eq] using hi
  have hl := hlay.get (by simpa using hi) hlen
  simp only [List.get_eq_getElem, List.getElem_range] at hl
  refine ⟨_, hl, layouts_byteSize hf hw hlay hword _ (List.getElem_mem hlen), ?_⟩
  rw [← layouts_planeBytes hf hlay, List.getD_eq_getElem?_getD, List.getElem?_map,
    List.getElem?_eq_getElem hlen]
  rfl

end Layouts

/-! ### Cut frames -/

section Cut

variable {ts : Int} {f : PixelFormat} {w h ptr : Nat} {s : Option Nat} {d : Int}
  {layouts : List PlaneLayout}

/-- A frame cut along layouts has their planes, wherever they are placed. -/
theorem laidOut_layouts (hlen : layouts.length = f.planeCount) :
    (FrameDescriptor.laidOut ts f w h ptr s d layouts).planes.map PlaneView.layout = layouts := by
  calc _ = (List.zip (List.range f.planeCount) layouts).map Prod.snd := by
        rw [FrameDescriptor.laidOut, List.map_zipWith, ← List.map_uncurry_zip_eq_zipWith]
        rfl
    _ = layouts := List.map_snd_zip (by simp [hlen])

/-- A frame cut along layouts that have their sizes, within a word in all,
covers their bytes. -/
theorem laidOut_frameSize (hlen : layouts.length = f.planeCount)
    (hsizes : ∀ l ∈ layouts, l.byteSize = .ok l.bytes)
    (hend : (layouts.map PlaneLayout.bytes).foldr (· + ·) 0 < Text.limitU64) :
    (FrameDescriptor.laidOut ts f w h ptr s d layouts).frameSize =
      .ok ((layouts.map PlaneLayout.bytes).foldr (· + ·) 0) := by
  have hlayouts : (FrameDescriptor.laidOut ts f w h ptr s d layouts).planes.map
      PlaneView.layout = layouts := laidOut_layouts hlen
  rw [← hlayouts] at hsizes hend
  rw [FrameDescriptor.frameSize_of_lt hsizes hend, hlayouts]

/-- Plane `i` of a frame cut at `ptr` starts at `ptr` plus the running sum of
the sizes before it. -/
theorem laidOut_planes {i : Nat} (hi : i < f.planeCount) (hlen : layouts.length = f.planeCount) :
    (FrameDescriptor.laidOut ts f w h ptr s d layouts).planes[i]?.map PlaneView.data =
      some (ptr + (runningSums 0 (layouts.map PlaneLayout.bytes)).getD i 0) := by
  have hl : i < layouts.length := hlen ▸ hi
  simp [FrameDescriptor.laidOut, List.getElem?_zipWith', List.getElem?_range hi,
    List.getElem?_eq_getElem hl, PlaneView.ofLayout]

/-- **What a cut frame covers**: a frame that `assemble` builds has the size of
the closed form, and plane `i` starts at the address plus offset `i`. -/
theorem assemble_offsets (hf : f ≠ .argb10 ∧ f ≠ .abgr10 ∧ f ≠ .undefined)
    {fd : FrameDescriptor} (hfd : assemble ptr f w h ts s d = .ok fd) :
    fd.frameSize = .ok (f.frameBytes w h) ∧ ∀ i < f.planeCount,
      fd.planes[i]?.map PlaneView.data = some (ptr + (runningSums 0 (f.planeBytes w h)).getD i 0) := by
  obtain ⟨layouts, hlay, -, hfrom, rfl⟩ := assemble_planes ptr f w h ts s d fd hfd
  -- the offsets were computed, so every plane had its size and the frame fits a word
  obtain ⟨-, hend, hsizes⟩ := offsetsFrom_eq_ok (by decide) hfrom
  rw [Nat.zero_add] at hend
  have hlen : layouts.length = f.planeCount := by simpa using hlay.length_eq.symm
  refine ⟨?_, fun i hi => ?_⟩
  · rw [laidOut_frameSize hlen hsizes hend, foldr_layouts_bytes hf hlay]
  · rw [laidOut_planes hi hlen, layouts_planeBytes hf hlay]

end Cut

/-! ### The frame -/

/-- **A frame's planes lie back to back, within a machine word.** For a
format with a layout and a frame of at least one pixel whose closed-form size
fits a word, the plane offsets are one more than the planes, start at zero,
and each is the one before it plus the size of the plane between, which the
plane's layout gives; the last is the frame size. That size is the closed form
of the format, and on even sizes a fixed number of bytes per two pixels. A
frame cut at `ptr` covers that size, with plane `i` at `ptr` plus offset `i`.
A frame whose closed form does not fit a word has neither offsets nor a size:
their computation stops on an overflow. -/
theorem frame_planes_back_to_back_within_word (f : PixelFormat) (w h : Nat)
    (hf : f ≠ .argb10 ∧ f ≠ .abgr10 ∧ f ≠ .undefined) (hw : 1 ≤ w) (hh : 1 ≤ h) :
    (f.frameBytes w h < Text.limitU64 → ∃ offsets, planeOffsets f w h = .ok offsets ∧
      offsets.length = f.planeCount + 1 ∧ offsets.head? = some 0 ∧
      (∀ i < f.planeCount, ∃ l, PlaneLayout.resolve f w h i = .ok l ∧
        l.byteSize = .ok l.bytes ∧ offsets.getD (i + 1) 0 = offsets.getD i 0 + l.bytes) ∧
      frameSize f w h = .ok (offsets.getD f.planeCount 0) ∧
      offsets.getD f.planeCount 0 = f.frameBytes w h ∧
      (2 ∣ w → 2 ∣ h → 2 * f.frameBytes w h = f.bytesPerTwoPixels * (w * h)) ∧
      ∀ ptr ts s d fd, assemble ptr f w h ts s d = .ok fd →
        fd.frameSize = .ok (offsets.getD f.planeCount 0) ∧
        ∀ i < f.planeCount, fd.planes[i]?.map PlaneView.data = some (ptr + offsets.getD i 0)) ∧
    (Text.limitU64 ≤ f.frameBytes w h → ∃ e, Word.Overflow e ∧
      planeOffsets f w h = .error e ∧ frameSize f w h = .error e) := by
  refine ⟨fun hword => ?_, planeOffsets_past_word hf hw hh⟩
  have hlen := PixelFormat.length_planeBytes hf w h
  have hlast : (runningSums 0 (f.planeBytes w h)).getD f.planeCount 0 = f.frameBytes w h := by
    rw [← hlen, runningSums_getD_length, Nat.zero_add, PixelFormat.foldr_planeBytes]
  refine ⟨_, planeOffsets_eq hf hw hh hword, ?_, runningSums_head? 0 _, fun i hi => ?_, ?_, hlast,
    fun h2w h2h => f.two_mul_frameBytes h2w h2h, fun ptr ts s d fd hfd => ?_⟩
  · rw [runningSums_length, hlen]
  · obtain ⟨l, hl, hsize, hbytes⟩ := resolve_planeBytes hf hw hh hword hi
    refine ⟨l, hl, hsize, ?_⟩
    rw [runningSums_getD_succ (hlen ▸ hi), hbytes]
  · rw [frameSize_of_planeOffsets (planeOffsets_eq hf hw hh hword), runningSums_getLastD, ← hlen,
      runningSums_getD_length]
  · rw [hlast]
    exact assemble_offsets hf hfd

/-- An NV12 frame of 3 by 3 pixels takes 11 bytes: 9 of luma and one chroma
pair for its one whole 2 by 2 block. -/
theorem nv12_odd_frame_size_within_word :
    (PixelFormat.nv12 ≠ .argb10 ∧ PixelFormat.nv12 ≠ .abgr10 ∧ PixelFormat.nv12 ≠ .undefined) ∧
      1 ≤ 3 ∧ PixelFormat.nv12.frameBytes 3 3 < Text.limitU64 ∧ frameSize .nv12 3 3 = .ok 11 := by
  refine ⟨by decide, by decide, by decide, ?_⟩
  obtain ⟨offsets, -, -, -, -, hsize, hclosed, -⟩ :=
    (frame_planes_back_to_back_within_word .nv12 3 3 (by decide) (by decide) (by decide)).1
      (by decide)
  rw [hsize, hclosed]
  rfl

/-- A packed frame of 2³¹ by 2³¹ pixels takes 2⁶⁴ bytes, one more than the
largest word: its offsets and its size stop on the product of its shape. -/
theorem argb_frame_past_word_halts :
    planeOffsets .argb 0x80000000 0x80000000 = .error Word.mulOverflow ∧
      frameSize .argb 0x80000000 0x80000000 = .error Word.mulOverflow :=
  ⟨rfl, rfl⟩

end VideoCodec
