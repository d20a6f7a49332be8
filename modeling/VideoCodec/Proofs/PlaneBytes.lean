import VideoCodec.Frame.Descriptor
import VideoCodec.Proofs.Outcome
/-!
# Plane sizes and offsets in machine words

The size of a plane, the offsets of a frame's planes and the size of a cut
frame are computed in 64-bit words (`Word.mul`, `Word.add`): every product and
every partial sum is checked, and the first one past the largest word stops
the program. This file gives the exact numbers these computations stand for,
and says when they are reached.

| computation | the number it stands for | returned when it fits | and only then |
|---|---|---|---|
| `PlaneLayout.byteSize` | `PlaneLayout.bytes` | `PlaneLayout.byteSize_of_lt` | `PlaneLayout.byteSize_eq_ok` |
| `offsetsFrom` | `runningSums` of the sizes | `offsetsFrom_of_lt` | `offsetsFrom_eq_ok` |
| `FrameDescriptor.frameSize` | the sum of the sizes | `FrameDescriptor.frameSize_of_lt` | |

## Where the arithmetic stops

A plane's size is the product of its rows, columns, components and sample
size, taken in that order, so a plane with no columns still stops on a row
count past a word: its size is zero, but `byteSize_of_lt` asks for the rows to
fit as well. The offsets stop on nothing but an overflow
(`offsetsFrom_failsOnly`).
-/

namespace VideoCodec

/-! ### Word arithmetic -/

namespace Word

/-- The stops of checked word arithmetic. -/
def Overflow (e : CodecError) : Prop := e = addOverflow ∨ e = mulOverflow

theorem add_failsOnly (a b : Nat) : FailsOnly (add a b) Overflow := by
  unfold add
  exact .ite (.ok _) (.error (.inl rfl))

theorem mul_failsOnly (a b : Nat) : FailsOnly (mul a b) Overflow := by
  unfold mul
  exact .ite (.ok _) (.error (.inr rfl))

theorem add_returnsOnly (a b : Nat) : ReturnsOnly (add a b) (· = a + b) :=
  fun _ h => (add_eq_ok_iff.mp h).2.symm

theorem mul_returnsOnly (a b : Nat) : ReturnsOnly (mul a b) (· = a * b) :=
  fun _ h => (mul_eq_ok_iff.mp h).2.symm

end Word

theorem ElementType.size_pos (e : ElementType) : 0 < e.size := by
  cases e <;> decide

/-! ### The size of a plane -/

namespace PlaneLayout

/-- The bytes a plane covers: the product of its shape and its sample size. -/
def bytes (l : PlaneLayout) : Nat :=
  l.shape.rows * l.shape.cols * l.shape.comps * l.element.size

/-- The size of a plane as its four checked products. -/
theorem byteSize_eq (l : PlaneLayout) :
    l.byteSize = (Word.mul 1 l.shape.rows >>= fun rows => Word.mul rows l.shape.cols >>=
      fun samples => Word.mul samples l.shape.comps >>= fun comps =>
        Word.mul comps l.element.size) := by
  simp only [byteSize, Extent.toList, List.foldlM_cons, List.foldlM_nil, bind_assoc, bind_pure]

/-- **A size is only ever the plane's bytes**, and below a word. -/
theorem byteSize_eq_ok {l : PlaneLayout} {n : Nat} (h : l.byteSize = .ok n) :
    n = l.bytes ∧ l.bytes < Text.limitU64 := by
  simp only [byteSize_eq, bind_eq_ok_iff, Word.mul_eq_ok_iff] at h
  obtain ⟨_, ⟨-, rfl⟩, _, ⟨-, rfl⟩, _, ⟨-, rfl⟩, hlt, rfl⟩ := h
  exact ⟨by simp [bytes], by simpa [bytes] using hlt⟩

/-- **A plane whose rows and bytes fit a word has its size.** Each partial
product is at most the whole: the factors after it are positive, or it is a
product with no columns, which is zero. -/
theorem byteSize_of_lt {l : PlaneLayout} (hrows : l.shape.rows < Text.limitU64)
    (hcomps : 0 < l.shape.comps) (h : l.bytes < Text.limitU64) : l.byteSize = .ok l.bytes := by
  have hsamples : 1 * l.shape.rows * l.shape.cols * l.shape.comps < Text.limitU64 := by
    simpa using Nat.lt_of_le_of_lt (Nat.le_mul_of_pos_right _ l.element.size_pos) h
  have hpixels : 1 * l.shape.rows * l.shape.cols < Text.limitU64 :=
    Nat.lt_of_le_of_lt (Nat.le_mul_of_pos_right _ hcomps) hsamples
  rw [byteSize_eq]
  refine bind_of_eq_ok (Word.mul_of_lt (by simpa using hrows)) ?_
  refine bind_of_eq_ok (Word.mul_of_lt hpixels) ?_
  refine bind_of_eq_ok (Word.mul_of_lt hsamples) ?_
  simpa [bytes] using Word.mul_of_lt h

theorem byteSize_failsOnly (l : PlaneLayout) : FailsOnly l.byteSize Word.Overflow := by
  rw [byteSize_eq]
  exact .bind (Word.mul_failsOnly _ _) fun _ => .bind (Word.mul_failsOnly _ _) fun _ =>
    .bind (Word.mul_failsOnly _ _) fun _ => Word.mul_failsOnly _ _

end PlaneLayout

/-! ### The offsets of planes laid back to back -/

/-- The running sums of a list, starting from `start`: one more entry than
the list. -/
def runningSums : Nat → List Nat → List Nat
  | start, [] => [start]
  | start, x :: xs => start :: runningSums (start + x) xs

theorem runningSums_length (a : Nat) (xs : List Nat) :
    (runningSums a xs).length = xs.length + 1 := by
  induction xs generalizing a with
  | nil => rfl
  | cons x xs ih => simp [runningSums, ih]

/-- The last running sum is the start plus the whole list. -/
theorem runningSums_getLastD (a d : Nat) (xs : List Nat) :
    (runningSums a xs).getLastD d = a + xs.foldr (· + ·) 0 := by
  induction xs generalizing a d with
  | nil => simp [runningSums]
  | cons x xs ih =>
    simp only [runningSums, List.getLastD_cons, ih, List.foldr_cons]
    omega

section Offsets

variable {o : Nat} {l : PlaneLayout} {ls : List PlaneLayout} {os : List Nat}

/-- One plane laid at `o`: its size fits a word, and so does its end, where
the planes after it start. -/
theorem offsetsFrom_cons_eq_ok :
    offsetsFrom o (l :: ls) = .ok os ↔ l.byteSize = .ok l.bytes ∧
      o + l.bytes < Text.limitU64 ∧ ∃ rest, offsetsFrom (o + l.bytes) ls = .ok rest ∧
        os = o :: rest := by
  rw [offsetsFrom]
  constructor
  · intro h
    obtain ⟨size, hsize, h⟩ := bind_eq_ok_iff.mp h
    obtain ⟨rfl, -⟩ := PlaneLayout.byteSize_eq_ok hsize
    obtain ⟨next, hnext, h⟩ := bind_eq_ok_iff.mp h
    obtain ⟨hlt, rfl⟩ := Word.add_eq_ok_iff.mp hnext
    obtain ⟨rest, hrest, h⟩ := bind_eq_ok_iff.mp h
    cases h
    exact ⟨hsize, hlt, rest, hrest, rfl⟩
  · rintro ⟨hsize, hlt, rest, hrest, rfl⟩
    refine bind_of_eq_ok hsize ?_
    refine bind_of_eq_ok (Word.add_of_lt hlt) ?_
    exact bind_of_eq_ok hrest rfl

/-- **Offsets are only ever the running sums of the sizes**, from a start
below a word to an end below a word, and every plane on the way has its
size. -/
theorem offsetsFrom_eq_ok (ho : o < Text.limitU64) (h : offsetsFrom o ls = .ok os) :
    os = runningSums o (ls.map PlaneLayout.bytes) ∧
      o + (ls.map PlaneLayout.bytes).foldr (· + ·) 0 < Text.limitU64 ∧
      ∀ l ∈ ls, l.byteSize = .ok l.bytes := by
  induction ls generalizing o os with
  | nil =>
    cases h
    simpa [runningSums] using ho
  | cons l ls ih =>
    obtain ⟨hsize, hlt, rest, hrest, rfl⟩ := offsetsFrom_cons_eq_ok.mp h
    obtain ⟨rfl, hend, hsizes⟩ := ih hlt hrest
    refine ⟨rfl, ?_, ?_⟩
    · simp only [List.map_cons, List.foldr_cons]
      omega
    · simpa [hsize] using hsizes

/-- **Planes whose sizes and end fit a word have their offsets.** -/
theorem offsetsFrom_of_lt (hsizes : ∀ l ∈ ls, l.byteSize = .ok l.bytes)
    (hend : o + (ls.map PlaneLayout.bytes).foldr (· + ·) 0 < Text.limitU64) :
    offsetsFrom o ls = .ok (runningSums o (ls.map PlaneLayout.bytes)) := by
  induction ls generalizing o with
  | nil => rfl
  | cons l ls ih =>
    simp only [List.map_cons, List.foldr_cons] at hend
    refine offsetsFrom_cons_eq_ok.mpr ⟨hsizes l List.mem_cons_self, by omega, _, ?_, rfl⟩
    exact ih (fun l' hl' => hsizes l' (List.mem_cons_of_mem l hl')) (by omega)

theorem offsetsFrom_failsOnly (o : Nat) (ls : List PlaneLayout) :
    FailsOnly (offsetsFrom o ls) Word.Overflow := by
  induction ls generalizing o with
  | nil => exact .ok _
  | cons l ls ih =>
    unfold offsetsFrom
    exact .bind l.byteSize_failsOnly fun _ => .bind (Word.add_failsOnly _ _) fun next =>
      .bind (ih next) fun _ => .pure _

end Offsets

/-! ### The size of a cut frame -/

/-- Planes whose sizes and partial sums fit a word add up, from any total. -/
theorem foldlM_addSizes_of_lt {a : Nat} {vs : List PlaneView}
    (hsizes : ∀ l ∈ vs.map PlaneView.layout, l.byteSize = .ok l.bytes)
    (hend : a + ((vs.map PlaneView.layout).map PlaneLayout.bytes).foldr (· + ·) 0 <
      Text.limitU64) :
    vs.foldlM (fun total v => do
        let size ← v.byteSize
        Word.add total size) a =
      .ok (a + ((vs.map PlaneView.layout).map PlaneLayout.bytes).foldr (· + ·) 0) := by
  induction vs generalizing a with
  | nil => rfl
  | cons v vs ih =>
    simp only [List.map_cons, List.foldr_cons, List.mem_cons, forall_eq_or_imp] at hsizes hend
    rw [List.foldlM_cons, List.map_cons, List.map_cons, List.foldr_cons, ← Nat.add_assoc]
    refine bind_of_eq_ok (bind_of_eq_ok hsizes.1 (Word.add_of_lt (by omega))) ?_
    exact ih hsizes.2 (by omega)

/-- **A frame whose planes have their sizes, adding up within a word, has
their sum as its size.** -/
theorem FrameDescriptor.frameSize_of_lt {fd : FrameDescriptor}
    (hsizes : ∀ l ∈ fd.planes.map PlaneView.layout, l.byteSize = .ok l.bytes)
    (hend : ((fd.planes.map PlaneView.layout).map PlaneLayout.bytes).foldr (· + ·) 0 <
      Text.limitU64) :
    fd.frameSize = .ok (((fd.planes.map PlaneView.layout).map PlaneLayout.bytes).foldr (· + ·) 0) := by
  have h := @foldlM_addSizes_of_lt 0 fd.planes hsizes (by rw [Nat.zero_add]; exact hend)
  rw [Nat.zero_add] at h
  exact h

end VideoCodec
