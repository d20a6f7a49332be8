import VideoCodec.Error
import VideoCodec.Text.Decimal
/-!
# Machine words

Sizes, offsets and addresses are 64-bit unsigned words, and the arithmetic on
them is checked: a sum or a product whose value does not fit a word stops the
program (`CodecError.halted`) with the text a build with overflow checks stops
with. A value is never wrapped.

`Word.add` and `Word.mul` are that arithmetic on natural numbers. Each gives
the exact value when it lies below `Text.limitU64` and stops otherwise
(`Word.add_eq_ok_iff`, `Word.mul_eq_ok_iff`).
-/

namespace VideoCodec.Word

/-- The stop of an addition past the largest word. -/
def addOverflow : CodecError := .halted "attempt to add with overflow"

/-- The stop of a multiplication past the largest word. -/
def mulOverflow : CodecError := .halted "attempt to multiply with overflow"

/-- `a + b` in a 64-bit word. -/
def add (a b : Nat) : Except CodecError Nat :=
  if a + b < Text.limitU64 then .ok (a + b) else .error addOverflow

/-- `a * b` in a 64-bit word. -/
def mul (a b : Nat) : Except CodecError Nat :=
  if a * b < Text.limitU64 then .ok (a * b) else .error mulOverflow

@[simp] theorem add_eq_ok_iff {a b n : Nat} :
    add a b = .ok n ↔ a + b < Text.limitU64 ∧ a + b = n := by
  unfold add
  by_cases h : a + b < Text.limitU64 <;> simp [h]

@[simp] theorem add_eq_error_iff {a b : Nat} {e : CodecError} :
    add a b = .error e ↔ Text.limitU64 ≤ a + b ∧ e = addOverflow := by
  unfold add
  by_cases h : a + b < Text.limitU64
  · simp [h, Nat.not_le.mpr h]
  · simp [h, Nat.le_of_not_lt h, eq_comm]

@[simp] theorem mul_eq_ok_iff {a b n : Nat} :
    mul a b = .ok n ↔ a * b < Text.limitU64 ∧ a * b = n := by
  unfold mul
  by_cases h : a * b < Text.limitU64 <;> simp [h]

@[simp] theorem mul_eq_error_iff {a b : Nat} {e : CodecError} :
    mul a b = .error e ↔ Text.limitU64 ≤ a * b ∧ e = mulOverflow := by
  unfold mul
  by_cases h : a * b < Text.limitU64
  · simp [h, Nat.not_le.mpr h]
  · simp [h, Nat.le_of_not_lt h, eq_comm]

theorem add_of_lt {a b : Nat} (h : a + b < Text.limitU64) : add a b = .ok (a + b) :=
  add_eq_ok_iff.mpr ⟨h, rfl⟩

theorem mul_of_lt {a b : Nat} (h : a * b < Text.limitU64) : mul a b = .ok (a * b) :=
  mul_eq_ok_iff.mpr ⟨h, rfl⟩

example : add 0xFFFFFFFFFFFFFFFF 1 = .error addOverflow := rfl
example : mul 0x100000000 0xFFFFFFFF = .ok 0xFFFFFFFF00000000 := rfl

end VideoCodec.Word
