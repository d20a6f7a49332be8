import VideoCodec.Error
/-!
# What a computation can return, and what it can fail with

Most steps of the codec are computations in `Except CodecError`: binds, checks
that throw, conditionals and maps over lists. Two predicates describe such a
computation from outside, without running it on any particular input:

* `FailsOnly x P`: every failure of `x` satisfies `P`;
* `ReturnsOnly x Q`: every result of `x` satisfies `Q`.

Each has one combinator per way the computations are put together, so that a
proof about a definition follows its text step by step: `pure`, a literal
failure, a bind, a conditional, a `mapM`, and the check `if c then throw e` of
a `do` block, which Lean compiles to the join point
`if c then throw e >>= k else k ()`.
-/

namespace VideoCodec

/-- Every failure of `x` satisfies `P`. -/
def FailsOnly {α : Type} (x : Except CodecError α) (P : CodecError → Prop) : Prop :=
  ∀ e, x = .error e → P e

namespace FailsOnly

variable {α β : Type} {P : CodecError → Prop}

theorem ok (a : α) : FailsOnly (.ok a) P := by
  intro e he
  cases he

theorem pure (a : α) : FailsOnly (Pure.pure a : Except CodecError α) P := ok a

theorem error {e : CodecError} (h : P e) : FailsOnly (.error e : Except CodecError α) P := by
  intro e' he
  cases he
  exact h

theorem throw {e : CodecError} (h : P e) : FailsOnly (MonadExcept.throw e : Except CodecError α) P :=
  error h

theorem bind {x : Except CodecError α} {f : α → Except CodecError β} (hx : FailsOnly x P)
    (hf : ∀ a, FailsOnly (f a) P) : FailsOnly (x >>= f) P := by
  intro e he
  cases h : x with
  | error e' =>
    rw [h] at he
    cases he
    exact hx _ h
  | ok a =>
    rw [h] at he
    exact hf a e he

theorem ite {c : Prop} [Decidable c] {x y : Except CodecError α} (hx : FailsOnly x P)
    (hy : FailsOnly y P) : FailsOnly (if c then x else y) P := by
  split
  · exact hx
  · exact hy

theorem mapM {γ : Type} {f : γ → Except CodecError α} (hf : ∀ a, FailsOnly (f a) P) :
    ∀ xs : List γ, FailsOnly (xs.mapM f) P
  | [] => pure []
  | a :: as => by
    rw [List.mapM_cons]
    exact bind (hf a) fun b => bind (mapM hf as) fun bs => pure (b :: bs)

theorem mono {x : Except CodecError α} {P' : CodecError → Prop} (hx : FailsOnly x P)
    (h : ∀ e, P e → P' e) : FailsOnly x P' :=
  fun e he => h e (hx e he)

end FailsOnly

/-- Every result of `x` satisfies `Q`. -/
def ReturnsOnly {α : Type} (x : Except CodecError α) (Q : α → Prop) : Prop :=
  ∀ a, x = .ok a → Q a

namespace ReturnsOnly

variable {α β : Type} {Q : α → Prop}

theorem pure {a : α} (h : Q a) : ReturnsOnly (Pure.pure a : Except CodecError α) Q := by
  intro a' ha
  cases ha
  exact h

theorem error (e : CodecError) : ReturnsOnly (.error e : Except CodecError α) Q := by
  intro a ha
  cases ha

theorem throw (e : CodecError) : ReturnsOnly (MonadExcept.throw e : Except CodecError α) Q :=
  error e

/-- A computation known to succeed returns only its result. -/
theorem of_eq {x : Except CodecError α} {a : α} (h : x = .ok a) : ReturnsOnly x (· = a) := by
  intro a' ha
  rw [h] at ha
  cases ha
  rfl

/-- A result of a computation that any result would do for. -/
theorem any (x : Except CodecError α) : ReturnsOnly x fun _ => True :=
  fun _ _ => trivial

theorem mono {x : Except CodecError α} {Q' : α → Prop} (hx : ReturnsOnly x Q)
    (h : ∀ a, Q a → Q' a) : ReturnsOnly x Q' :=
  fun a ha => h a (hx a ha)

/-- A bind returns what its continuation returns on what the first step
returns. -/
theorem bind {R : β → Prop} {x : Except CodecError β} {f : β → Except CodecError α}
    (hx : ReturnsOnly x R) (hf : ∀ b, R b → ReturnsOnly (f b) Q) : ReturnsOnly (x >>= f) Q := by
  intro a ha
  cases h : x with
  | error e =>
    rw [h] at ha
    cases ha
  | ok b =>
    rw [h] at ha
    exact hf b (hx b h) a ha

theorem ite {c : Prop} [Decidable c] {x y : Except CodecError α} (hx : ReturnsOnly x Q)
    (hy : ReturnsOnly y Q) : ReturnsOnly (if c then x else y) Q := by
  split
  · exact hx
  · exact hy

theorem ite_pos {c : Prop} [Decidable c] (hc : c) {x y : Except CodecError α}
    (hx : ReturnsOnly x Q) : ReturnsOnly (if c then x else y) Q := by
  rw [if_pos hc]
  exact hx

theorem ite_neg {c : Prop} [Decidable c] (hc : ¬c) {x y : Except CodecError α}
    (hy : ReturnsOnly y Q) : ReturnsOnly (if c then x else y) Q := by
  rw [if_neg hc]
  exact hy

/-- A check inside a `do` block returns only what the rest `k` returns. -/
theorem guard {c : Prop} [Decidable c] {e : CodecError} {k : Unit → Except CodecError α}
    (hk : ReturnsOnly (k ()) Q) :
    ReturnsOnly (if c then MonadExcept.throw e >>= k else k ()) Q :=
  ite (bind (throw e) fun (_ : Unit) (_ : True) => hk) hk

/-- A check inside a `do` block returns only what the rest returns once the
check has passed. -/
theorem guard_passed {c : Prop} [Decidable c] {e : CodecError} {k : Unit → Except CodecError α}
    (hk : ¬c → ReturnsOnly (k ()) Q) :
    ReturnsOnly (if c then MonadExcept.throw e >>= k else k ()) Q := by
  split
  · exact bind (throw (Q := fun _ => False) e) fun _ hfalse => hfalse.elim
  · rename_i hc
    exact hk hc

end ReturnsOnly

/-- A bind succeeds exactly when its first step does and the rest succeeds on
what the first step returned. -/
theorem bind_eq_ok_iff {α β : Type} {x : Except CodecError α} {f : α → Except CodecError β}
    {b : β} : x >>= f = .ok b ↔ ∃ a, x = .ok a ∧ f a = .ok b := by
  cases x <;> simp [bind, Except.bind]

/-- A bind whose first step returns `a`, and whose rest returns `b` from `a`,
returns `b`. -/
theorem bind_of_eq_ok {α β : Type} {x : Except CodecError α} {f : α → Except CodecError β}
    {a : α} {b : β} (hx : x = .ok a) (hf : f a = .ok b) : x >>= f = .ok b :=
  bind_eq_ok_iff.mpr ⟨a, hx, hf⟩

end VideoCodec
