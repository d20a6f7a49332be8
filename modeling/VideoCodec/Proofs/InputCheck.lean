import VideoCodec.Frame.Input
import VideoCodec.Proofs.PlaneBytes
/-!
# What the input check refuses

`InputConfig.prepare` checks a caller's frame against the session's format and
geometry before anything reaches the encoder. This file says what its failures
can be: a frame is refused for its layout (sizes, sample type, strides, plane
placement, device), for a misused protocol (a missing or forbidden buffer
kind, a forbidden stream), because the device query failed on a null
address, or by stopping on a size or an address past a machine word, and
never for broken internal bookkeeping
(`InputConfig.prepare_failsOnly_external`). Encoding a frame relies on this:
its only other source of failure is the timestamp ledger, so a refusal can
always be told apart from a bookkeeping fault.

The proof goes through every check with the combinators of `FailsOnly`, and
three of its own for a failure whose cause is read off its constructor.
-/

namespace VideoCodec

/-- A failure that is not broken internal bookkeeping: the fault of a caller,
a buffer or a collaborator. -/
def CodecError.External (e : CodecError) : Prop := e.kind ≠ .internalConsistency

namespace FailsOnly

variable {α : Type}

/-- A literal failure whose cause is not internal. At each use the cause is
read off the failure's constructor, by `nofun`. -/
theorem errorExternal {e : CodecError} (hk : e.kind ≠ .internalConsistency) :
    FailsOnly (.error e : Except CodecError α) CodecError.External :=
  error hk

theorem throwExternal {e : CodecError} (hk : e.kind ≠ .internalConsistency) :
    FailsOnly (MonadExcept.throw e : Except CodecError α) CodecError.External :=
  error hk

/-- A check inside a `do` block: either it fails, with a cause that is not
internal, or the block goes on with the rest `k`. -/
theorem guard {c : Prop} [Decidable c] {e : CodecError} {k : Unit → Except CodecError α}
    (he : e.kind ≠ .internalConsistency) (hk : FailsOnly (k ()) CodecError.External) :
    FailsOnly (if c then MonadExcept.throw e >>= k else k ()) CodecError.External :=
  ite (bind (throwExternal he) fun _ => hk) hk

/-- A computation that stops only on an overflow fails for no internal
cause: an overflow stops the program. -/
theorem external {x : Except CodecError α} (hx : FailsOnly x Word.Overflow) :
    FailsOnly x CodecError.External :=
  hx.mono fun _ he => by rcases he with rfl | rfl <;> nofun

end FailsOnly

/-! ### Every check, from the plane layout up -/

theorem PlaneLayout.resolve_failsOnly (f : PixelFormat) (w h p : Nat) :
    FailsOnly (PlaneLayout.resolve f w h p) CodecError.External := by
  unfold PlaneLayout.resolve
  exact .ite (.errorExternal nofun) <| .ite (.errorExternal nofun) <|
    .ite (.errorExternal nofun) (.ok _)

theorem normalizeStream_failsOnly (s : Option Nat) :
    FailsOnly (normalizeStream s) CodecError.External := by
  unfold normalizeStream
  split
  · exact .errorExternal nofun
  all_goals exact .ok _

theorem DeviceMemory.deviceOf_failsOnly (m : DeviceMemory) (ptr : Nat) :
    FailsOnly (m.deviceOf ptr) CodecError.External := by
  unfold DeviceMemory.deviceOf
  exact .ite (.errorExternal nofun) (.ok _)

theorem coerce_failsOnly (m : DeviceMemory) (d : Int) (desc : ArrayInterface) (f : PixelFormat)
    (w h p : Nat) : FailsOnly (coerce m d desc f w h p) CodecError.External := by
  unfold coerce
  refine .bind (PlaneLayout.resolve_failsOnly f w h p) fun l => ?_
  refine .bind (normalizeStream_failsOnly _) fun s => ?_
  -- the sample type and the shape, then the strides when they are declared
  refine .guard nofun (.guard nofun ?_)
  split
  · exact .guard nofun <| .bind (m.deviceOf_failsOnly _) fun found => .guard nofun (.pure _)
  · exact .bind (m.deviceOf_failsOnly _) fun found => .guard nofun (.pure _)

theorem ensureFollows_failsOnly (plane : Nat) (previous next : PlaneView) :
    FailsOnly (ensureFollows plane previous next) CodecError.External := by
  unfold ensureFollows
  exact .ite (.errorExternal nofun) (.ok _)

theorem planeOffsets_failsOnly (f : PixelFormat) (w h : Nat) :
    FailsOnly (planeOffsets f w h) CodecError.External := by
  unfold planeOffsets
  exact .ite (.errorExternal nofun) <|
    .bind (.mapM (PlaneLayout.resolve_failsOnly f w h) _) fun layouts =>
      (offsetsFrom_failsOnly 0 layouts).external

namespace InputConfig

variable (c : InputConfig)

theorem coercePlanes_failsOnly (src : FrameSource) :
    FailsOnly (c.coercePlanes src) CodecError.External := by
  unfold coercePlanes
  split
  · exact .errorExternal nofun
  · exact .ite (.errorExternal nofun)
      (.mapM (fun _ => coerce_failsOnly _ _ _ _ _ _ _) _)

theorem prepareTensor_failsOnly (t : DlTensor) :
    FailsOnly (c.prepareTensor t) CodecError.External := by
  unfold prepareTensor
  refine .guard nofun <| .guard nofun <| .guard nofun <| .guard nofun ?_
  exact .bind (Word.add_failsOnly _ _).external fun _ => .bind (Word.mul_failsOnly _ _).external
    fun _ => .bind (Word.mul_failsOnly _ _).external fun _ =>
      .bind (Word.mul_failsOnly _ _).external fun _ => .pure _

theorem prepareDevice_failsOnly (src : FrameSource) :
    FailsOnly (c.prepareDevice src) CodecError.External := by
  unfold prepareDevice
  split
  case h_1 | h_2 | h_3 | h_4 =>
    split
    · exact .errorExternal nofun
    · exact .bind (coerce_failsOnly _ _ _ _ _ _ _) fun _ => .pure _
  case h_5 | h_6 =>
    split
    · exact c.prepareTensor_failsOnly _
    · refine .bind (c.coercePlanes_failsOnly src) fun planes => ?_
      split
      · exact .guard nofun <| .bind (ensureFollows_failsOnly _ _ _) fun _ => .pure _
      · exact .throwExternal nofun
  case h_7 | h_8 | h_9 =>
    refine .bind (c.coercePlanes_failsOnly src) fun planes => ?_
    split
    · exact .guard nofun <| .bind (ensureFollows_failsOnly _ _ _) fun _ =>
        .bind (ensureFollows_failsOnly _ _ _) fun _ => .pure _
    · exact .throwExternal nofun
  case h_10 => exact .errorExternal nofun

theorem prepareHost_failsOnly (length : Nat) :
    FailsOnly (c.prepareHost length) CodecError.External := by
  unfold prepareHost
  exact .bind (planeOffsets_failsOnly _ _ _) fun offsets =>
    .guard nofun <| .bind (PlaneLayout.resolve_failsOnly _ _ _ _) fun _ => .pure _

/-- **The input check fails only externally**: a refused frame is the fault of
its layout, of a misused protocol or of the device query, never of broken
internal bookkeeping. -/
theorem prepare_failsOnly_external (src : FrameSource) :
    FailsOnly (c.prepare src) CodecError.External := by
  unfold prepare
  split
  · exact c.prepareDevice_failsOnly src
  · split
    · exact .ite (c.prepareHost_failsOnly _) (.errorExternal nofun)
    · exact .errorExternal nofun

end InputConfig

end VideoCodec
