import Mathlib
import VideoCodec.Proofs.RateOptions
import VideoCodec.Proofs.RateText
import VideoCodec.Proofs.Coherence
import VideoCodec.Proofs.PlaneList
/-!
# Reconfiguring a live session

`reconfigure` runs the resolver on the parameters of a live session, in the
mode that keeps everything a session cannot change in place. This file says
exactly what it changes, when it refuses, and that it is a projection.

| property | theorem |
|---|---|
| the result, step by step | `VideoCodec.reconfigure_eq_ok_iff` |
| every failure | `VideoCodec.reconfigure_failsOnly` |
| only rate control, frame rate and tuning change | `VideoCodec.reconfigure_frame` |
| a second pass changes nothing | `VideoCodec.reconfigure_idempotent` |

A reconfiguration reads three things from the options: the codec, only to
refuse one other than the session's; the frame rate; and the rate-control
options, under the flags that the preset and tuning options set
(`VideoCodec.optionFlags`). The codec, preset, sizes, GOP, profile and codec
settings of the result are the live session's.

Both halves of idempotence come from the same fact: each step writes a value
that depends on the options alone, or leaves the field as it was. The frame
rate is the option's or the current one (`VideoCodec.frameRateOption_idem`),
and rate control is its precedence table, a projection
(`VideoCodec.RateControlConfig.applyOptions_idem`). A new session's rate
control went through the same table under the same flags, so reconfiguring
it with its own options changes its tuning only.
-/

namespace VideoCodec

/-- The flags that the preset and tuning options set for the rate control of a
session on `codec`. -/
def optionFlags (o : EncoderOptions) (codec : Codec) : ParentFlags :=
  let preset := PresetProperties.lookup ((o.get "preset").getD "P4")
  parentFlags codec preset (tuningOption o preset)

/-- The frame rate after the `fps` option: the rate it gives, or `rate` when it
is absent. -/
def frameRateOption (o : EncoderOptions) (rate : Nat × Nat) : Except CodecError (Nat × Nat) :=
  match o.get "fps" with
  | some fps => readFrameRate fps
  | none => .ok rate

variable {o : EncoderOptions}

/-! ### What the rate-control options fail with -/

namespace RateControlConfig

/-- **Every failure names its option**: a failure of the rate-control options
is the fault of one of the checked options, for the value that option has. -/
theorem mem_faults {e : CodecError} (h : e ∈ faults o) :
    ∃ key kind v, (key, kind) ∈ checkedOptions ∧ o.get key = some v ∧
      kind.reads v = false ∧ e = kind.fault key v := by
  obtain ⟨⟨key, kind⟩, hmem, hf⟩ := List.mem_filterMap.1 h
  unfold optionFault at hf
  cases hv : o.get key with
  | none => simp [hv] at hf
  | some v =>
    cases hr : kind.reads v
    · simp only [hv, hr, Option.bind_some] at hf
      exact ⟨key, kind, v, hmem, hv, hr, (Option.some.inj hf).symm⟩
    · simp [hv, hr] at hf

theorem applyOptions_failsOnly (flags : ParentFlags) (rc : RateControlConfig) :
    FailsOnly (rc.applyOptions o flags) (· ∈ faults o) := by
  intro e he
  cases hf : (faults o).head? with
  | none =>
    rw [applyOptions_of_faultless (List.head?_eq_none_iff.1 hf)] at he
    cases he
  | some e' =>
    rw [applyOptions_of_fault hf] at he
    cases he
    exact List.mem_of_mem_head? hf

/-- No rate-control option fails as the codec option. -/
theorem fault_ne_codec {e : CodecError} (h : e ∈ faults o) (v : String) :
    e ≠ .invalidOption "codec" v := by
  obtain ⟨key, kind, w, hmem, -, -, rfl⟩ := mem_faults h
  -- a fault names the option it checks, and no checked option is the codec's
  have hkey : key ≠ "codec" := by
    rintro rfl
    simp [checkedOptions] at hmem
  cases kind <;> simp [RateValue.fault, hkey]

end RateControlConfig

/-! ### The codec and frame-rate steps -/

/-- An unknown codec name is the only failure of the codec option. -/
theorem codecOption_error {e : CodecError} (h : codecOption o = .error e) :
    ∃ name, e = .invalidCodec name := by
  unfold codecOption at h
  simp only at h
  split at h
  · cases h
  · cases h
    exact ⟨_, rfl⟩

/-- A codec option that names a codec gives it. -/
theorem codecOption_of_named {c : Codec} (h : (o.get "codec").bind Codec.ofName? = some c) :
    codecOption o = .ok c := by
  unfold codecOption
  cases hv : o.get "codec" with
  | none => simp [hv] at h
  | some v =>
    simp only [hv, Option.bind_some] at h
    simp [h]

/-- A codec option given and read names the codec it gives. -/
theorem named_of_codecOption {c : Codec} (h : codecOption o = .ok c)
    (hgiven : (o.get "codec").isSome = true) : (o.get "codec").bind Codec.ofName? = some c := by
  obtain ⟨v, hv⟩ := Option.isSome_iff_exists.1 hgiven
  unfold codecOption at h
  rw [hv] at h
  simp only [hv, Option.getD_some, Option.bind_some] at h ⊢
  split at h
  · next c' hc' =>
    cases h
    exact hc'
  · cases h

theorem withFrameRate_eq (o : EncoderOptions) (p : InitializeParams) :
    withFrameRate o p =
      (fun r : Nat × Nat => { p with frameRateNum := r.1, frameRateDen := r.2 }) <$>
        frameRateOption o (p.frameRateNum, p.frameRateDen) := by
  unfold withFrameRate frameRateOption
  cases o.get "fps" with
  | none => rfl
  | some fps =>
    rcases hr : readFrameRate fps with e | ⟨num, den⟩
    · simp only [hr, bind, Except.bind, Functor.map, Except.map]
    · simp only [hr, bind, Except.bind, Functor.map, Except.map]
      rfl

/-- The frame rate fails only where the `fps` option is malformed. -/
theorem frameRateOption_failsOnly (rate : Nat × Nat) :
    FailsOnly (frameRateOption o rate) fun e => ∃ fps, o.get "fps" = some fps ∧
      (e = .invalidFrameRate fps ∨ ∃ msg, e = .halted msg) := by
  unfold frameRateOption
  split
  · next fps hfps => exact fun e he => ⟨fps, hfps, readFrameRate_failsOnly fps e he⟩
  · exact .ok _

/-- **The frame rate is a projection**: the rate it gives is the rate it gives
again, the `fps` option's, or the current one when that is absent. -/
theorem frameRateOption_idem {a b : Nat × Nat} (h : frameRateOption o a = .ok b) :
    frameRateOption o b = .ok b := by
  unfold frameRateOption at h ⊢
  split
  · next fps hfps =>
    rw [hfps] at h
    exact h
  · rfl

/-! ### The steps of a reconfiguration -/

theorem reconfigure_eq (o : EncoderOptions) (L : InitializeParams) :
    reconfigure o L = codecOption o >>= fun named =>
      if (named != L.codec && (o.get "codec").isSome) = true then
        .error (.invalidOption "codec" named.name)
      else withFrameRate o L >>= fun next =>
        next.encodeConfig.rc.applyOptions o (optionFlags o L.codec) >>= fun rc =>
          pure { next with encodeConfig := { next.encodeConfig with rc := rc },
                           tuningInfo := .lowLatency } := by
  rfl

/-- The codec check of a reconfiguration passes: the codec option reads and
names no codec other than `codec`. -/
def KeepsCodec (o : EncoderOptions) (codec : Codec) : Prop :=
  ∃ named, codecOption o = .ok named ∧ (named != codec && (o.get "codec").isSome) = false

/-- **A reconfiguration, step by step**: it succeeds exactly when the codec
check passes and the frame rate and rate-control options read, and then gives
the live parameters with these and low-latency tuning. -/
theorem reconfigure_eq_ok_iff {L R : InitializeParams} :
    reconfigure o L = .ok R ↔ KeepsCodec o L.codec ∧ ∃ num den rc,
      frameRateOption o (L.frameRateNum, L.frameRateDen) = .ok (num, den) ∧
      L.encodeConfig.rc.applyOptions o (optionFlags o L.codec) = .ok rc ∧
      R = { L with encodeConfig := { L.encodeConfig with rc := rc },
                   frameRateNum := num, frameRateDen := den, tuningInfo := .lowLatency } := by
  rw [reconfigure_eq, withFrameRate_eq]
  constructor
  · intro h
    rcases hc : codecOption o with e | named
    · rw [hc] at h
      cases h
    cases hcheck : (named != L.codec && (o.get "codec").isSome)
    · -- the check passed: the frame rate and the options decide the rest
      rcases hfps : frameRateOption o (L.frameRateNum, L.frameRateDen) with e | ⟨num, den⟩ <;>
        rcases hrc : L.encodeConfig.rc.applyOptions o (optionFlags o L.codec) with e | rc <;>
        simp only [hc, hcheck, hfps, hrc, bind, Except.bind, Functor.map, Except.map, pure,
          Except.pure, Bool.false_eq_true, ↓reduceIte, reduceCtorEq] at h
      exact ⟨⟨named, hc, hcheck⟩, num, den, rc, rfl, rfl, (Except.ok.inj h).symm⟩
    · simp [hc, hcheck, bind, Except.bind] at h
  · rintro ⟨⟨named, hc, hcheck⟩, num, den, rc, hfps, hrc, rfl⟩
    simp only [hc, hcheck, hfps, hrc, bind, Except.bind, Functor.map, Except.map, pure,
      Except.pure, Bool.false_eq_true, ↓reduceIte]

/-- **Every failure of a reconfiguration**: an unknown codec name, a known codec
other than the session's, a malformed frame rate, or a malformed rate-control
option. -/
theorem reconfigure_failsOnly (o : EncoderOptions) (L : InitializeParams) :
    FailsOnly (reconfigure o L) fun e => (∃ name, e = .invalidCodec name) ∨
      (∃ c, (o.get "codec").bind Codec.ofName? = some c ∧ c ≠ L.codec ∧
        e = .invalidOption "codec" c.name) ∨
      (∃ fps, o.get "fps" = some fps ∧ (e = .invalidFrameRate fps ∨ ∃ msg, e = .halted msg)) ∨
      e ∈ RateControlConfig.faults o := by
  rw [reconfigure_eq]
  refine .bind_ok (fun e he => .inl (codecOption_error he)) fun named hnamed => ?_
  split
  · next hcheck =>
    -- the check failed: the option was given, and names another codec
    simp only [Bool.and_eq_true, bne_iff_ne, ne_eq] at hcheck
    exact .error (.inr (.inl ⟨named, named_of_codecOption hnamed hcheck.2, hcheck.1, rfl⟩))
  · rw [withFrameRate_eq]
    refine .bind (fun e he => ?_) fun next => .bind (fun e he => ?_) fun rc => .pure _
    · rcases hfr : frameRateOption o (L.frameRateNum, L.frameRateDen) with e' | rate
      · rw [hfr] at he
        cases he
        exact .inr (.inr (.inl (frameRateOption_failsOnly _ _ hfr)))
      · rw [hfr] at he
        cases he
    · exact .inr (.inr (.inr (RateControlConfig.applyOptions_failsOnly _ _ e he)))

/-- A codec option naming another codec is refused. -/
theorem reconfigure_of_other_codec {L : InitializeParams} {c : Codec}
    (hc : (o.get "codec").bind Codec.ofName? = some c) (hne : c ≠ L.codec) :
    reconfigure o L = .error (.invalidOption "codec" c.name) := by
  have hgiven : (o.get "codec").isSome = true := by
    cases hv : o.get "codec" with
    | none => simp [hv] at hc
    | some v => rfl
  rw [reconfigure_eq, codecOption_of_named hc]
  simp [hne, hgiven, bind, Except.bind]

/-- **A reconfiguration changes three things.** What it returns is the live
parameters with the rate control that the options settle under the flags of
their preset and tuning, the frame rate of the `fps` option (the live one when
it is absent), and low-latency tuning: the codec, preset, sizes, GOP, profile
and codec settings stay. It refuses the codec option exactly when that names a
known codec other than the session's. -/
theorem reconfigure_frame (o : EncoderOptions) (L : InitializeParams) :
    (∀ R, reconfigure o L = .ok R → ∃ rc num den,
      L.encodeConfig.rc.applyOptions o (optionFlags o L.codec) = .ok rc ∧
      frameRateOption o (L.frameRateNum, L.frameRateDen) = .ok (num, den) ∧
      R = { L with encodeConfig := { L.encodeConfig with rc := rc },
                   frameRateNum := num, frameRateDen := den, tuningInfo := .lowLatency }) ∧
    ((∃ v, reconfigure o L = .error (.invalidOption "codec" v)) ↔
      ∃ c, (o.get "codec").bind Codec.ofName? = some c ∧ c ≠ L.codec) := by
  refine ⟨fun R h => ?_, ⟨fun ⟨v, h⟩ => ?_, fun ⟨c, hc, hne⟩ => ⟨c.name, reconfigure_of_other_codec hc hne⟩⟩⟩
  · obtain ⟨-, num, den, rc, hfps, hrc, rfl⟩ := reconfigure_eq_ok_iff.1 h
    exact ⟨rc, num, den, hrc, hfps, rfl⟩
  · -- of all the failures, only the codec check names the codec option
    rcases reconfigure_failsOnly o L _ h with ⟨name, hname⟩ | ⟨c, hc, hne, -⟩ |
      ⟨fps, -, hfr | ⟨msg, hmsg⟩⟩ | hf
    · cases hname
    · exact ⟨c, hc, hne⟩
    · cases hfr
    · cases hmsg
    · exact absurd rfl (RateControlConfig.fault_ne_codec hf v)

/-- A frame rate and a bitrate given to a default session set them and keep
its codec settings, and an HEVC codec option given to it is refused. -/
theorem fps_bitrate_reconfiguration :
    (∃ R, reconfigure (.ofPairs [("fps", "60"), ("bitrate", "8M")]) {} = .ok R ∧
      R.frameRateNum = 60 ∧ R.encodeConfig.rc.averageBitrate = 8388608 ∧
      R.encodeConfig.codecConfig = ({} : InitializeParams).encodeConfig.codecConfig) ∧
    ∃ v, reconfigure (.ofPairs [("codec", "hevc")]) {} = .error (.invalidOption "codec" v) := by
  refine ⟨?_, (reconfigure_frame _ {}).2.2 ⟨.hevc, by decide, by decide⟩⟩
  obtain ⟨R, hok⟩ : ∃ R,
      reconfigure (.ofPairs [("fps", "60"), ("bitrate", "8M")]) {} = .ok R := ⟨_, rfl⟩
  obtain ⟨rc, num, den, hrc, hfps, rfl⟩ := (reconfigure_frame _ {}).1 R hok
  have hrate : frameRateOption (.ofPairs [("fps", "60"), ("bitrate", "8M")]) (30, 1) =
      .ok (60, 1) := rfl
  rw [hrate] at hfps
  cases hfps
  obtain ⟨-, rfl⟩ := RateControlConfig.applyOptions_eq_ok_iff.1 hrc
  exact ⟨_, hok, rfl, rfl, rfl⟩

/-! ### Idempotence -/

/-- The encode configuration of a new session holds rate control that the
options leave as it is. -/
theorem encodeConfigOf_rc (o : EncoderOptions) (codec : Codec) (flags : ParentFlags) :
    ReturnsOnly (encodeConfigOf o codec flags) fun ec =>
      ec.rc.applyOptions o flags = .ok ec.rc := by
  unfold encodeConfigOf encodeConfigFrom
  refine .bind (.any _) fun _ _ => .bind (.any _) fun _ _ =>
    .bind (fun rc hrc => RateControlConfig.applyOptions_idem hrc) fun rc hrc =>
      .bind (.any _) fun _ _ => .pure hrc

/-- What a reconfiguration reads of a new session is already in place: its
codec is the one the options name, its frame rate the option's, and its rate
control the options' table. -/
theorem resolve_settled (o : EncoderOptions) :
    ReturnsOnly (resolve o) fun P => ∃ named, codecOption o = .ok named ∧ P.codec = named ∧
      frameRateOption o (P.frameRateNum, P.frameRateDen) = .ok (P.frameRateNum, P.frameRateDen) ∧
      P.encodeConfig.rc.applyOptions o (optionFlags o named) = .ok P.encodeConfig.rc := by
  rw [resolve, resolveInto_eq]
  refine .bind (fun named h => h) fun named hnamed => .guard (.ite_neg Bool.false_ne_true ?_)
  refine .bind (withSize_sizes o ⟨rfl, rfl⟩) fun p hp => ?_
  refine .bind (fun q h => h) fun q hq => ?_
  refine .bind (encodeConfigOf_rc o _ _) fun ec hec => .pure ?_
  rw [withFrameRate_eq] at hq
  rcases hfr : frameRateOption o (p.frameRateNum, p.frameRateDen) with e | ⟨num, den⟩ <;>
    rw [hfr] at hq <;> cases hq
  exact ⟨named, hnamed, hp.2.2.1, frameRateOption_idem hfr, hec⟩

/-- **Reconfiguration is idempotent**: reconfiguring the result with the same
options gives it back. And a new session reconfigured with its own options
changes its tuning only. -/
theorem reconfigure_idempotent (o : EncoderOptions) :
    (∀ L R, reconfigure o L = .ok R → reconfigure o R = .ok R) ∧
    ∀ P, resolve o = .ok P → reconfigure o P = .ok { P with tuningInfo := .lowLatency } := by
  constructor
  · intro L R h
    obtain ⟨hcodec, num, den, rc, hfps, hrc, rfl⟩ := reconfigure_eq_ok_iff.1 h
    exact reconfigure_eq_ok_iff.2
      ⟨hcodec, num, den, rc, frameRateOption_idem hfps, RateControlConfig.applyOptions_idem hrc, rfl⟩
  · intro P hP
    obtain ⟨named, hnamed, hcodec, hfps, hrc⟩ := resolve_settled o P hP
    -- the session's codec is the one the options name, so the check passes
    have hkeep : KeepsCodec o P.codec := ⟨named, hnamed, by simp [hcodec]⟩
    exact reconfigure_eq_ok_iff.2 ⟨hkeep, _, _, _, hfps, hcodec ▸ hrc, rfl⟩


/-- An HEVC session at 1080p, 29.97 frames a second and 4 Mbit/s, reconfigured
with its own options, changes its tuning only; reconfigured again, nothing. -/
theorem hevc_session_reconfigured_by_own_options :
    ∃ P, resolve (.ofPairs [("codec", "hevc"), ("s", "1920x1080"), ("fps", "29.97"),
        ("bitrate", "4M")]) = .ok P ∧
      reconfigure (.ofPairs [("codec", "hevc"), ("s", "1920x1080"), ("fps", "29.97"),
        ("bitrate", "4M")]) P = .ok { P with tuningInfo := .lowLatency } ∧
      reconfigure (.ofPairs [("codec", "hevc"), ("s", "1920x1080"), ("fps", "29.97"),
        ("bitrate", "4M")]) { P with tuningInfo := .lowLatency } =
        .ok { P with tuningInfo := .lowLatency } := by
  obtain ⟨P, hP⟩ : ∃ P, resolve (.ofPairs [("codec", "hevc"), ("s", "1920x1080"),
      ("fps", "29.97"), ("bitrate", "4M")]) = .ok P := ⟨_, rfl⟩
  have h := (reconfigure_idempotent _).2 P hP
  exact ⟨P, hP, h, (reconfigure_idempotent _).1 P _ h⟩

end VideoCodec
