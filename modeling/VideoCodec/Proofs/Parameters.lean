import VideoCodec.Proofs.Session
import VideoCodec.Proofs.Resolve
/-!
# Session parameters follow the settings

A session keeps three views of its parameters: its own copy, the changeable
part it reports, and the parameters the engine is open with. This file proves
that they stay in step over every run of calls (`Encoder.ParamsInSync`): the
engine is open with the session's copy, the changeable part is read off it,
and the copy fits the settings the session was created with. The encode and
display sizes are the settings' width and height, the chroma format is 4:4:4
exactly for a full-chroma format, and HEVC and AV1 take ten bits exactly for a
format with more than eight.

Only a reconfiguration touches the parameters. It reads the live ones back from
the engine, which are the session's own, and either the engine declines and
nothing changes, or it accepts parameters of the same shape
(`InitializeParams.SameShape`), which fit the settings as the old ones did.
What an accepted reconfiguration writes is read off the same lemmas
(`params_follow_settings`).
-/

namespace VideoCodec

namespace Encoder

/-- **The parameters in step**: the engine is open with the session's
parameters, the changeable part the session reports is read off them, and they
fit the session's settings. -/
structure ParamsInSync (enc : Encoder) : Prop where
  /-- The engine is open with the session's parameters. -/
  opened : enc.engine.opened = some enc.params
  /-- The changeable part is that of the session's parameters. -/
  reconfigureParams : enc.reconfigureParams = ReconfigureParams.ofParams enc.params
  /-- The parameters fit the settings. -/
  fits : enc.params.FitsSettings enc.settings

namespace ParamsInSync

variable {enc enc' : Encoder}

/-- A session just created has its parameters in step. -/
theorem of_create {settings : EncoderSettings} {e : EncodeEngine} {mem : DeviceMemory}
    (hcreate : Encoder.create settings e mem = .ok enc) : ParamsInSync enc := by
  obtain ⟨params, hres, rfl⟩ := create_eq_ok.mp hcreate
  exact ⟨rfl, rfl, resolve_resolvedOptions settings params hres⟩

theorem of_sameParams (h : ParamsInSync enc) (hs : SameParams enc enc')
    (hset : enc'.settings = enc.settings) : ParamsInSync enc' where
  opened := by rw [hs.opened, hs.params]; exact h.opened
  reconfigureParams := by rw [hs.reconfigureParams, hs.params]; exact h.reconfigureParams
  fits := by rw [hs.params, hset]; exact h.fits

/-- The live parameters a reconfiguration reads back are the session's own. -/
theorem currentParams (h : ParamsInSync enc) : enc.engine.currentParams = .ok enc.params := by
  rw [EncodeEngine.currentParams, h.opened]

/-- Offering parameters of the same shape keeps the parameters in step,
whether the engine takes them or not. -/
theorem applyReconfigure (h : ParamsInSync enc) {next : InitializeParams}
    (hs : enc.params.SameShape next) : ParamsInSync (enc.applyReconfigure next).2 := by
  rw [applyReconfigure_eq]
  split
  · exact h
  · exact ⟨rfl, rfl, h.fits.of_sameShape hs⟩

theorem reconfigure (h : ParamsInSync enc) (r : ReconfigureParams) :
    ParamsInSync (enc.reconfigure r).2 := by
  rw [reconfigure_eq_of_currentParams h.currentParams]
  -- the changeable part touches neither the sizes nor the codec settings
  exact h.applyReconfigure ⟨rfl, rfl, rfl, rfl, rfl⟩

theorem reconfigureWithOptions (h : ParamsInSync enc) (o : EncoderOptions) :
    ParamsInSync (enc.reconfigureWithOptions o).2 := by
  rw [reconfigureWithOptions_eq]
  split
  · exact h
  · rename_i next hnext
    rw [h.currentParams] at hnext
    exact h.applyReconfigure (reconfigure_sameShape o enc.params next hnext)

/-- **One call keeps the parameters in step.** -/
theorem perform (h : ParamsInSync enc) (op : SessionOp) : ParamsInSync (enc.perform op).2 := by
  cases op with
  | encode src ts =>
    exact h.of_sameParams (sameParams_encode enc src ts) (perform_settings enc (.encode src ts))
  | endEncode => exact h.of_sameParams (sameParams_endEncode enc) (perform_settings enc .endEncode)
  | reconfigure r => exact h.reconfigure r
  | reconfigureWithOptions o => exact h.reconfigureWithOptions o
  | registerInputFrame src =>
    exact h.of_sameParams (sameParams_registerInputFrame enc src)
      (perform_settings enc (.registerInputFrame src))

/-- **A run keeps the parameters in step.** -/
theorem run (h : ParamsInSync enc) (ops : List SessionOp) : ParamsInSync (enc.run ops).2 := by
  induction ops generalizing enc with
  | nil => exact h
  | cons op ops ih =>
    rw [run_cons]
    exact ih (h.perform op)

end ParamsInSync

/-! ### What a reconfiguration writes -/

variable {enc : Encoder}

/-- An offer the engine accepts writes the offered parameters and their
changeable part. -/
theorem applyReconfigure_of_accepted {next : InitializeParams}
    (hok : (enc.applyReconfigure next).1 = true) :
    (enc.applyReconfigure next).2.params = next ∧
      (enc.applyReconfigure next).2.reconfigureParams = ReconfigureParams.ofParams next := by
  rw [applyReconfigure_eq] at hok ⊢
  by_cases hreject : enc.engine.rejectReconfigure = true
  · rw [if_pos hreject] at hok
    cases hok
  · rw [if_neg hreject]
    exact ⟨rfl, rfl⟩

/-- An offer the engine declines changes nothing. -/
theorem applyReconfigure_of_declined {next : InitializeParams}
    (hno : (enc.applyReconfigure next).1 = false) : (enc.applyReconfigure next).2 = enc := by
  rw [applyReconfigure_eq] at hno ⊢
  by_cases hreject : enc.engine.rejectReconfigure = true
  · rw [if_pos hreject]
  · rw [if_neg hreject] at hno
    cases hno

/-- On a session in step, a reconfiguration is accepted exactly when the
engine does not decline, and then it writes the new changeable part over the
parameters, marked low-latency; the session then reports that changeable
part. -/
theorem reconfigure_of_accepted (h : ParamsInSync enc) {r : ReconfigureParams}
    (hok : (enc.reconfigure r).1 = .ok true) :
    (enc.reconfigure r).2.params = { r.applyTo enc.params with tuningInfo := .lowLatency } ∧
      (enc.reconfigure r).2.reconfigureParams = r := by
  rw [reconfigure_eq_of_currentParams h.currentParams] at hok ⊢
  obtain ⟨hparams, hchangeable⟩ := applyReconfigure_of_accepted (Except.ok.inj hok)
  -- the low-latency mark is not part of the changeable part
  exact ⟨hparams, hchangeable.trans (ReconfigureParams.ofParams_applyTo r enc.params)⟩

/-- On a session in step, a reconfiguration that is declined or fails changes
no parameters. -/
theorem reconfigure_of_declined (h : ParamsInSync enc) {r : ReconfigureParams}
    (hno : (enc.reconfigure r).1 ≠ .ok true) : SameParams enc (enc.reconfigure r).2 := by
  rw [reconfigure_eq_of_currentParams h.currentParams] at hno ⊢
  rw [applyReconfigure_of_declined (by simpa using hno)]
  exact .refl enc

/-- On a session in step, an accepted reconfiguration from options gives the
parameters the resolver makes of the options on the session's own. -/
theorem reconfigureWithOptions_of_accepted (h : ParamsInSync enc) {o : EncoderOptions}
    (hok : (enc.reconfigureWithOptions o).1 = .ok true) :
    VideoCodec.reconfigure o enc.params = .ok (enc.reconfigureWithOptions o).2.params := by
  rw [reconfigureWithOptions_eq] at hok ⊢
  cases hres : enc.engine.currentParams >>= VideoCodec.reconfigure o with
  | error err =>
    simp only [hres] at hok
    cases hok
  | ok next =>
    simp only [hres] at hok ⊢
    rw [(applyReconfigure_of_accepted (Except.ok.inj hok)).1]
    rw [h.currentParams] at hres
    exact hres

/-- A reconfiguration from options that is declined or fails changes no
parameters. -/
theorem reconfigureWithOptions_of_declined {o : EncoderOptions}
    (hno : (enc.reconfigureWithOptions o).1 ≠ .ok true) :
    SameParams enc (enc.reconfigureWithOptions o).2 := by
  rw [reconfigureWithOptions_eq] at hno ⊢
  cases hres : enc.engine.currentParams >>= VideoCodec.reconfigure o with
  | error err => exact .refl enc
  | ok next =>
    simp only [hres] at hno ⊢
    rw [applyReconfigure_of_declined (by simpa using hno)]
    exact .refl enc

/-! ### Over every run -/

variable {settings : EncoderSettings} {e : EncodeEngine} {mem : DeviceMemory}

/-- **Session parameters follow the settings.** On every session reached from
its creation by any calls, the engine is open with the session's parameters,
the changeable part the session reports is read off them, and they fit the
settings: the encode and display sizes are the settings' width and height, the
chroma format is 4:4:4 exactly for a full-chroma format, and for HEVC and AV1
both bit depths are ten exactly for a format of more than eight bits. A
reconfiguration the engine accepts writes the new changeable part over the
parameters, marked low-latency, and the session reports that part; one from
options gives what the resolver makes of the options on the old parameters;
one that is declined or fails changes none of the three. -/
theorem params_follow_settings (hcreate : Encoder.create settings e mem = .ok enc)
    (ops : List SessionOp) :
    let live := (enc.run ops).2
    live.engine.opened = some live.params ∧
      live.reconfigureParams = ReconfigureParams.ofParams live.params ∧
      live.params.FitsSettings settings ∧
      (∀ r, (live.reconfigure r).1 = .ok true →
        (live.reconfigure r).2.params = { r.applyTo live.params with tuningInfo := .lowLatency } ∧
        (live.reconfigure r).2.reconfigureParams = r) ∧
      (∀ r, (live.reconfigure r).1 ≠ .ok true → SameParams live (live.reconfigure r).2) ∧
      (∀ o, (live.reconfigureWithOptions o).1 = .ok true →
        VideoCodec.reconfigure o live.params = .ok (live.reconfigureWithOptions o).2.params) ∧
      (∀ o, (live.reconfigureWithOptions o).1 ≠ .ok true →
        SameParams live (live.reconfigureWithOptions o).2) := by
  intro live
  have h : ParamsInSync live := (ParamsInSync.of_create hcreate).run ops
  -- no call changes the settings, and creation records them
  have hset : live.settings = settings := by
    obtain ⟨params, -, rfl⟩ := create_eq_ok.mp hcreate
    exact run_settings _ ops
  refine ⟨h.opened, h.reconfigureParams, hset ▸ h.fits, fun r hok => ?_, fun r hno => ?_,
    fun o hok => ?_, fun o hno => ?_⟩
  · exact reconfigure_of_accepted h hok
  · exact reconfigure_of_declined h hno
  · exact reconfigureWithOptions_of_accepted h hok
  · exact reconfigureWithOptions_of_declined hno

/-- An NV12 session at 64x32: whatever is called on it, its parameters follow
its settings. -/
theorem params_follow_settings_at_64x32 :
    ∃ enc, Encoder.create { width := 64, height := 32 } {} ⟨0⟩ = .ok enc ∧
      ∀ ops : List SessionOp,
        let live := (enc.run ops).2
        live.engine.opened = some live.params ∧
          live.reconfigureParams = ReconfigureParams.ofParams live.params ∧
          live.params.FitsSettings { width := 64, height := 32 } ∧
          (∀ r, (live.reconfigure r).1 = .ok true →
            (live.reconfigure r).2.params = { r.applyTo live.params with tuningInfo := .lowLatency } ∧
            (live.reconfigure r).2.reconfigureParams = r) ∧
          (∀ r, (live.reconfigure r).1 ≠ .ok true → SameParams live (live.reconfigure r).2) ∧
          (∀ o, (live.reconfigureWithOptions o).1 = .ok true →
            VideoCodec.reconfigure o live.params = .ok (live.reconfigureWithOptions o).2.params) ∧
          (∀ o, (live.reconfigureWithOptions o).1 ≠ .ok true →
            SameParams live (live.reconfigureWithOptions o).2) := by
  obtain ⟨enc, hcreate⟩ : ∃ enc, Encoder.create { width := 64, height := 32 } {} ⟨0⟩ = .ok enc :=
    ⟨_, rfl⟩
  exact ⟨enc, hcreate, params_follow_settings hcreate⟩

end Encoder

end VideoCodec
