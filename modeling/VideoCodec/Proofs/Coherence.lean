import Mathlib
import VideoCodec.Config.Session
import VideoCodec.Proofs.Outcome
/-!
# Session parameters whose parts agree

The fields of a set of session parameters are written at different times by
different steps of the resolver: the sizes by the size option, the frame rate
by its parser, the GOP structure and the profile by the encode configuration,
the bit depths, reference counts and usability information by the codec
settings. A reconfiguration then mixes live parameters with new options. This
file names the rules that tie the fields together (`InitializeParams.Coherent`)
and proves that every step of a configuration session keeps them:

* the codec settings are those of the session's codec, and the profile is the
  one they call for;
* an infinite GOP has no B frames (`frameIntervalP = 1`);
* the display-aspect size is the encode size;
* the frame rate is positive, over a denominator of 1, 10 or 100;
* HEVC and AV1 read and write samples of one bit depth;
* every reference count is at most six;
* the usability information signals timing exactly when both of its values
  are non-zero, one colour standard for primaries, transfer and matrix, and
  the signal type, full range and colour description exactly when that
  standard is specified.

Each step of the resolver gets one lemma that says everything it does
(`withSize_returnsOnly`, `withFrameRate_returnsOnly`) or what its result
satisfies (`encodeConfigOf_coherent`), and the resolver is read through them
(`resolveInto_coherent`). A session step commits only a successful result, so
the rules hold after every step that resolves options
(`ConfigSession.run_coherent`). Writing a patched changeable part back is the
one step that does not keep them: a patch may set the frame rate to zero.
-/

namespace VideoCodec

/-! ### The rules -/

namespace Vui

/-- **Usability information whose parts agree**: timing is signalled exactly
when both timing values are non-zero, primaries, transfer and matrix name one
standard, and the signal type, full range and colour description are present
exactly when that standard is specified. -/
structure Coherent (v : Vui) : Prop where
  timing : v.timingInfoPresent = true ↔ v.numUnitInTicks ≠ 0 ∧ v.timeScale ≠ 0
  transfer : v.colourPrimaries = v.transferCharacteristics
  matrix : v.transferCharacteristics = v.colourMatrix
  signalType : v.videoSignalTypePresent = v.videoFullRange
  fullRange : v.videoFullRange = v.colourDescriptionPresent
  colourDescription : v.colourDescriptionPresent = (v.colourPrimaries != .unspecified)

end Vui

namespace CodecConfig

/-- The reference counts of the settings: the two lists of H.264 and HEVC, the
forward and backward references of AV1. -/
def refCounts : CodecConfig → List Nat
  | .h264 c => [c.numRefL0, c.numRefL1]
  | .hevc c => [c.numRefL0, c.numRefL1]
  | .av1 c => [c.numFwdRefs, c.numBwdRefs]

/-- The input and output bit depths of the settings; H.264 has none. -/
def bitDepths : CodecConfig → Option (BitDepth × BitDepth)
  | .h264 _ => none
  | .hevc c => some (c.inputBitDepth, c.outputBitDepth)
  | .av1 c => some (c.inputBitDepth, c.outputBitDepth)

/-- **Codec settings whose parts agree**: every reference count is 0 or one of
`1..6`, samples are read and written at one bit depth, and the usability
information agrees with itself. -/
structure Coherent (cc : CodecConfig) : Prop where
  refs : ∀ n ∈ cc.refCounts, n ≤ maxNumRefs
  depths : ∀ i o, cc.bitDepths = some (i, o) → i = o
  vui : cc.vui.Coherent

end CodecConfig

/-- **An encode configuration that agrees with itself and its codec**: the
codec settings are the codec's, the profile is the one they call for, and an
infinite GOP has no B frames. -/
structure EncodeConfig.Coherent (codec : Codec) (ec : EncodeConfig) : Prop where
  codec : ec.codecConfig.codec = codec
  profile : ec.profile = ec.codecConfig.profile
  gop : ec.gopLength = infiniteGopLength → ec.frameIntervalP = 1
  codecConfig : ec.codecConfig.Coherent

/-- A frame rate the frame-rate parser can give: a positive numerator over 1,
10 or 100. -/
structure FrameRateOk (num den : Nat) : Prop where
  num : 0 < num
  den : den = 1 ∨ den = 10 ∨ den = 100

/-- **Session parameters whose parts agree**: the encode configuration agrees
with itself and the session's codec, the display-aspect size is the encode
size, and the frame rate is one the parser can give. -/
structure InitializeParams.Coherent (p : InitializeParams) : Prop where
  encodeConfig : p.encodeConfig.Coherent p.codec
  darWidth : p.darWidth = p.encodeWidth
  darHeight : p.darHeight = p.encodeHeight
  frameRate : FrameRateOk p.frameRateNum p.frameRateDen

/-! ### The defaults -/

theorem Vui.default_coherent : ({} : Vui).Coherent :=
  ⟨by decide, rfl, rfl, rfl, rfl, rfl⟩

theorem CodecConfig.forCodec_coherent (c : Codec) : (CodecConfig.forCodec c).Coherent := by
  cases c <;> exact ⟨by decide, by simp [forCodec, bitDepths], Vui.default_coherent⟩

/-- The parameters a configuration session starts from agree. -/
theorem InitializeParams.default_coherent : ({} : InitializeParams).Coherent :=
  ⟨⟨rfl, rfl, by decide, CodecConfig.forCodec_coherent .h264⟩, rfl, rfl, ⟨by decide, .inl rfl⟩⟩

/-! ### Usability information -/

/-- No colour-space name reads as the unspecified standard. -/
theorem ColorStandard.ofName?_ne_unspecified (s : String) :
    ColorStandard.ofName? s ≠ some .unspecified := by
  unfold ColorStandard.ofName?
  dsimp only
  split_ifs <;> simp

theorem Vui.ofColorSpace_coherent (name : Option String) : (Vui.ofColorSpace name).Coherent := by
  unfold Vui.ofColorSpace
  split
  · rename_i c hc
    have hspec : c ≠ .unspecified := by
      rintro rfl
      obtain ⟨n, -, hn⟩ := Option.bind_eq_some_iff.mp hc
      exact ColorStandard.ofName?_ne_unspecified n hn
    exact ⟨by simp, rfl, rfl, rfl, rfl, by simp [hspec]⟩
  · exact Vui.default_coherent

/-- The usability information the options describe agrees with itself. -/
theorem Vui.ofOptions_coherent (o : EncoderOptions) : ReturnsOnly (Vui.ofOptions o) Vui.Coherent := by
  unfold Vui.ofOptions
  refine .bind (.any _) fun ticks _ => .bind (.any _) fun scale _ => .pure ?_
  have hc := Vui.ofColorSpace_coherent (o.get "colorspace")
  exact ⟨by simp, hc.transfer, hc.matrix, hc.signalType, hc.fullRange, hc.colourDescription⟩

/-! ### Codec settings -/

namespace CodecConfig

/-- A reference count option is kept only within `1..6`. -/
theorem refsOption_returnsOnly (o : EncoderOptions) (key : String) :
    ReturnsOnly (refsOption o key) fun n => ∀ k, n = some k → k ≤ maxNumRefs := by
  unfold refsOption
  refine .bind (.any _) fun n _ => .pure ?_
  intro k hk
  obtain ⟨-, hle⟩ := Option.filter_eq_some_iff.mp hk
  simp only [Bool.and_eq_true, decide_eq_true_eq] at hle
  exact hle.2

/-- A count that an option may replace stays at most six when both the option
and the old count are. -/
theorem getD_le_maxNumRefs {n : Option Nat} {d : Nat} (hn : ∀ k, n = some k → k ≤ maxNumRefs)
    (hd : d ≤ maxNumRefs) : n.getD d ≤ maxNumRefs := by
  cases n with
  | none => exact hd
  | some k => exact hn k rfl

/-- **Applying the codec options keeps the codec and the rules**: reference
counts outside `1..6` are ignored, both bit depths come from one input format,
and the usability information is built afresh. -/
theorem applyOptions_coherent (o : EncoderOptions) (gop : Nat) {cfg : CodecConfig}
    (hcfg : cfg.Coherent) :
    ReturnsOnly (cfg.applyOptions o gop) fun cc => cc.codec = cfg.codec ∧ cc.Coherent := by
  unfold applyOptions
  refine .bind (.any _) fun _ _ => .bind (.any _) fun _ _ => .bind (.any _) fun _ _ =>
    .bind (refsOption_returnsOnly o _) fun refs0 h0 =>
    .bind (refsOption_returnsOnly o _) fun refs1 h1 => .bind (.any _) fun _ _ =>
    .bind (.any _) fun _ _ => .bind (Vui.ofOptions_coherent o) fun vui hvui => .pure ?_
  -- each codec keeps its own counts where no option replaces them
  have hold := hcfg.refs
  cases cfg with
  | h264 c | hevc c | av1 c =>
    refine ⟨rfl, ⟨?_, by simp [bitDepths], hvui⟩⟩
    simp only [refCounts, List.mem_cons, List.not_mem_nil, or_false] at hold ⊢
    rintro n (rfl | rfl)
    · exact getD_le_maxNumRefs h0 (hold _ (.inl rfl))
    · exact getD_le_maxNumRefs h1 (hold _ (.inr rfl))

end CodecConfig

/-- **The encode configuration of a new session agrees with its codec.** The
profile is read off the codec settings after they are built, and an infinite
GOP forces P frames only. -/
theorem encodeConfigOf_coherent (o : EncoderOptions) (codec : Codec) (flags : ParentFlags) :
    ReturnsOnly (encodeConfigOf o codec flags) (EncodeConfig.Coherent codec) := by
  unfold encodeConfigOf encodeConfigFrom
  refine .bind (.any _) fun _ _ => .bind (.any _) fun gop _ => .bind (.any _) fun _ _ =>
    .bind (CodecConfig.applyOptions_coherent o _ (CodecConfig.forCodec_coherent codec))
      fun cc hcc => .pure ?_
  refine ⟨hcc.1.trans (CodecConfig.codec_forCodec codec), rfl, fun hinf => ?_, hcc.2⟩
  exact if_pos hinf

/-! ### Frame rates -/

/-- The longest prefix that fits in `n` bytes has at most `n` characters, each
taking a byte at least. -/
theorem prefixWithin_length_le (n : Nat) (cs : List Char) : (prefixWithin n cs).length ≤ n := by
  induction cs generalizing n with
  | nil => simp [prefixWithin]
  | cons c cs ih =>
    unfold prefixWithin
    split
    · rename_i hfit
      have hpos := Char.utf8Size_pos c
      have hrest := ih (n - c.utf8Size)
      simp only [List.length_cons]
      omega
    · simp

/-- The fraction of a frame rate keeps at most two digits. -/
theorem fractionDigits_returnsOnly (frac : List Char) :
    ReturnsOnly (fractionDigits frac) fun kept => kept.length ≤ 2 := by
  unfold fractionDigits
  exact .ite (.pure (prefixWithin_length_le 2 frac)) (.error _)

/-- A power of ten with at most two digits' worth of exponent is 1, 10 or 100. -/
theorem pow_ten_of_le_two {k : Nat} (hk : k ≤ 2) :
    Nat.pow 10 k = 1 ∨ Nat.pow 10 k = 10 ∨ Nat.pow 10 k = 100 := by
  have hcases : k = 0 ∨ k = 1 ∨ k = 2 := by omega
  rcases hcases with rfl | rfl | rfl
  · exact .inl rfl
  · exact .inr (.inl rfl)
  · exact .inr (.inr rfl)

/-- **A frame rate reads as a positive numerator over 1, 10 or 100.** -/
theorem readFrameRate_returnsOnly (s : String) :
    ReturnsOnly (readFrameRate s) fun r => FrameRateOk r.1 r.2 := by
  unfold readFrameRate
  refine .bind (fractionDigits_returnsOnly _) fun frac hfrac => .guard ?_
  split
  · rename_i num _
    dsimp only
    split
    · exact .throw _
    · rename_i hnum
      exact .pure ⟨Nat.pos_of_ne_zero hnum, pow_ten_of_le_two hfrac⟩
  · exact .throw _

/-! ### The steps of the resolver -/

/-- **What the size option does**: nothing, or it sets the encode and
display-aspect sizes to one width and height and sets the largest size. -/
theorem withSize_returnsOnly (o : EncoderOptions) (p : InitializeParams) :
    ReturnsOnly (withSize o p) fun q => q = p ∨ ∃ w h mw mh,
      q = { p with encodeWidth := w, encodeHeight := h, darWidth := w, darHeight := h,
                   maxEncodeWidth := mw, maxEncodeHeight := mh } := by
  unfold withSize
  split
  · exact .pure (.inl rfl)
  · refine .bind (.any _) fun wh _ => ?_
    obtain ⟨w, h⟩ := wh
    dsimp only
    -- the largest size is read from `max_res`, or is the size itself
    refine .ite ?_ (.bind (.any _) fun mwh _ => .pure (.inr ⟨w, h, mwh.1, mwh.2, rfl⟩))
    split
    · exact .bind (.any _) fun mwh _ => .pure (.inr ⟨w, h, mwh.1, mwh.2, rfl⟩)
    · exact .bind (.any _) fun mwh _ => .pure (.inr ⟨w, h, mwh.1, mwh.2, rfl⟩)

/-- **What the frame-rate option does**: nothing, or it sets a frame rate the
parser gives. -/
theorem withFrameRate_returnsOnly (o : EncoderOptions) (p : InitializeParams) :
    ReturnsOnly (withFrameRate o p) fun q => q = p ∨ ∃ num den, FrameRateOk num den ∧
      q = { p with frameRateNum := num, frameRateDen := den } := by
  unfold withFrameRate
  split
  · exact .pure (.inl rfl)
  · refine .bind (readFrameRate_returnsOnly _) fun rate hrate => ?_
    obtain ⟨num, den⟩ := rate
    exact .pure (.inr ⟨num, den, hrate, rfl⟩)

/-- The size option pairs the display-aspect size with the encode size and
touches neither the codec nor the frame rate. -/
theorem withSize_sizes (o : EncoderOptions) {p : InitializeParams}
    (hdar : p.darWidth = p.encodeWidth ∧ p.darHeight = p.encodeHeight) :
    ReturnsOnly (withSize o p) fun q =>
      q.darWidth = q.encodeWidth ∧ q.darHeight = q.encodeHeight ∧ q.codec = p.codec ∧
        q.frameRateNum = p.frameRateNum ∧ q.frameRateDen = p.frameRateDen := by
  refine (withSize_returnsOnly o p).mono fun q hq => ?_
  rcases hq with rfl | ⟨w, h, mw, mh, rfl⟩
  · exact ⟨hdar.1, hdar.2, rfl, rfl, rfl⟩
  · exact ⟨rfl, rfl, rfl, rfl, rfl⟩

/-- Rate control is no part of the rules. -/
theorem EncodeConfig.Coherent.withRc {codec : Codec} {ec : EncodeConfig} (h : ec.Coherent codec)
    (rc : RateControlConfig) : EncodeConfig.Coherent codec { ec with rc := rc } :=
  ⟨h.codec, h.profile, h.gop, h.codecConfig⟩

/-- The frame-rate option keeps the rules of parameters that agree. -/
theorem withFrameRate_coherent (o : EncoderOptions) {p : InitializeParams} (hp : p.Coherent) :
    ReturnsOnly (withFrameRate o p) InitializeParams.Coherent := by
  refine (withFrameRate_returnsOnly o p).mono fun q hq => ?_
  rcases hq with rfl | ⟨num, den, hrate, rfl⟩
  · exact hp
  · exact ⟨hp.encodeConfig, hp.darWidth, hp.darHeight, hrate⟩

/-- **A new session's parameters agree**, from any options: the codec settings
are built for the codec the session takes, the sizes come in pairs, and the
frame rate is the parser's or the default. -/
theorem resolve_coherent (o : EncoderOptions) :
    ReturnsOnly (resolve o) InitializeParams.Coherent := by
  rw [resolve, resolveInto_eq]
  refine .bind (.any _) fun codec _ => .guard (.ite_neg Bool.false_ne_true ?_)
  refine .bind (withSize_sizes o ⟨rfl, rfl⟩) fun p hp => ?_
  obtain ⟨hdarW, hdarH, hcodec, hnum, hden⟩ := hp
  refine .bind (withFrameRate_returnsOnly o p) fun q hq => ?_
  refine .bind (encodeConfigOf_coherent o _ _) fun ec hec => .pure ?_
  -- the encode configuration is built for the codec the session takes
  have hec' : ec.Coherent p.codec := hcodec ▸ hec
  rcases hq with rfl | ⟨num, den, hrate, rfl⟩
  · -- no frame-rate option: the default rate stands
    refine ⟨hec', hdarW, hdarH, ?_⟩
    rw [hnum, hden]
    exact InitializeParams.default_coherent.frameRate
  · exact ⟨hec', hdarW, hdarH, hrate⟩

/-- **A reconfiguration keeps the rules**: it changes only the frame rate, the
rate control and the tuning of parameters that agree. -/
theorem reconfigure_coherent (o : EncoderOptions) {p : InitializeParams} (hp : p.Coherent) :
    ReturnsOnly (reconfigure o p) InitializeParams.Coherent := by
  rw [reconfigure, resolveInto_eq]
  refine .bind (.any _) fun _ _ => .guard (.ite_pos rfl ?_)
  refine .bind (withFrameRate_coherent o hp) fun q hq => .bind (.any _) fun rc _ => .pure ?_
  exact ⟨hq.encodeConfig.withRc rc, hq.darWidth, hq.darHeight, hq.frameRate⟩

/-- Resolving into live parameters keeps the rules, as a new session or as a
reconfiguration. -/
theorem resolveInto_coherent (o : EncoderOptions) {p : InitializeParams} (hp : p.Coherent)
    (isReconfigure : Bool) :
    ReturnsOnly (resolveInto o p isReconfigure) InitializeParams.Coherent := by
  cases isReconfigure with
  | false => exact resolve_coherent o
  | true => exact reconfigure_coherent o hp

/-! ### Configuration sessions -/

/-- Whether a step writes a patched changeable part back. -/
def ConfigStep.patches : ConfigStep → Bool
  | .apply _ => true
  | _ => false

namespace ConfigSession

@[simp] theorem run_nil (p : InitializeParams) : run p [] = [] := rfl

@[simp] theorem run_cons (p : InitializeParams) (s : ConfigStep) (rest : List ConfigStep) :
    run p (s :: rest) = step p s :: run (step p s).2 rest := rfl

/-- A step that commits a result only when it succeeds keeps the rules when
every result keeps them. -/
theorem commit_coherent {x : Except CodecError InitializeParams} {p : InitializeParams}
    (hx : ReturnsOnly x InitializeParams.Coherent) (hp : p.Coherent) :
    (match x with
      | .ok q => ((.ok none : Except CodecError (Option ReconfigureParams)), q)
      | .error e => (.error e, p)).2.Coherent := by
  cases hres : x with
  | ok q => exact hx q hres
  | error e => exact hp

/-- **Every step but a patch keeps the rules.** -/
theorem step_coherent {p : InitializeParams} (hp : p.Coherent) (s : ConfigStep)
    (hs : s.patches = false) : (step p s).2.Coherent := by
  cases s with
  | resolve o => exact commit_coherent (resolve_coherent o) hp
  | reconfigure o => exact commit_coherent (reconfigure_coherent o hp) hp
  | resolveInto o isReconfigure =>
    exact commit_coherent (resolveInto_coherent o hp isReconfigure) hp
  | snapshot => exact hp
  | apply patch => cases hs

/-- **A run without patches keeps the rules after every step.** -/
theorem run_coherent {p : InitializeParams} (hp : p.Coherent) (steps : List ConfigStep)
    (hsteps : ∀ s ∈ steps, s.patches = false) : ∀ r ∈ run p steps, r.2.Coherent := by
  induction steps generalizing p with
  | nil => simp
  | cons s rest ih =>
    have hstep := step_coherent hp s (hsteps s List.mem_cons_self)
    intro r hr
    rw [run_cons, List.mem_cons] at hr
    rcases hr with rfl | hr
    · exact hstep
    · exact ih hstep (fun s' hs' => hsteps s' (List.mem_cons_of_mem s hs')) r hr

end ConfigSession

/-- **The parameters of a configuration session always agree.** Starting from
the default parameters, after every step of any sequence of resolutions,
reconfigurations, resolutions into the held parameters and snapshots, each
committed only on success: the codec settings are the session codec's and the
profile is theirs, an infinite GOP has `frameIntervalP = 1`, the display-aspect
size is the encode size, the frame rate is a positive numerator over 1, 10 or
100, HEVC and AV1 have one bit depth in and out, every reference count is 0 or
in `1..6`, and the usability information signals timing exactly when both
timing values are non-zero, one standard for primaries, transfer and matrix,
and the signal type, full range and colour description exactly when that
standard is specified. -/
theorem config_session_params_coherent (steps : List ConfigStep)
    (hsteps : ∀ s ∈ steps, s.patches = false) :
    ({} : InitializeParams).Coherent ∧ ∀ r ∈ ConfigSession.run {} steps, r.2.Coherent :=
  ⟨InitializeParams.default_coherent,
    ConfigSession.run_coherent InitializeParams.default_coherent steps hsteps⟩

/-- A session that resolves an HEVC configuration with out-of-range reference
counts and a colour space, reconfigures it and resolves into it afresh keeps
its parameters in agreement. -/
theorem hevc_session_params_coherent :
    (∀ s ∈ [ConfigStep.resolve (.ofPairs [("codec", "hevc"), ("s", "1920x1080"),
        ("numrefl0", "9"), ("colorspace", "BT709"), ("gop", "")]),
      .reconfigure (.ofPairs [("fps", "29.97"), ("bitrate", "4M")]),
      .resolveInto (.ofPairs [("codec", "av1"), ("timescale", "90000")]) false, .snapshot],
      s.patches = false) ∧
    ({} : InitializeParams).Coherent ∧
    ∀ r ∈ ConfigSession.run {} [ConfigStep.resolve (.ofPairs [("codec", "hevc"),
        ("s", "1920x1080"), ("numrefl0", "9"), ("colorspace", "BT709"), ("gop", "")]),
      .reconfigure (.ofPairs [("fps", "29.97"), ("bitrate", "4M")]),
      .resolveInto (.ofPairs [("codec", "av1"), ("timescale", "90000")]) false, .snapshot],
      r.2.Coherent :=
  ⟨by decide, config_session_params_coherent _ (by decide)⟩

end VideoCodec
