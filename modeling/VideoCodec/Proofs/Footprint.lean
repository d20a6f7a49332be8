import Mathlib
import VideoCodec.Config.Resolve
/-!
# What resolution reads of the options

Resolution reads its options through `EncoderOptions.get`, which takes an
empty value for an absent one, and through one question about the raw map:
whether `max_res` was given at all. This file proves that it reads nothing
else. Two option maps that read alike on the recognised keys
(`EncoderOptions.Agree`) and agree on whether `max_res` was given resolve to
the same parameters or the same failure; a reconfiguration reads still fewer
keys, and none of the size, preset, GOP or codec options
(`resolution_reads_recognised_options`).

Each reader of the options gets one lemma that names the keys it reads
(`_congr`), and the resolver's lemmas are built from those of its parts, the
way the resolver is built from them. The preset drops out of a
reconfiguration because every preset sets the same flags
(`PresetProperties.lookup_flags`).
-/

namespace VideoCodec

namespace EncoderOptions

/-- Two option maps read alike on `keys`: each key has the same non-empty
value in both, or none in either. -/
def Agree (keys : List String) (o o' : EncoderOptions) : Prop :=
  ∀ k ∈ keys, o.get k = o'.get k

variable {keys keys' : List String} {o o' : EncoderOptions}

@[simp] theorem agree_nil : Agree [] o o' := fun _ hk => absurd hk List.not_mem_nil

@[simp] theorem agree_cons {k : String} :
    Agree (k :: keys) o o' ↔ o.get k = o'.get k ∧ Agree keys o o' := by
  simp [Agree]

@[simp] theorem agree_append : Agree (keys ++ keys') o o' ↔ Agree keys o o' ∧ Agree keys' o o' := by
  simp only [Agree, List.mem_append]
  exact ⟨fun h => ⟨fun k hk => h k (.inl hk), fun k hk => h k (.inr hk)⟩,
    fun h k hk => hk.elim (h.1 k) (h.2 k)⟩

/-- A number option reads only its own key. -/
theorem natOption_congr {limit : Nat} {key : String} (h : o.get key = o'.get key) :
    o.natOption limit key = o'.natOption limit key := by
  unfold natOption
  rw [h]

theorem intOption_congr {limit : Nat} {key : String} (h : o.get key = o'.get key) :
    o.intOption limit key = o'.intOption limit key := by
  unfold intOption
  rw [h]

end EncoderOptions

open EncoderOptions

/-! ### The keys each part reads -/

/-- The usability-information keys. -/
def vuiKeys : List String := ["colorspace", "num_unit_in_ticks", "timescale"]

/-- The codec-settings keys, the usability information's among them. -/
def codecKeys : List String :=
  ["fmt", "idrperiod", "repeatspspps", "numrefl0", "numrefl1", "slice_mode", "slice_data"] ++
    vuiKeys

/-- The rate-control keys. -/
def rateControlKeys : List String :=
  ["bitrate", "multipass", "ldkfs", "maxbitrate", "vbvbufsize", "vbvinit", "cq", "rc", "initqp",
    "qmin", "qmax", "constqp", "temporalaq", "lookahead", "aq"]

/-- The keys a reconfiguration reads: the codec, to refuse a change of it, the
tuning, the frame rate and rate control. -/
def reconfigureKeys : List String := ["codec", "tuning_info", "fps"] ++ rateControlKeys

/-- The keys a new session reads: codec, preset and tuning, the sizes, the
frame rate, the GOP structure, rate control and the codec settings. -/
def resolveKeys : List String :=
  ["codec", "preset", "tuning_info", "s", "max_res", "fps", "bf", "gop"] ++ rateControlKeys ++
    codecKeys

/-! ### The readers -/

variable {o o' : EncoderOptions}

theorem Vui.ofOptions_congr (h : Agree vuiKeys o o') : Vui.ofOptions o = Vui.ofOptions o' := by
  simp only [vuiKeys, agree_cons, agree_nil, and_true] at h
  obtain ⟨hcolour, hticks, hscale⟩ := h
  unfold Vui.ofOptions
  rw [natOption_congr hticks, natOption_congr hscale, hcolour]

namespace CodecConfig

theorem formatOption_congr (h : o.get "fmt" = o'.get "fmt") : formatOption o = formatOption o' := by
  unfold formatOption
  rw [h]

theorem refsOption_congr {key : String} (h : o.get key = o'.get key) :
    refsOption o key = refsOption o' key := by
  unfold refsOption
  rw [natOption_congr h]

/-- **The codec settings read only the codec keys.** -/
theorem applyOptions_congr (h : Agree codecKeys o o') (gop : Nat) (cfg : CodecConfig) :
    cfg.applyOptions o gop = cfg.applyOptions o' gop := by
  simp only [codecKeys, agree_append, agree_cons, agree_nil, and_true] at h
  obtain ⟨⟨hfmt, hidr, hrepeat, hrefs0, hrefs1, hslice, hdata⟩, hvui⟩ := h
  unfold applyOptions
  rw [formatOption_congr hfmt, natOption_congr hidr, natOption_congr hrepeat,
    refsOption_congr hrefs0, refsOption_congr hrefs1, natOption_congr hslice,
    natOption_congr hdata, Vui.ofOptions_congr hvui]

end CodecConfig

namespace RateControlConfig

theorem bitrateOption_congr {key : String} (h : o.get key = o'.get key) :
    bitrateOption o key = bitrateOption o' key := by
  unfold bitrateOption
  rw [h]

theorem qpOption_congr {key : String} (h : o.get key = o'.get key) :
    qpOption o key = qpOption o' key := by
  unfold qpOption
  rw [h]

/-- **Rate control reads only the rate-control keys.** -/
theorem applyOptions_congr (h : Agree rateControlKeys o o') (flags : ParentFlags)
    (rc : RateControlConfig) : rc.applyOptions o flags = rc.applyOptions o' flags := by
  simp only [rateControlKeys, agree_cons, agree_nil, and_true] at h
  obtain ⟨hbitrate, hmultipass, hldkfs, hmax, hvbv, hinit, hcq, hrc, hinitqp, hqmin, hqmax,
    hconstqp, htemporal, hlookahead, haq⟩ := h
  unfold applyOptions
  rw [bitrateOption_congr hbitrate, hmultipass, hldkfs, bitrateOption_congr hmax,
    bitrateOption_congr hvbv, bitrateOption_congr hinit, natOption_congr hcq, hrc,
    qpOption_congr hinitqp, qpOption_congr hqmin, qpOption_congr hqmax, qpOption_congr hconstqp,
    htemporal, natOption_congr hlookahead, natOption_congr haq]

end RateControlConfig

/-! ### The resolver -/

theorem codecOption_congr (h : o.get "codec" = o'.get "codec") : codecOption o = codecOption o' := by
  unfold codecOption
  rw [h]

theorem tuningOption_congr (h : o.get "tuning_info" = o'.get "tuning_info")
    (preset : PresetProperties) : tuningOption o preset = tuningOption o' preset := by
  unfold tuningOption
  rw [h]

/-- The sizes read `s`, `max_res`, and whether `max_res` was given at all. -/
theorem withSize_congr (h : Agree ["s", "max_res"] o o')
    (hmax : o.containsKey "max_res" = o'.containsKey "max_res") (p : InitializeParams) :
    withSize o p = withSize o' p := by
  simp only [agree_cons, agree_nil, and_true] at h
  obtain ⟨hs, hmaxRes⟩ := h
  unfold withSize
  rw [hs, hmax, hmaxRes]

theorem withFrameRate_congr (h : o.get "fps" = o'.get "fps") (p : InitializeParams) :
    withFrameRate o p = withFrameRate o' p := by
  unfold withFrameRate
  rw [h]

/-- The encode configuration reads `bf`, `gop`, rate control and the codec
settings. -/
theorem encodeConfigOf_congr (h : Agree (["bf", "gop"] ++ rateControlKeys ++ codecKeys) o o')
    (codec : Codec) (flags : ParentFlags) :
    encodeConfigOf o codec flags = encodeConfigOf o' codec flags := by
  simp only [agree_append, agree_cons, agree_nil, and_true] at h
  obtain ⟨⟨⟨hbf, hgop⟩, hrc⟩, hcodec⟩ := h
  unfold encodeConfigOf encodeConfigFrom
  simp only [intOption_congr hbf, natOption_congr hgop, RateControlConfig.applyOptions_congr hrc,
    CodecConfig.applyOptions_congr hcodec]

/-- Every preset, known or not, is modern and neither low-latency nor lossless,
so the flags a preset sets do not depend on its name. -/
theorem PresetProperties.lookup_flags (s : String) :
    (PresetProperties.lookup s).modern = true ∧ (PresetProperties.lookup s).lowLatency = false ∧
      (PresetProperties.lookup s).lossless = false := by
  unfold PresetProperties.lookup
  split <;> exact ⟨rfl, rfl, rfl⟩

/-- **A new session reads only the recognised keys**, and whether `max_res`
was given. -/
theorem resolve_congr (h : Agree resolveKeys o o')
    (hmax : o.containsKey "max_res" = o'.containsKey "max_res") : resolve o = resolve o' := by
  simp only [resolveKeys, agree_append, agree_cons, agree_nil, and_true] at h
  obtain ⟨⟨⟨hcodec, hpreset, htuning, hs, hmaxRes, hfps, hbf, hgop⟩, hrc⟩, hcc⟩ := h
  have hsize : Agree ["s", "max_res"] o o' := by simp [hs, hmaxRes]
  have hconfig : Agree (["bf", "gop"] ++ rateControlKeys ++ codecKeys) o o' := by
    simp only [agree_append, agree_cons, agree_nil, and_true]
    exact ⟨⟨⟨hbf, hgop⟩, hrc⟩, hcc⟩
  rw [resolve, resolve, resolveInto_eq, resolveInto_eq]
  simp only [codecOption_congr hcodec, hcodec, hpreset, tuningOption_congr htuning,
    withSize_congr hsize hmax, withFrameRate_congr hfps, encodeConfigOf_congr hconfig,
    RateControlConfig.applyOptions_congr hrc]

/-- **A reconfiguration reads only the codec, the tuning, the frame rate and
rate control.** The preset it reads sets the same flags whatever its name, and
the sizes, GOP and codec settings it keeps from the live parameters. -/
theorem reconfigure_congr (h : Agree reconfigureKeys o o') (live : InitializeParams) :
    reconfigure o live = reconfigure o' live := by
  simp only [reconfigureKeys, agree_append, agree_cons, agree_nil, and_true] at h
  obtain ⟨⟨hcodec, htuning, hfps⟩, hrc⟩ := h
  rw [reconfigure, reconfigure, resolveInto_eq, resolveInto_eq]
  simp only [codecOption_congr hcodec, hcodec, tuningOption, parentFlags,
    (PresetProperties.lookup_flags _).1, (PresetProperties.lookup_flags _).2.1,
    (PresetProperties.lookup_flags _).2.2, htuning, withFrameRate_congr hfps,
    RateControlConfig.applyOptions_congr hrc, if_true]

/-- **Resolution depends only on what the recognised options read as.** Two
option maps that read alike on every recognised key (an empty value reading
as an absent one) and agree on whether `max_res` was given at all resolve to
the same parameters or the same failure; for a reconfiguration of any live
parameters, reading alike on the codec, tuning, frame-rate and rate-control
keys is enough. So unknown keys and empty values (but an empty `max_res`) never
change a result, and a reconfiguration neither fails nor changes because of
the size, preset, GOP or codec-settings options. -/
theorem resolution_reads_recognised_options (o o' : EncoderOptions) :
    (Agree resolveKeys o o' → o.containsKey "max_res" = o'.containsKey "max_res" →
      resolve o = resolve o') ∧
    (Agree reconfigureKeys o o' → ∀ live, reconfigure o live = reconfigure o' live) :=
  ⟨resolve_congr, fun h live => reconfigure_congr h live⟩

/-- An unknown key and an empty `gop` change no new session, and a size, a
preset and a malformed GOP change no reconfiguration. -/
theorem unknown_and_ignored_options_read_alike :
    (Agree resolveKeys (.ofPairs [("s", "64x32"), ("gop", ""), ("junk", "1")])
        (.ofPairs [("s", "64x32")]) ∧
      (EncoderOptions.ofPairs [("s", "64x32"), ("gop", ""), ("junk", "1")]).containsKey "max_res" =
        (EncoderOptions.ofPairs [("s", "64x32")]).containsKey "max_res" ∧
      resolve (.ofPairs [("s", "64x32"), ("gop", ""), ("junk", "1")]) =
        resolve (.ofPairs [("s", "64x32")])) ∧
    (Agree reconfigureKeys (.ofPairs [("fps", "60"), ("s", "bad"), ("preset", "P1"), ("gop", "x")])
        (.ofPairs [("fps", "60")]) ∧
      reconfigure (.ofPairs [("fps", "60"), ("s", "bad"), ("preset", "P1"), ("gop", "x")]) {} =
        reconfigure (.ofPairs [("fps", "60")]) {}) := by
  have hresolve : Agree resolveKeys (.ofPairs [("s", "64x32"), ("gop", ""), ("junk", "1")])
      (.ofPairs [("s", "64x32")]) := by
    unfold Agree
    decide
  have hmax : (EncoderOptions.ofPairs [("s", "64x32"), ("gop", ""), ("junk", "1")]).containsKey
      "max_res" = (EncoderOptions.ofPairs [("s", "64x32")]).containsKey "max_res" := by
    decide
  have hreconfigure : Agree reconfigureKeys
      (.ofPairs [("fps", "60"), ("s", "bad"), ("preset", "P1"), ("gop", "x")])
      (.ofPairs [("fps", "60")]) := by
    unfold Agree
    decide
  exact ⟨⟨hresolve, hmax, (resolution_reads_recognised_options _ _).1 hresolve hmax⟩,
    ⟨hreconfigure, (resolution_reads_recognised_options _ _).2 hreconfigure {}⟩⟩

end VideoCodec
