import Mathlib
import VideoCodec.Media.Metadata
import VideoCodec.Proofs.Footprint
import VideoCodec.Proofs.Resolve
/-!
# Re-encoding a stream from its metadata

A container's description of its video stream becomes encoder options as text
(`StreamMetadata.encoderOptions`): the size as `WxH`, the frame rate with two
decimals, the codec by name and the colour space by the name of its standard.
The resolver reads them back through three parsers of its own. This file proves
that nothing is lost on the way for every stream whose rate is written as a
positive number of hundredths (`metadata_options_reencode_stream`):

* the options give the stream's size, rate, codec and colour space and nothing
  else (`StreamMetadata.raw?_encoderOptions`);
* a rate written as `D+.DD` reads back as its hundredths over 100
  (`readFrameRate_of_writesHundredths`);
* with none of its keys given, the encode configuration is found and carries the
  usability information of the colour space alone (`encodeConfigOf_of_absent`);
* so resolution succeeds with the stream's codec, sizes and rate
  (`StreamMetadata.resolve_encoderOptions`).

## Where the colour stops

The options carry the colour space and not the colour range, and the usability
information marks every named colour standard as full range. A stream's
parameters therefore signal full range exactly when its colour space is BT.601
or BT.709, whatever its range: a narrow-range BT.709 stream comes out labelled
full range (`narrow_bt709_stream_signals_full_range`).
-/

namespace VideoCodec

open EncoderOptions

namespace StreamMetadata

variable (md : StreamMetadata)

/-- The options of a stream give its size, its frame rate with two decimals,
its codec when known and its colour space when it has a name, and nothing
else. -/
theorem raw?_encoderOptions (k : String) :
    md.encoderOptions.raw? k =
      if k = "colorspace" then md.colorSpace.optionValue
      else if k = "codec" then md.codec.map Codec.name
      else if k = "fps" then some (Text.Binary64.fixed 2 md.frameRate)
      else if k = "s" then some s!"{md.width}x{md.height}"
      else none := by
  have hbase : ∀ k, (ofPairs [("s", s!"{md.width}x{md.height}"),
      ("fps", Text.Binary64.fixed 2 md.frameRate)]).raw? k =
      if k = "fps" then some (Text.Binary64.fixed 2 md.frameRate)
      else if k = "s" then some s!"{md.width}x{md.height}" else none := by
    intro k
    simp only [ofPairs, List.foldl, raw?_insert]
    rfl
  unfold encoderOptions
  cases hv : md.colorSpace.optionValue <;> cases hc : md.codec <;>
    simp only [raw?_insert, hbase, Option.map_none, Option.map_some] <;> split_ifs <;> simp_all

end StreamMetadata

/-! ### Frame rates written with two decimals -/

/-- **A text that writes `n` hundredths**: one or more ASCII digits, a point
and exactly two more digits, which denote `n` with the point left out. This
is the form a frame rate takes written with two decimals. -/
def WritesHundredths (s : String) (n : Nat) : Prop :=
  ∃ whole frac : List Char, s.toList = whole ++ '.' :: frac ∧ whole ≠ [] ∧ frac.length = 2 ∧
    (whole ++ frac).all Char.isDigit ∧ Nat.ofDigitChars 10 (whole ++ frac) 0 = n

/-- An ASCII digit takes one byte of UTF-8. -/
theorem utf8Size_of_isDigit {c : Char} (h : c.isDigit = true) : c.utf8Size = 1 := by
  simp only [Char.isDigit, Bool.and_eq_true, decide_eq_true_eq] at h
  rw [Char.utf8Size_eq_one_iff]
  exact UInt32.le_iff_toNat_le.mpr ((UInt32.le_iff_toNat_le.mp h.2).trans (by decide))

/-- Two digits are the first two bytes of themselves. -/
theorem fractionDigits_two {a b : Char} (ha : a.isDigit = true) (hb : b.isDigit = true) :
    fractionDigits [a, b] = .ok [a, b] := by
  have hsa := utf8Size_of_isDigit ha
  have hsb := utf8Size_of_isDigit hb
  simp [fractionDigits, prefixWithin, utf8Length, hsa, hsb]

/-- The point is not blank. -/
theorem isBlank_point : Text.isBlank '.' = false := by decide

/-- **A frame rate written as `n` hundredths reads back as `n / 100`**, when
`n` is positive and fits 32 bits. -/
theorem readFrameRate_of_writesHundredths {s : String} {n : Nat} (h : WritesHundredths s n)
    (hpos : 0 < n) (hlt : n < Text.limitU32) : readFrameRate s = .ok (n, 100) := by
  obtain ⟨whole, frac, hs, hwhole, hlen, hdig, hval⟩ := h
  have hdigs : ∀ c ∈ whole ++ frac, c.isDigit = true := List.all_eq_true.mp hdig
  -- the text has no blank to trim and its first point is the one after `whole`
  have htrim : (Text.trim s).toList = whole ++ '.' :: frac := by
    rw [Text.trim, String.toList_ofList, hs]
    refine Text.trimChars_of_forall fun c hc => ?_
    rcases List.mem_append.mp hc with hc | hc
    · exact Text.isBlank_of_isDigit (hdigs c (List.mem_append_left _ hc))
    · rcases List.mem_cons.mp hc with rfl | hc
      · exact isBlank_point
      · exact Text.isBlank_of_isDigit (hdigs c (List.mem_append_right _ hc))
  have hsplit : splitAtFirst '.' (whole ++ '.' :: frac) = some (whole, frac) :=
    splitAtFirst_append_cons fun c hc =>
      Text.ne_of_isDigit (hdigs c (List.mem_append_left _ hc)) (by decide)
  obtain ⟨a, b, rfl⟩ := List.length_eq_two.mp hlen
  have hfrac := fractionDigits_two (hdigs a (by simp)) (hdigs b (by simp))
  -- the digits read as `n`, with no sign in front
  have hhead : Text.unsignedDigits (whole ++ [a, b]) = whole ++ [a, b] := by
    obtain ⟨c, cs, rfl⟩ := List.exists_cons_of_ne_nil hwhole
    exact Text.unsignedDigits_of_isDigit (hdigs c (by simp))
  have hread : Text.readNat? Text.limitU32 (String.ofList (whole ++ [a, b])) = some n := by
    rw [Text.readNat?, String.toList_ofList, Text.readNatChars?, hhead, Text.digitsValue?,
      if_pos ⟨by simp, hdig⟩]
    rw [← Nat.ofDigitChars_eq_foldl, hval]
    simp [hlt]
  unfold readFrameRate
  simp only [htrim, hsplit, Option.getD_some, hfrac, bind, Except.bind]
  rw [if_neg (by simpa [hwhole] using hdig), hread]
  simp [Nat.ne_of_gt hpos, pure, Except.pure]

/-! ### Options that are not given -/

/-- The keys of the encode configuration other than the colour space: the GOP
structure, rate control and the codec settings without their colour space. -/
def colourlessConfigKeys : List String :=
  ["bf", "gop"] ++ rateControlKeys ++
    ["fmt", "idrperiod", "repeatspspps", "numrefl0", "numrefl1", "slice_mode", "slice_data",
      "num_unit_in_ticks", "timescale"]

variable {o : EncoderOptions}

theorem EncoderOptions.natOption_of_get {limit : Nat} {key : String} (h : o.get key = none) :
    o.natOption limit key = .ok none := by
  rw [natOption, h]

theorem EncoderOptions.intOption_of_get {limit : Nat} {key : String} (h : o.get key = none) :
    o.intOption limit key = .ok none := by
  rw [intOption, h]

/-- **Rate control with none of its options given keeps the rate control it
starts from.** -/
theorem RateControlConfig.applyOptions_of_absent (h : Agree rateControlKeys o .empty)
    (flags : ParentFlags) (rc : RateControlConfig) : rc.applyOptions o flags = .ok rc := by
  rw [applyOptions_congr h]
  rfl

/-- With no timing given, the usability information is that of the colour
space alone. -/
theorem Vui.ofOptions_of_untimed (hticks : o.get "num_unit_in_ticks" = none)
    (hscale : o.get "timescale" = none) :
    Vui.ofOptions o = .ok (Vui.ofColorSpace (o.get "colorspace")) := by
  rw [Vui.ofOptions, natOption_of_get hticks, natOption_of_get hscale]
  -- the colour part already carries no timing
  unfold Vui.ofColorSpace
  split <;> rfl

/-- **Codec settings with none of their options but the colour space** take
the colour space's usability information. -/
theorem CodecConfig.applyOptions_of_absent
    (h : Agree ["fmt", "idrperiod", "repeatspspps", "numrefl0", "numrefl1", "slice_mode",
      "slice_data", "num_unit_in_ticks", "timescale"] o .empty) (gop : Nat) (cfg : CodecConfig) :
    ∃ cc, cfg.applyOptions o gop = .ok cc ∧ cc.vui = Vui.ofColorSpace (o.get "colorspace") := by
  simp only [agree_cons, agree_nil, and_true] at h
  obtain ⟨hfmt, hidr, hrepeat, hrefs0, hrefs1, hslice, hdata, hticks, hscale⟩ := h
  have hfmt' : formatOption o = .ok none := by
    rw [formatOption, hfmt]
    rfl
  have hrefs : ∀ key, o.get key = EncoderOptions.empty.get key → refsOption o key = .ok none := by
    intro key hk
    rw [refsOption, natOption_of_get hk]
    rfl
  rw [applyOptions, hfmt']
  simp only [bind, Except.bind, natOption_of_get hidr, natOption_of_get hrepeat, hrefs _ hrefs0,
    hrefs _ hrefs1, natOption_of_get hslice, natOption_of_get hdata,
    Vui.ofOptions_of_untimed hticks hscale]
  exact ⟨_, rfl, by cases cfg <;> rfl⟩

/-- **The encode configuration of options that give none of its keys but the
colour space** is found, with the colour space's usability information. -/
theorem encodeConfigOf_of_absent (h : Agree colourlessConfigKeys o .empty) (codec : Codec)
    (flags : ParentFlags) :
    ∃ ec, encodeConfigOf o codec flags = .ok ec ∧
      ec.codecConfig.vui = Vui.ofColorSpace (o.get "colorspace") := by
  simp only [colourlessConfigKeys, agree_append, agree_cons, agree_nil, and_true] at h
  obtain ⟨⟨⟨hbf, hgop⟩, hrc⟩, hcc⟩ := h
  have hcc' : Agree ["fmt", "idrperiod", "repeatspspps", "numrefl0", "numrefl1", "slice_mode",
      "slice_data", "num_unit_in_ticks", "timescale"] o .empty := by
    simpa only [agree_cons, agree_nil, and_true] using hcc
  obtain ⟨cc, hcfg, hvui⟩ := CodecConfig.applyOptions_of_absent hcc' infiniteGopLength
    (EncodeConfig.forCodec codec).codecConfig
  rw [encodeConfigOf, encodeConfigFrom]
  simp only [bind, Except.bind, intOption_of_get hbf, natOption_of_get hgop,
    RateControlConfig.applyOptions_of_absent hrc, Option.getD_none, hcfg]
  exact ⟨_, rfl, hvui⟩

/-! ### Resolving the options of a stream -/

/-- A size written as `WxH`, with no `max_res` given, sets the encode, display
and largest sizes to it. -/
theorem withSize_of_size {w h : Nat} (hs : o.get "s" = some s!"{w}x{h}") (hw : w < Text.limitU32)
    (hh : h < Text.limitU32) (hmax : o.containsKey "max_res" = false) (p : InitializeParams) :
    withSize o p = .ok { p with
      encodeWidth := w, encodeHeight := h, darWidth := w, darHeight := h, maxEncodeWidth := w,
      maxEncodeHeight := h } := by
  rw [withSize, hs]
  simp only [readResolution_size, if_pos (And.intro hw hh), hmax, bind, Except.bind]
  rfl

/-- A frame rate that reads back sets the frame rate. -/
theorem withFrameRate_of_read {fps : String} {r : Nat × Nat} (hf : o.get "fps" = some fps)
    (hr : readFrameRate fps = .ok r) (p : InitializeParams) :
    withFrameRate o p = .ok { p with frameRateNum := r.1, frameRateDen := r.2 } := by
  rw [withFrameRate, hf]
  simp only [hr, bind, Except.bind]
  rfl

namespace StreamMetadata

variable (md : StreamMetadata)

/-- The options of a stream give none of the encode-configuration keys but
the colour space. -/
theorem agree_colourlessConfigKeys : Agree colourlessConfigKeys md.encoderOptions .empty := by
  intro k hk
  have hk' : k ≠ "colorspace" ∧ k ≠ "codec" ∧ k ≠ "fps" ∧ k ≠ "s" := by
    simp only [colourlessConfigKeys, rateControlKeys, List.cons_append, List.nil_append,
      List.mem_cons, List.not_mem_nil, or_false] at hk
    rcases hk with rfl | rfl | rfl | rfl | rfl | rfl | rfl | rfl | rfl | rfl | rfl | rfl | rfl |
      rfl | rfl | rfl | rfl | rfl | rfl | rfl | rfl | rfl | rfl | rfl | rfl | rfl <;> decide
  rw [EncoderOptions.get, raw?_encoderOptions, if_neg hk'.1, if_neg hk'.2.1, if_neg hk'.2.2.1,
    if_neg hk'.2.2.2]
  rfl

/-- The options name the stream's codec, when it is known. -/
theorem codecOption_encoderOptions :
    codecOption md.encoderOptions = .ok (md.codec.getD .h264) := by
  rw [codecOption, EncoderOptions.get, raw?_encoderOptions]
  cases hc : md.codec with
  | none => rfl
  | some c => cases c <;> rfl

variable {md}

/-- **The options of a stream resolve to its codec, size, rate and colour
space**: the codec is the stream's (H.264 when unknown), every size is the
stream's, the frame rate is the hundredths it is written as, and the usability
information is that of its colour space. -/
theorem resolve_encoderOptions (hw : md.width < Text.limitU32) (hh : md.height < Text.limitU32)
    {n : Nat} (hfps : WritesHundredths (Text.Binary64.fixed 2 md.frameRate) n) (hpos : 0 < n)
    (hlt : n < Text.limitU32) :
    ∃ p, resolve md.encoderOptions = .ok p ∧ p.codec = md.codec.getD .h264 ∧
      p.encodeWidth = md.width ∧ p.encodeHeight = md.height ∧ p.darWidth = md.width ∧
      p.darHeight = md.height ∧ p.maxEncodeWidth = md.width ∧ p.maxEncodeHeight = md.height ∧
      p.frameRateNum = n ∧ p.frameRateDen = 100 ∧
      p.encodeConfig.codecConfig.vui = Vui.ofColorSpace md.colorSpace.optionValue := by
  have hs : md.encoderOptions.get "s" = some s!"{md.width}x{md.height}" := by
    rw [EncoderOptions.get, raw?_encoderOptions]
    simp
  have hmax : md.encoderOptions.containsKey "max_res" = false := by
    rw [containsKey, raw?_encoderOptions]
    simp
  have hrate : md.encoderOptions.get "fps" = some (Text.Binary64.fixed 2 md.frameRate) := by
    obtain ⟨whole, frac, htext, -⟩ := hfps
    have hne : Text.Binary64.fixed 2 md.frameRate ≠ "" := by
      intro he
      rw [he] at htext
      simp at htext
    rw [EncoderOptions.get, raw?_encoderOptions]
    simp [hne]
  have hcolour : md.encoderOptions.get "colorspace" = md.colorSpace.optionValue := by
    rw [EncoderOptions.get, raw?_encoderOptions, if_pos rfl]
    cases md.colorSpace <;> rfl
  rw [resolve, resolveInto_eq]
  simp only [codecOption_encoderOptions, bind, Except.bind, Bool.false_and, Bool.false_eq_true,
    if_false, withSize_of_size hs hw hh hmax,
    withFrameRate_of_read hrate (readFrameRate_of_writesHundredths hfps hpos hlt)]
  obtain ⟨ec, hec, hvui⟩ := encodeConfigOf_of_absent md.agree_colourlessConfigKeys
    (md.codec.getD .h264) (parentFlags (md.codec.getD .h264)
      (PresetProperties.lookup ((md.encoderOptions.get "preset").getD "P4"))
      (tuningOption md.encoderOptions
        (PresetProperties.lookup ((md.encoderOptions.get "preset").getD "P4"))))
  rw [hec]
  exact ⟨_, rfl, rfl, rfl, rfl, rfl, rfl, rfl, rfl, rfl, rfl, by rw [← hcolour]; exact hvui⟩

end StreamMetadata

/-! ### What the parameters say about the stream -/

/-- The colour standard the options select for a colour space: BT.709 for
BT.709, SMPTE 170M for BT.601, and none for an unspecified one. -/
def ColorSpace.standard : ColorSpace → ColorStandard
  | .bt601 => .smpte170m
  | .bt709 => .bt709
  | .unspecified => .unspecified

/-- The usability information of a colour space's option signals its standard
for primaries, transfer and matrix, and full range exactly when it has one. -/
theorem Vui.ofColorSpace_optionValue (cs : ColorSpace) :
    (Vui.ofColorSpace cs.optionValue).colourPrimaries = cs.standard ∧
      (Vui.ofColorSpace cs.optionValue).transferCharacteristics = cs.standard ∧
      (Vui.ofColorSpace cs.optionValue).colourMatrix = cs.standard ∧
      ((Vui.ofColorSpace cs.optionValue).videoFullRange = true ↔ cs ≠ .unspecified) := by
  cases cs <;> decide

/-- **Session parameters that re-encode a stream with `n` hundredths of a
frame per second**: its codec (H.264 when unknown), its size for encoding,
display and as the largest, its frame rate as `n / 100`, the standard of its
colour space for primaries, transfer and matrix, and full range exactly when
that standard is named. The stream's colour range plays no part. -/
structure ReencodesStream (md : StreamMetadata) (n : Nat) (p : InitializeParams) : Prop where
  codec : p.codec = md.codec.getD .h264
  encodeWidth : p.encodeWidth = md.width
  encodeHeight : p.encodeHeight = md.height
  darWidth : p.darWidth = md.width
  darHeight : p.darHeight = md.height
  maxEncodeWidth : p.maxEncodeWidth = md.width
  maxEncodeHeight : p.maxEncodeHeight = md.height
  frameRateNum : p.frameRateNum = n
  frameRateDen : p.frameRateDen = 100
  colourPrimaries : p.encodeConfig.codecConfig.vui.colourPrimaries = md.colorSpace.standard
  transferCharacteristics :
    p.encodeConfig.codecConfig.vui.transferCharacteristics = md.colorSpace.standard
  colourMatrix : p.encodeConfig.codecConfig.vui.colourMatrix = md.colorSpace.standard
  fullRange : p.encodeConfig.codecConfig.vui.videoFullRange = true ↔ md.colorSpace ≠ .unspecified

/-- **A stream's encoder options resolve to parameters that re-encode it**,
for every stream whose sizes fit 32 bits and whose frame rate is written with
two decimals as a positive number of hundredths that fits 32 bits. Full range
is signalled for every stream with a named colour space, whatever its colour
range. -/
theorem metadata_options_reencode_stream (md : StreamMetadata) (n : Nat)
    (hw : md.width < Text.limitU32) (hh : md.height < Text.limitU32)
    (hfps : WritesHundredths (Text.Binary64.fixed 2 md.frameRate) n) (hpos : 0 < n)
    (hlt : n < Text.limitU32) :
    ∃ p, resolve md.encoderOptions = .ok p ∧ ReencodesStream md n p := by
  obtain ⟨p, hres, hcodec, hew, heh, hdw, hdh, hmw, hmh, hnum, hden, hvui⟩ :=
    StreamMetadata.resolve_encoderOptions hw hh hfps hpos hlt
  obtain ⟨hprim, htrans, hmat, hfull⟩ := Vui.ofColorSpace_optionValue md.colorSpace
  rw [← hvui] at hprim htrans hmat hfull
  exact ⟨p, hres, hcodec, hew, heh, hdw, hdh, hmw, hmh, hnum, hden, hprim, htrans, hmat, hfull⟩

/-- A 1080p HEVC stream in BT.709 at 29.97 frames per second. -/
theorem hevc_1080p_options_reencode_stream :
    let md : StreamMetadata := {
      codec := some .hevc, width := 1920, height := 1080, bitDepth := 8,
      frameRate := Text.Binary64.ofDecimal false 2997 (-2), frameSize := 0, colorSpace := .bt709,
      colorRange := .mpeg }
    md.width < Text.limitU32 ∧ md.height < Text.limitU32 ∧
      WritesHundredths (Text.Binary64.fixed 2 md.frameRate) 2997 ∧ 0 < 2997 ∧
      2997 < Text.limitU32 ∧ ∃ p, resolve md.encoderOptions = .ok p ∧ ReencodesStream md 2997 p := by
  intro md
  have hfixed : Text.Binary64.fixed 2 md.frameRate = "29.97" := by decide +kernel
  have hfps : WritesHundredths (Text.Binary64.fixed 2 md.frameRate) 2997 := by
    rw [hfixed]
    exact ⟨['2', '9'], ['9', '7'], rfl, by simp, rfl, by decide, by decide⟩
  exact ⟨by decide, by decide, hfps, by decide, by decide,
    metadata_options_reencode_stream md 2997 (by decide) (by decide) hfps (by decide) (by decide)⟩

/-- A narrow-range BT.709 stream comes out signalled as full range. -/
theorem narrow_bt709_stream_signals_full_range :
    let md : StreamMetadata := {
      codec := none, width := 64, height := 32, bitDepth := 8,
      frameRate := Text.Binary64.ofDecimal false 30 0, frameSize := 0, colorSpace := .bt709,
      colorRange := .mpeg }
    md.colorRange ≠ .jpeg ∧
      ∃ p, resolve md.encoderOptions = .ok p ∧ p.encodeConfig.codecConfig.vui.videoFullRange = true := by
  intro md
  have hfixed : Text.Binary64.fixed 2 md.frameRate = "30.00" := by decide +kernel
  have hfps : WritesHundredths (Text.Binary64.fixed 2 md.frameRate) 3000 := by
    rw [hfixed]
    exact ⟨['3', '0'], ['0', '0'], rfl, by simp, rfl, by decide, by decide⟩
  obtain ⟨p, hres, -, -, -, -, -, -, -, -, -, hvui⟩ :=
    StreamMetadata.resolve_encoderOptions (by decide) (by decide) hfps (by decide) (by decide)
  refine ⟨by decide, p, hres, ?_⟩
  rw [hvui]
  decide

end VideoCodec
