import Mathlib
import VideoCodec.Encode.Session
import VideoCodec.Proofs.Outcome
/-!
# What resolution reads back from the settings

A session is created by writing its settings into its options, the format as
`fmt` and the size as `s` in the form `WxH`, and resolving the options. This
file proves that the settings come back out of the resolver unchanged:

* a size written as `WxH` reads back as that width and height
  (`readResolution_size`), since a numeral as `toString` writes it reads back
  as its value (`Text.readNat?_toString`);
* the codec settings take the chroma format and, for HEVC and AV1, the bit
  depths the format calls for (`CodecConfig.FitsFormat`);
* so a new session's parameters fit its settings (`resolve_resolvedOptions`).

A reconfiguration from options keeps the sizes and the codec settings of the
live parameters (`reconfigure_sameShape`), so parameters that fit the settings
keep fitting them (`InitializeParams.FitsSettings.of_sameShape`).

Each step of the resolver is read through `ReturnsOnly`, one lemma per
function, following its text.
-/

namespace VideoCodec

/-! ### Numerals as `toString` writes them -/

namespace Text

/-- No digit is blank. -/
theorem isBlank_of_isDigit {c : Char} (h : c.isDigit = true) : isBlank c = false := by
  simp only [Char.isDigit, Bool.and_eq_true, decide_eq_true_eq] at h
  have h48 : 48 ≤ c.toNat := h.1
  have h57 : c.toNat ≤ 57 := h.2
  simp only [isBlank, blankRanges, List.any_cons, List.any_nil, Bool.or_eq_false_iff,
    Bool.and_eq_false_iff, decide_eq_false_iff_not, and_true]
  omega

theorem dropWhile_isBlank {cs : List Char} (h : ∀ c ∈ cs, isBlank c = false) :
    cs.dropWhile isBlank = cs := by
  cases cs with
  | nil => rfl
  | cons c cs => exact List.dropWhile_cons_of_neg (by simp [h c List.mem_cons_self])

/-- Trimming leaves a text with no blank in it alone. -/
theorem trimChars_of_forall {cs : List Char} (h : ∀ c ∈ cs, isBlank c = false) :
    trimChars cs = cs := by
  have hrev : ∀ c ∈ cs.reverse, isBlank c = false := fun c hc => h c (List.mem_reverse.mp hc)
  rw [trimChars, dropWhile_isBlank h, dropWhile_isBlank hrev, List.reverse_reverse]

theorem isDigit_of_mem_toString {n : Nat} {c : Char} (h : c ∈ (toString n).toList) :
    c.isDigit = true :=
  @Nat.isDigit_of_mem_toDigits 10 n c (by decide) (by decide) (by simpa using h)

theorem trim_toString (n : Nat) : trim (toString n) = toString n := by
  rw [trim, trimChars_of_forall fun c hc => isBlank_of_isDigit (isDigit_of_mem_toString hc),
    String.ofList_toList]

/-- A digit is none of the characters that are no digits. -/
theorem ne_of_isDigit {c d : Char} (hc : c.isDigit = true) (hd : d.isDigit = false) : c ≠ d := by
  rintro rfl
  rw [hc] at hd
  cases hd

/-- A numeral that starts with a digit has no sign to drop. -/
theorem unsignedDigits_of_isDigit {d : Char} {ds : List Char} (h : d.isDigit = true) :
    unsignedDigits (d :: ds) = d :: ds := by
  unfold unsignedDigits
  split
  · rename_i heq
    rw [List.cons.injEq] at heq
    exact absurd heq.1 (ne_of_isDigit h (by decide))
  · rfl

/-- A numeral as `toString` writes it has no sign to drop. -/
theorem unsignedDigits_toDigits (n : Nat) :
    unsignedDigits (Nat.toDigits 10 n) = Nat.toDigits 10 n := by
  cases hd : Nat.toDigits 10 n with
  | nil => exact absurd hd Nat.toDigits_ne_nil
  | cons d ds =>
    exact unsignedDigits_of_isDigit
      (Nat.isDigit_of_mem_toDigits (by decide) (by decide) (hd ▸ List.mem_cons_self))

theorem digitsValue?_toDigits (n : Nat) : digitsValue? (Nat.toDigits 10 n) = some n := by
  have hall : (Nat.toDigits 10 n).all Char.isDigit = true :=
    List.all_eq_true.mpr fun c hc => Nat.isDigit_of_mem_toDigits (by decide) (by decide) hc
  rw [digitsValue?, if_pos ⟨Nat.toDigits_ne_nil, hall⟩]
  exact congrArg some Nat.ofDigitChars_ten_toDigits

/-- **A numeral as `toString` writes it reads back as its value**, when the
value is below the limit. -/
theorem readNat?_toString (limit n : Nat) :
    readNat? limit (toString n) = if n < limit then some n else none := by
  rw [readNat?, readNatChars?, Nat.toString_eq_repr, Nat.toList_repr, unsignedDigits_toDigits,
    digitsValue?_toDigits]

end Text

/-! ### Cutting a text at a separator -/

/-- Cutting a list before its first `c`, where the part in front holds none. -/
theorem span_ne_append_cons {c : Char} {xs ys : List Char} (h : ∀ x ∈ xs, x ≠ c) :
    (xs ++ c :: ys).span (· ≠ c) = (xs, c :: ys) := by
  have hkeep : ∀ x ∈ xs, decide (x ≠ c) = true := fun x hx => decide_eq_true (h x hx)
  rw [List.span_eq_takeWhile_dropWhile, List.takeWhile_append_of_pos hkeep,
    List.dropWhile_append_of_pos hkeep, List.takeWhile_cons_of_neg (by simp),
    List.dropWhile_cons_of_neg (by simp), List.append_nil]

/-- A list splits at its first `c`, where the part in front holds none. -/
theorem splitAtFirst_append_cons {c : Char} {xs ys : List Char} (h : ∀ x ∈ xs, x ≠ c) :
    splitAtFirst c (xs ++ c :: ys) = some (xs, ys) := by
  rw [splitAtFirst, span_ne_append_cons h]

/-- **A size written as `WxH` reads back as that width and height**, when both
fit in 32 bits. -/
theorem readResolution_size (w h : Nat) :
    readResolution s!"{w}x{h}" = if w < Text.limitU32 ∧ h < Text.limitU32 then .ok (w, h)
      else .error (.invalidResolution s!"{w}x{h}") := by
  -- the width's digits hold no `x`, so the text splits at the one written between
  have hw : ∀ c ∈ (toString w).toList, c ≠ 'x' := fun c hc =>
    Text.ne_of_isDigit (Text.isDigit_of_mem_toString hc) (by decide)
  have hsplit : splitAtFirst 'x' (s!"{w}x{h}").toList = some ((toString w).toList, (toString h).toList) := by
    show splitAtFirst 'x' (toString w ++ "x" ++ toString h).toList = _
    have hx : "x".toList = ['x'] := rfl
    rw [String.toList_append, String.toList_append, List.append_assoc, hx, List.singleton_append,
      splitAtFirst_append_cons hw]
  unfold readResolution
  simp only [hsplit, Option.orElse, String.ofList_toList, Text.trim_toString, Text.readNat?_toString]
  by_cases hwl : w < Text.limitU32 <;> by_cases hhl : h < Text.limitU32 <;> simp [hwl, hhl]

/-! ### Parameters that fit the settings -/

namespace CodecConfig

theorem chromaOf_eq_yuv444 (f : PixelFormat) : chromaOf (some f) = .yuv444 ↔ f.isYuv444 = true := by
  unfold chromaOf
  cases h : f.isYuv444 <;> simp [h]

theorem depthOf_eq_ten (f : PixelFormat) : depthOf (some f) = .ten ↔ f.isTenBit = true := by
  unfold depthOf
  cases h : f.isTenBit <;> simp [h]

/-- Codec settings that take the chroma format and, for HEVC and AV1, both bit
depths from an input format: 4:4:4 exactly for the full-chroma formats, ten
bits exactly for the formats with more than eight. -/
structure FitsFormat (f : PixelFormat) (cc : CodecConfig) : Prop where
  chroma : cc.chromaFormat = .yuv444 ↔ f.isYuv444 = true
  hevcDepths : ∀ c, cc = .hevc c →
    (c.inputBitDepth = .ten ↔ f.isTenBit = true) ∧ (c.outputBitDepth = .ten ↔ f.isTenBit = true)
  av1Depths : ∀ c, cc = .av1 c →
    (c.inputBitDepth = .ten ↔ f.isTenBit = true) ∧ (c.outputBitDepth = .ten ↔ f.isTenBit = true)

/-- Applying the codec options keeps the codec and fits its settings to the
format the `fmt` option names. -/
theorem applyOptions_fitsFormat {o : EncoderOptions} {f : PixelFormat}
    (hfmt : ReturnsOnly (formatOption o) (· = some f)) (gop : Nat) (cfg : CodecConfig) :
    ReturnsOnly (cfg.applyOptions o gop) fun cc => cc.codec = cfg.codec ∧ cc.FitsFormat f := by
  unfold applyOptions
  refine .bind hfmt fun fmt hf => ?_
  subst hf
  refine .bind (.any _) fun _ _ => .bind (.any _) fun _ _ => .bind (.any _) fun _ _ =>
    .bind (.any _) fun _ _ => .bind (.any _) fun _ _ => .bind (.any _) fun _ _ =>
    .bind (.any _) fun _ _ => .pure ?_
  -- each codec's block is rebuilt with the format's chroma format and depths
  have hdepths := And.intro (depthOf_eq_ten f) (depthOf_eq_ten f)
  cases cfg with
  | h264 c =>
    refine ⟨rfl, chromaOf_eq_yuv444 f, ?_, ?_⟩
    · intro _ h
      cases h
    · intro _ h
      cases h
  | hevc c =>
    refine ⟨rfl, chromaOf_eq_yuv444 f, ?_, ?_⟩
    · intro _ h
      cases h
      exact hdepths
    · intro _ h
      cases h
  | av1 c =>
    refine ⟨rfl, chromaOf_eq_yuv444 f, ?_, ?_⟩
    · intro _ h
      cases h
    · intro _ h
      cases h
      exact hdepths

end CodecConfig

namespace InitializeParams

/-- Two sets of parameters with the same sizes and the same codec settings. -/
structure SameShape (p q : InitializeParams) : Prop where
  encodeWidth : q.encodeWidth = p.encodeWidth
  encodeHeight : q.encodeHeight = p.encodeHeight
  darWidth : q.darWidth = p.darWidth
  darHeight : q.darHeight = p.darHeight
  codecConfig : q.encodeConfig.codecConfig = p.encodeConfig.codecConfig

theorem SameShape.refl (p : InitializeParams) : SameShape p p := ⟨rfl, rfl, rfl, rfl, rfl⟩

/-- **Parameters that fit the settings**: the encode and display sizes are the
settings' width and height, and the codec settings fit the settings' format. -/
structure FitsSettings (s : EncoderSettings) (p : InitializeParams) : Prop where
  encodeWidth : p.encodeWidth = s.width
  encodeHeight : p.encodeHeight = s.height
  darWidth : p.darWidth = s.width
  darHeight : p.darHeight = s.height
  codecConfig : p.encodeConfig.codecConfig.FitsFormat s.format

theorem FitsSettings.of_sameShape {s : EncoderSettings} {p q : InitializeParams}
    (h : p.FitsSettings s) (hs : SameShape p q) : q.FitsSettings s where
  encodeWidth := hs.encodeWidth.trans h.encodeWidth
  encodeHeight := hs.encodeHeight.trans h.encodeHeight
  darWidth := hs.darWidth.trans h.darWidth
  darHeight := hs.darHeight.trans h.darHeight
  codecConfig := hs.codecConfig ▸ h.codecConfig

end InitializeParams

/-! ### The resolver, step by step -/

/-- The size option sets the encode and display sizes. -/
theorem withSize_size {o : EncoderOptions} {w h : Nat} (hs : o.get "s" = some s!"{w}x{h}")
    (p : InitializeParams) :
    ReturnsOnly (withSize o p) fun q =>
      q.encodeWidth = w ∧ q.encodeHeight = h ∧ q.darWidth = w ∧ q.darHeight = h := by
  have hres : ReturnsOnly (readResolution s!"{w}x{h}") (· = (w, h)) := by
    rw [readResolution_size]
    exact .ite (.pure rfl) (.error _)
  unfold withSize
  rw [hs]
  refine .bind hres fun wh hwh => ?_
  subst hwh
  -- the largest size, from `max_res` or the size itself, is no concern here
  dsimp only
  refine .ite ?_ (.bind (.any _) fun _ _ => .pure ⟨rfl, rfl, rfl, rfl⟩)
  split
  · exact .bind (.any _) fun _ _ => .pure ⟨rfl, rfl, rfl, rfl⟩
  · exact .bind (.any _) fun _ _ => .pure ⟨rfl, rfl, rfl, rfl⟩

/-- The frame-rate option changes only the frame rate. -/
theorem withFrameRate_sameShape (o : EncoderOptions) (p : InitializeParams) :
    ReturnsOnly (withFrameRate o p) (InitializeParams.SameShape p) := by
  unfold withFrameRate
  split
  · exact .pure (.refl p)
  · refine .bind (.any _) fun rate _ => ?_
    obtain ⟨num, den⟩ := rate
    exact .pure ⟨rfl, rfl, rfl, rfl, rfl⟩

/-- The encode configuration of a new session has the codec's settings, fitted
to the format the `fmt` option names. -/
theorem encodeConfigOf_fitsFormat {o : EncoderOptions} {f : PixelFormat}
    (hfmt : ReturnsOnly (CodecConfig.formatOption o) (· = some f)) (codec : Codec)
    (flags : ParentFlags) :
    ReturnsOnly (encodeConfigOf o codec flags) fun ec =>
      ec.codecConfig.codec = codec ∧ ec.codecConfig.FitsFormat f := by
  unfold encodeConfigOf encodeConfigFrom
  refine .bind (.any _) fun _ _ => .bind (.any _) fun _ _ => .bind (.any _) fun _ _ =>
    .bind (CodecConfig.applyOptions_fitsFormat hfmt _ _) fun cc hcc => .pure ?_
  exact ⟨hcc.1.trans (CodecConfig.codec_forCodec codec), hcc.2⟩

namespace EncoderSettings

variable (s : EncoderSettings)

/-- The size option of a session is its size, written as `WxH`. -/
theorem get_size_resolvedOptions : s.resolvedOptions.get "s" = some s!"{s.width}x{s.height}" := by
  rw [resolvedOptions, EncoderOptions.get_insert, if_pos rfl]
  simp

/-- The format option of a session names its format; a session on the
undefined format has none that reads. -/
theorem formatOption_resolvedOptions :
    ReturnsOnly (CodecConfig.formatOption s.resolvedOptions) (· = some s.format) := by
  have hname : s.format.name ≠ "" := by
    cases s.format <;> decide
  have hget : s.resolvedOptions.get "fmt" = some s.format.name := by
    rw [resolvedOptions, EncoderOptions.get_insert, if_neg (by decide), EncoderOptions.get_insert,
      if_pos rfl]
    simp [hname]
  unfold CodecConfig.formatOption
  simp only [hget]
  by_cases hf : s.format = .undefined
  · rw [hf]
    exact .error _
  · simp only [PixelFormat.ofName?_name hf]
    exact .pure rfl

end EncoderSettings

/-- **A new session's parameters fit its settings**: resolving the options a
session writes its settings into gives the settings' sizes and codec settings
fitted to the settings' format. -/
theorem resolve_resolvedOptions (s : EncoderSettings) :
    ReturnsOnly (resolve s.resolvedOptions) (InitializeParams.FitsSettings s) := by
  rw [resolve, resolveInto_eq]
  refine .bind (.any _) fun _ _ => .guard (.ite_neg Bool.false_ne_true ?_)
  refine .bind (withSize_size s.get_size_resolvedOptions _) fun p hp => ?_
  refine .bind (withFrameRate_sameShape _ p) fun q hq => ?_
  refine .bind (encodeConfigOf_fitsFormat s.formatOption_resolvedOptions _ _) fun ec hec =>
    .pure ?_
  exact ⟨hq.encodeWidth.trans hp.1, hq.encodeHeight.trans hp.2.1, hq.darWidth.trans hp.2.2.1,
    hq.darHeight.trans hp.2.2.2, hec.2⟩

/-- **A reconfiguration from options keeps the shape**: it changes neither the
sizes nor the codec settings of the live parameters. -/
theorem reconfigure_sameShape (o : EncoderOptions) (p : InitializeParams) :
    ReturnsOnly (VideoCodec.reconfigure o p) (InitializeParams.SameShape p) := by
  rw [VideoCodec.reconfigure, resolveInto_eq]
  refine .bind (.any _) fun _ _ => .guard (.ite_pos rfl ?_)
  refine .bind (withFrameRate_sameShape o p) fun q hq => .bind (.any _) fun _ _ => .pure ?_
  exact ⟨hq.encodeWidth, hq.encodeHeight, hq.darWidth, hq.darHeight, hq.codecConfig⟩

end VideoCodec
