import Mathlib
import VideoCodec.Config.RateControl
/-!
# The rate-control options and their precedence

`RateControlConfig.applyOptions` reads about twenty options, one after the
other, and lets each write the fields it governs. Several options write the
same field, so what a field ends up holding depends on which of them are
given, in a fixed order of precedence. This file states that order as a table,
one entry per field (`RateControlConfig.settle`), and proves that applying the
options is that table, or the failure of the first malformed option
(`RateControlConfig.applyOptions_eq_settle`):

* eight options can be malformed: four bitrates, the target quality `cq` (an
  8-bit number), the mode `rc`, the look-ahead depth (a 16-bit number) and the
  adaptive-quantisation strength `aq` (a 32-bit number). Their failures, in the
  order they are read, are `RateControlConfig.faults`; the first one is the
  failure of the whole (`applyOptions_of_fault`);
* the others never fail: an unknown multi-pass name disables multi-pass, a
  malformed quantiser triple is dropped, and `ldkfs` and `temporalaq` only
  need to be present;
* with no malformed option, the result is the table (`applyOptions_of_faultless`).

Every entry of the table is either a value the options give or the field as it
was, never a value computed from another field, so applying the same options
twice changes nothing the first application did not (`settle_settle`).
-/

namespace VideoCodec

namespace RateControlConfig

/-! ### The options that can be malformed -/

/-- What the value of an option that can be malformed has to be: a bitrate, a
number below a bound, or the name of a mode. -/
inductive RateValue where
  | bitrate
  | number (limit : Nat)
  | mode
  deriving DecidableEq, Repr

namespace RateValue

/-- Whether `v` is a well-formed value of this kind. -/
def reads : RateValue → String → Bool
  | bitrate, v => (readBitrate v).isOk
  | number limit, v => (Text.readNat? limit (Text.trim v)).isSome
  | mode, v => (RateControlMode.ofName? v).isSome

/-- The failure a malformed value `v` of option `key` is reported as: the
value quoted, and for a number also the key. -/
def fault : RateValue → String → String → CodecError
  | bitrate, _, v => .invalidBitrate v
  | number _, key, v => .invalidOption key v
  | mode, _, v => .invalidRateControlMode v

end RateValue

/-- The options that can be malformed, with what their values have to be, in
the order they are read. -/
def checkedOptions : List (String × RateValue) :=
  [("bitrate", .bitrate), ("maxbitrate", .bitrate), ("vbvbufsize", .bitrate),
    ("vbvinit", .bitrate), ("cq", .number Text.limitU8), ("rc", .mode),
    ("lookahead", .number Text.limitU16), ("aq", .number Text.limitU32)]

/-- The failure of option `key`: its value is given and malformed. -/
def optionFault (o : EncoderOptions) (key : String) (kind : RateValue) : Option CodecError :=
  (o.get key).bind fun v => if kind.reads v then none else some (kind.fault key v)

/-- The failures of the malformed options, in the order they are read. -/
def faults (o : EncoderOptions) : List CodecError :=
  checkedOptions.filterMap fun (key, kind) => optionFault o key kind

/-! ### The values the options give -/

/-- The bitrate that option `key` gives, when it is given and well formed. -/
def bitrateValue (o : EncoderOptions) (key : String) : Option Nat :=
  (o.get key).bind fun v => (readBitrate v).toOption

/-- The number below `limit` that option `key` gives, when it is given and
well formed. -/
def numberValue (o : EncoderOptions) (limit : Nat) (key : String) : Option Nat :=
  (o.get key).bind fun v => Text.readNat? limit (Text.trim v)

/-- The mode that the `rc` option names, when it is given and well formed. -/
def modeValue (o : EncoderOptions) : Option RateControlMode :=
  (o.get "rc").bind RateControlMode.ofName?

/-- **The precedence table of rate control.** Each field holds what the last
option that writes it gives, or what it held before when none does:

* the mode is the `rc` option's, else constant bitrate when a bitrate is
  given;
* a target quality `cq` clears both bitrates, whatever gave them;
* a bitrate on a modern low-latency session asks for quarter-resolution
  multi-pass and low-delay key-frame scaling, unless `multipass` names a
  multi-pass mode itself;
* a quantiser triple that reads enables its bound; `ldkfs`, `temporalaq` and
  `aq` switch their feature on and never off. -/
def settle (o : EncoderOptions) (flags : ParentFlags) (rc : RateControlConfig) :
    RateControlConfig :=
  let bitrate := (o.get "bitrate").isSome
  let lowLatencyBitrate := bitrate && flags.modern && flags.lowLatency
  let cq := (o.get "cq").isSome
  let lookahead := numberValue o Text.limitU16 "lookahead"
  { mode := (modeValue o).getD (if bitrate then .cbr else rc.mode)
    multiPass := ((o.get "multipass").map MultiPass.ofName).getD
      (if lowLatencyBitrate then .quarterResolution else rc.multiPass)
    lowDelayKeyFrameScale :=
      if (o.get "ldkfs").isSome || lowLatencyBitrate then 1 else rc.lowDelayKeyFrameScale
    averageBitrate := if cq then 0 else (bitrateValue o "bitrate").getD rc.averageBitrate
    maxBitrate := if cq then 0 else (bitrateValue o "maxbitrate").getD rc.maxBitrate
    vbvBufferSize := (bitrateValue o "vbvbufsize").getD rc.vbvBufferSize
    vbvInitialDelay := (bitrateValue o "vbvinit").getD rc.vbvInitialDelay
    constQp := (qpOption o "constqp").getD rc.constQp
    enableInitialRcQp := (qpOption o "initqp").isSome || rc.enableInitialRcQp
    initialRcQp := (qpOption o "initqp").getD rc.initialRcQp
    enableMinQp := (qpOption o "qmin").isSome || rc.enableMinQp
    minQp := (qpOption o "qmin").getD rc.minQp
    enableMaxQp := (qpOption o "qmax").isSome || rc.enableMaxQp
    maxQp := (qpOption o "qmax").getD rc.maxQp
    targetQuality := (numberValue o Text.limitU8 "cq").getD rc.targetQuality
    enableAq := (o.get "aq").isSome || rc.enableAq
    aqStrength := (numberValue o Text.limitU32 "aq").getD rc.aqStrength
    enableTemporalAq := (o.get "temporalaq").isSome || rc.enableTemporalAq
    enableLookahead := (lookahead.map (· != 0)).getD rc.enableLookahead
    lookaheadDepth := lookahead.getD rc.lookaheadDepth }

/-! ### Reading one option -/

variable {o : EncoderOptions} {flags : ParentFlags} {rc : RateControlConfig}

/-- A bitrate that does not read is reported with the text as given. -/
theorem readBitrate_error {s : String} {e : CodecError} (h : readBitrate s = .error e) :
    e = .invalidBitrate s := by
  unfold readBitrate at h
  simp only at h
  -- every branch that fails fails with the text as given
  repeat' split at h
  all_goals cases h <;> rfl

/-- A bitrate option reads as its failure, or else as the bitrate it gives. -/
theorem bitrateOption_eq (o : EncoderOptions) (key : String) :
    bitrateOption o key = (optionFault o key .bitrate).elim (.ok (bitrateValue o key)) .error := by
  unfold bitrateOption optionFault bitrateValue
  cases o.get key with
  | none => rfl
  | some v =>
    cases h : readBitrate v with
    | ok n => simp [h, RateValue.reads, Except.isOk, Except.toBool, Except.toOption]
    | error e => simp [h, RateValue.reads, RateValue.fault, readBitrate_error h, Except.isOk,
        Except.toBool, Except.toOption]

/-- A number option reads as its failure, or else as the number it gives. -/
theorem natOption_eq (o : EncoderOptions) (limit : Nat) (key : String) :
    o.natOption limit key =
      (optionFault o key (.number limit)).elim (.ok (numberValue o limit key)) .error := by
  unfold EncoderOptions.natOption optionFault numberValue
  cases o.get key with
  | none => rfl
  | some v =>
    cases h : Text.readNat? limit (Text.trim v) with
    | none => simp [h, RateValue.reads, RateValue.fault]
    | some n => simp [h, RateValue.reads]

/-- An option has no failure when its value, if given, is well formed. -/
theorem optionFault_eq_none {key : String} {kind : RateValue} :
    optionFault o key kind = none ↔ ∀ v, o.get key = some v → kind.reads v = true := by
  unfold optionFault
  cases o.get key with
  | none => simp
  | some v =>
    by_cases hv : kind.reads v = true
    · simp [hv]
    · simp [hv]

/-- A well-formed bitrate option gives a bitrate exactly when it is present. -/
theorem bitrateValue_isSome {key : String} (h : optionFault o key .bitrate = none) :
    (bitrateValue o key).isSome = (o.get key).isSome := by
  unfold bitrateValue
  cases hv : o.get key with
  | none => rfl
  | some v =>
    have hr := optionFault_eq_none.1 h v hv
    simp only [RateValue.reads] at hr
    cases hb : readBitrate v with
    | ok n => simp [hb, Except.toOption]
    | error e => simp [hb, Except.isOk, Except.toBool] at hr

/-- A well-formed number option gives a number exactly when it is present. -/
theorem numberValue_isSome {limit : Nat} {key : String}
    (h : optionFault o key (.number limit) = none) :
    (numberValue o limit key).isSome = (o.get key).isSome := by
  unfold numberValue
  cases hv : o.get key with
  | none => rfl
  | some v => simpa [RateValue.reads] using optionFault_eq_none.1 h v hv

/-- A well-formed `rc` option names a mode. -/
theorem modeName_of_faultless {v : String} (hv : o.get "rc" = some v)
    (h : optionFault o "rc" .mode = none) : ∃ m, RateControlMode.ofName? v = some m := by
  simpa [RateValue.reads, Option.isSome_iff_exists] using optionFault_eq_none.1 h v hv

theorem faultless_reads (h : faults o = []) :
    optionFault o "bitrate" .bitrate = none ∧ optionFault o "maxbitrate" .bitrate = none ∧
      optionFault o "vbvbufsize" .bitrate = none ∧ optionFault o "vbvinit" .bitrate = none ∧
      optionFault o "cq" (.number Text.limitU8) = none ∧ optionFault o "rc" .mode = none ∧
      optionFault o "lookahead" (.number Text.limitU16) = none ∧
      optionFault o "aq" (.number Text.limitU32) = none := by
  simpa [faults, checkedOptions] using h

/-- A bitrate sets the average bitrate and constant-bitrate mode, and on a
modern low-latency session quarter-resolution multi-pass with low-delay
key-frame scaling. -/
theorem withBitrate_eq (flags : ParentFlags) (b : Option Nat) (rc : RateControlConfig) :
    withBitrate flags b rc =
      { rc with
        mode := if b.isSome then .cbr else rc.mode
        averageBitrate := b.getD rc.averageBitrate
        multiPass := if b.isSome && flags.modern && flags.lowLatency then .quarterResolution
          else rc.multiPass
        lowDelayKeyFrameScale := if b.isSome && flags.modern && flags.lowLatency then 1
          else rc.lowDelayKeyFrameScale } := by
  obtain ⟨codec, modern, lowLatency, lossless⟩ := flags
  cases b <;> cases modern <;> cases lowLatency <;> rfl

theorem applyOptions_of_faultless (h : faults o = []) :
    rc.applyOptions o flags = .ok (settle o flags rc) := by
  obtain ⟨hb, hm, hs, hi, hcq, hmode, hl, ha⟩ := faultless_reads h
  unfold applyOptions
  simp -zeta only [bitrateOption_eq, natOption_eq, hb, hm, hs, hi, hcq, hl, ha, Option.elim,
    bind, Except.bind]
  extract_lets rc1 rc2 rc3 rc4 rc5 rc6 rc7 jp
  have e1 : rc1 = _ := withBitrate_eq flags (bitrateValue o "bitrate") rc
  have e2 : rc2 = { rc1 with
      multiPass := ((o.get "multipass").map MultiPass.ofName).getD rc1.multiPass } := by
    simp only [rc2]
    cases o.get "multipass" <;> rfl
  have e3 : rc3 = { rc2 with
      lowDelayKeyFrameScale := if (o.get "ldkfs").isSome then 1 else rc2.lowDelayKeyFrameScale } := by
    simp only [rc3]
    cases (o.get "ldkfs").isSome <;> rfl
  have e4 : rc4 = { rc3 with maxBitrate := (bitrateValue o "maxbitrate").getD rc3.maxBitrate } := by
    simp only [rc4]
    cases bitrateValue o "maxbitrate" <;> rfl
  have e5 : rc5 = { rc4 with
      vbvBufferSize := (bitrateValue o "vbvbufsize").getD rc4.vbvBufferSize } := by
    simp only [rc5]
    cases bitrateValue o "vbvbufsize" <;> rfl
  have e6 : rc6 = { rc5 with
      vbvInitialDelay := (bitrateValue o "vbvinit").getD rc5.vbvInitialDelay } := by
    simp only [rc6]
    cases bitrateValue o "vbvinit" <;> rfl
  have e7 : rc7 = { rc6 with
      targetQuality := (numberValue o Text.limitU8 "cq").getD rc6.targetQuality
      averageBitrate := if (numberValue o Text.limitU8 "cq").isSome then 0 else rc6.averageBitrate
      maxBitrate := if (numberValue o Text.limitU8 "cq").isSome then 0 else rc6.maxBitrate } := by
    simp only [rc7]
    cases numberValue o Text.limitU8 "cq" <;> rfl
  -- the options after `rc` are read inside the continuation of the mode
  have hjp : jp (modeValue o) = .ok (settle o flags rc) := by
    simp -zeta only [jp]
    extract_lets rc8 rc9 rc10 rc11 rc12 rc13 rc14 rc15
    have e8 : rc8 = { rc7 with mode := (modeValue o).getD rc7.mode } := by
      simp only [rc8]
      cases modeValue o <;> rfl
    have e9 : rc9 = { rc8 with
        initialRcQp := (qpOption o "initqp").getD rc8.initialRcQp
        enableInitialRcQp := (qpOption o "initqp").isSome || rc8.enableInitialRcQp } := by
      simp only [rc9]
      cases qpOption o "initqp" <;> rfl
    have e10 : rc10 = { rc9 with
        minQp := (qpOption o "qmin").getD rc9.minQp
        enableMinQp := (qpOption o "qmin").isSome || rc9.enableMinQp } := by
      simp only [rc10]
      cases qpOption o "qmin" <;> rfl
    have e11 : rc11 = { rc10 with
        maxQp := (qpOption o "qmax").getD rc10.maxQp
        enableMaxQp := (qpOption o "qmax").isSome || rc10.enableMaxQp } := by
      simp only [rc11]
      cases qpOption o "qmax" <;> rfl
    have e12 : rc12 = { rc11 with constQp := (qpOption o "constqp").getD rc11.constQp } := by
      simp only [rc12]
      cases qpOption o "constqp" <;> rfl
    have e13 : rc13 = { rc12 with
        enableTemporalAq := (o.get "temporalaq").isSome || rc12.enableTemporalAq } := by
      simp only [rc13]
      cases (o.get "temporalaq").isSome <;> rfl
    have e14 : rc14 = { rc13 with
        lookaheadDepth := (numberValue o Text.limitU16 "lookahead").getD rc13.lookaheadDepth
        enableLookahead := ((numberValue o Text.limitU16 "lookahead").map (· != 0)).getD
          rc13.enableLookahead } := by
      simp only [rc14]
      cases numberValue o Text.limitU16 "lookahead" <;> rfl
    have e15 : rc15 = { rc14 with
        enableAq := (numberValue o Text.limitU32 "aq").isSome || rc14.enableAq
        aqStrength := (numberValue o Text.limitU32 "aq").getD rc14.aqStrength } := by
      simp only [rc15]
      cases numberValue o Text.limitU32 "aq" <;> rfl
    simp only [e15, e14, e13, e12, e11, e10, e9, e8, e7, e6, e5, e4, e3, e2, e1]
    rw [bitrateValue_isSome hb, numberValue_isSome hcq, numberValue_isSome ha]
    unfold settle
    cases (o.get "ldkfs").isSome <;> rfl
  rw [← hjp]
  unfold modeValue
  cases hrc : o.get "rc" with
  | none => rfl
  | some v =>
    obtain ⟨m, hm⟩ := modeName_of_faultless hrc hmode
    simp only [RateControlMode.read, hm, Option.bind_some]
    rfl

/-- A malformed `rc` option is a given name that names no mode. -/
theorem modeName_of_fault {e : CodecError} (h : optionFault o "rc" .mode = some e) :
    ∃ v, o.get "rc" = some v ∧ RateControlMode.ofName? v = none ∧
      e = .invalidRateControlMode v := by
  unfold optionFault at h
  cases hv : o.get "rc" with
  | none => simp [hv] at h
  | some v =>
    by_cases hr : RateValue.mode.reads v = true
    · simp [hv, hr] at h
    · simp only [RateValue.reads, Option.isSome_iff_ne_none, ne_eq, Decidable.not_not] at hr
      simp [hv, RateValue.reads, hr, RateValue.fault] at h
      exact ⟨v, rfl, hr, h.symm⟩

/-- **The first malformed option is the failure.** The options are read in a
fixed order, and reading stops at the first one that does not read. -/
theorem applyOptions_of_fault {e : CodecError} (h : (faults o).head? = some e) :
    rc.applyOptions o flags = .error e := by
  simp only [faults, List.head?_filterMap, checkedOptions, List.findSome?_cons] at h
  unfold applyOptions
  rw [bitrateOption_eq, bitrateOption_eq, bitrateOption_eq, bitrateOption_eq, natOption_eq,
    natOption_eq, natOption_eq]
  cases h1 : optionFault o "bitrate" .bitrate
  case some e1 =>
    simp only [h1, Option.some.injEq] at h
    subst h
    rfl
  cases h2 : optionFault o "maxbitrate" .bitrate
  case some e2 =>
    simp only [h1, h2, Option.some.injEq] at h
    subst h
    rfl
  cases h3 : optionFault o "vbvbufsize" .bitrate
  case some e3 =>
    simp only [h1, h2, h3, Option.some.injEq] at h
    subst h
    rfl
  cases h4 : optionFault o "vbvinit" .bitrate
  case some e4 =>
    simp only [h1, h2, h3, h4, Option.some.injEq] at h
    subst h
    rfl
  cases h5 : optionFault o "cq" (.number Text.limitU8)
  case some e5 =>
    simp only [h1, h2, h3, h4, h5, Option.some.injEq] at h
    subst h
    rfl
  cases h6 : optionFault o "rc" .mode
  case some e6 =>
    simp only [h1, h2, h3, h4, h5, h6, Option.some.injEq] at h
    obtain ⟨v, hv, hname, rfl⟩ := modeName_of_fault h6
    subst h
    simp only [hv, RateControlMode.read, hname]
    rfl
  simp -zeta only [Option.elim, bind, Except.bind]
  extract_lets rc1 rc2 rc3 rc4 rc5 rc6 rc7 jp
  suffices hjp : ∀ md, jp md = .error e by
    cases hrc : o.get "rc" with
    | none =>
      rw [← hjp none]
      rfl
    | some v =>
      obtain ⟨m, hm⟩ := modeName_of_faultless hrc h6
      rw [← hjp (some m)]
      simp only [RateControlMode.read, hm]
      rfl
  intro md
  simp -zeta only [jp]
  cases h7 : optionFault o "lookahead" (.number Text.limitU16)
  case some e7 =>
    simp only [h1, h2, h3, h4, h5, h6, h7, Option.some.injEq] at h
    subst h
    rfl
  cases h8 : optionFault o "aq" (.number Text.limitU32)
  case some e8 =>
    simp only [h1, h2, h3, h4, h5, h6, h7, h8, Option.some.injEq] at h
    subst h
    rfl
  -- with no read malformed there is no first failure
  simp [h1, h2, h3, h4, h5, h6, h7, h8] at h

/-! ### The table and its fixed points -/

/-- **Applying the rate-control options is the precedence table, or the
failure of the first malformed option.** -/
theorem applyOptions_eq_settle (o : EncoderOptions) (flags : ParentFlags)
    (rc : RateControlConfig) :
    rc.applyOptions o flags =
      match (faults o).head? with
      | some e => .error e
      | none => .ok (settle o flags rc) := by
  cases h : (faults o).head? with
  | some e => exact applyOptions_of_fault h
  | none => exact applyOptions_of_faultless (List.head?_eq_none_iff.1 h)

/-- A default that an option replaces when given is replaced by the same value
a second time. -/
theorem getD_getD_self {α : Type} (v : Option α) (x : α) : v.getD (v.getD x) = v.getD x := by
  cases v <;> rfl

/-- The same, with the default behind a condition. -/
theorem getD_ite_getD {α : Type} (v : Option α) (c : Prop) [Decidable c] (a x : α) :
    v.getD (if c then a else v.getD x) = v.getD (if c then a else x) := by
  cases v <;> rfl

/-- **The table is idempotent**: every entry is a value the options give or the
field as it was, so settling settled parameters changes nothing. -/
theorem settle_settle (o : EncoderOptions) (flags : ParentFlags) (rc : RateControlConfig) :
    settle o flags (settle o flags rc) = settle o flags rc := by
  simp +contextual [settle, getD_getD_self, getD_ite_getD]

/-- Options apply exactly when none of them is malformed, and then give the
table. -/
theorem applyOptions_eq_ok_iff {r : RateControlConfig} :
    rc.applyOptions o flags = .ok r ↔ faults o = [] ∧ settle o flags rc = r := by
  constructor
  · intro h
    cases hf : (faults o).head? with
    | some e =>
      rw [applyOptions_of_fault hf] at h
      cases h
    | none =>
      have hnil := List.head?_eq_none_iff.1 hf
      rw [applyOptions_of_faultless hnil] at h
      exact ⟨hnil, Except.ok.inj h⟩
  · rintro ⟨hnil, rfl⟩
    exact applyOptions_of_faultless hnil

/-- **Options that applied once apply again to their result and change
nothing.** -/
theorem applyOptions_idem {r : RateControlConfig} (h : rc.applyOptions o flags = .ok r) :
    r.applyOptions o flags = .ok r := by
  obtain ⟨hnil, rfl⟩ := applyOptions_eq_ok_iff.1 h
  rw [applyOptions_of_faultless hnil, settle_settle]

end RateControlConfig

end VideoCodec
