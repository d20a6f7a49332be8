import VideoCodec.Config.Resolve
import VideoCodec.Json
/-!
# Session parameters as JSON

The JSON records of the configuration types. Members are written in the order
of the fields, with snake-case names; each enumeration is written by its
identifier, and the codec block as a one-member object named for the codec.
-/

namespace VideoCodec

/-- A quantiser triple. -/
def Qp.toJson (q : Qp) : Json :=
  .obj [("inter_p", .nat q.interP), ("inter_b", .nat q.interB), ("intra", .nat q.intra)]

/-- Rate-control parameters. -/
def RateControlConfig.toJson (rc : RateControlConfig) : Json :=
  .obj [("mode", .str rc.mode.ident), ("multi_pass", .str rc.multiPass.ident),
    ("low_delay_key_frame_scale", .nat rc.lowDelayKeyFrameScale),
    ("average_bitrate", .nat rc.averageBitrate), ("max_bitrate", .nat rc.maxBitrate),
    ("vbv_buffer_size", .nat rc.vbvBufferSize), ("vbv_initial_delay", .nat rc.vbvInitialDelay),
    ("const_qp", rc.constQp.toJson), ("enable_initial_rc_qp", .bool rc.enableInitialRcQp),
    ("initial_rc_qp", rc.initialRcQp.toJson), ("enable_min_qp", .bool rc.enableMinQp),
    ("min_qp", rc.minQp.toJson), ("enable_max_qp", .bool rc.enableMaxQp),
    ("max_qp", rc.maxQp.toJson), ("target_quality", .nat rc.targetQuality),
    ("enable_aq", .bool rc.enableAq), ("aq_strength", .nat rc.aqStrength),
    ("enable_temporal_aq", .bool rc.enableTemporalAq),
    ("enable_lookahead", .bool rc.enableLookahead), ("lookahead_depth", .nat rc.lookaheadDepth)]

/-- Video usability information. -/
def Vui.toJson (v : Vui) : Json :=
  .obj [("video_signal_type_present", .bool v.videoSignalTypePresent),
    ("video_format", .nat v.videoFormat), ("video_full_range", .bool v.videoFullRange),
    ("colour_description_present", .bool v.colourDescriptionPresent),
    ("colour_primaries", .str v.colourPrimaries.ident),
    ("transfer_characteristics", .str v.transferCharacteristics.ident),
    ("colour_matrix", .str v.colourMatrix.ident),
    ("timing_info_present", .bool v.timingInfoPresent),
    ("num_unit_in_ticks", .nat v.numUnitInTicks), ("time_scale", .nat v.timeScale)]

/-- Codec settings, as a one-member object named for the codec. -/
def CodecConfig.toJson : CodecConfig → Json
  | .h264 c => .obj [("H264", .obj [("chroma_format", .str c.chromaFormat.ident),
      ("idr_period", .nat c.idrPeriod), ("slice_mode", .nat c.sliceMode),
      ("slice_mode_data", .nat c.sliceModeData), ("repeat_sps_pps", .bool c.repeatSpsPps),
      ("num_ref_l0", .nat c.numRefL0), ("num_ref_l1", .nat c.numRefL1), ("vui", c.vui.toJson)])]
  | .hevc c => .obj [("Hevc", .obj [("chroma_format", .str c.chromaFormat.ident),
      ("input_bit_depth", .str c.inputBitDepth.ident),
      ("output_bit_depth", .str c.outputBitDepth.ident), ("idr_period", .nat c.idrPeriod),
      ("slice_mode", .nat c.sliceMode), ("slice_mode_data", .nat c.sliceModeData),
      ("repeat_sps_pps", .bool c.repeatSpsPps), ("num_ref_l0", .nat c.numRefL0),
      ("num_ref_l1", .nat c.numRefL1), ("vui", c.vui.toJson)])]
  | .av1 c => .obj [("Av1", .obj [("chroma_format", .str c.chromaFormat.ident),
      ("input_bit_depth", .str c.inputBitDepth.ident),
      ("output_bit_depth", .str c.outputBitDepth.ident), ("idr_period", .nat c.idrPeriod),
      ("repeat_seq_hdr", .bool c.repeatSeqHdr), ("num_fwd_refs", .nat c.numFwdRefs),
      ("num_bwd_refs", .nat c.numBwdRefs), ("level_autoselect", .bool c.levelAutoselect),
      ("vui", c.vui.toJson)])]

/-- The encode configuration. -/
def EncodeConfig.toJson (e : EncodeConfig) : Json :=
  .obj [("profile", .str e.profile.ident), ("gop_length", .nat e.gopLength),
    ("frame_interval_p", .num e.frameIntervalP), ("rc", e.rc.toJson),
    ("codec_config", e.codecConfig.toJson)]

/-- Session parameters. -/
def InitializeParams.toJson (p : InitializeParams) : Json :=
  .obj [("codec", .str p.codec.ident), ("preset", .str p.preset.ident),
    ("tuning_info", .str p.tuningInfo.ident), ("encode_width", .nat p.encodeWidth),
    ("encode_height", .nat p.encodeHeight), ("dar_width", .nat p.darWidth),
    ("dar_height", .nat p.darHeight), ("max_encode_width", .nat p.maxEncodeWidth),
    ("max_encode_height", .nat p.maxEncodeHeight), ("frame_rate_num", .nat p.frameRateNum),
    ("frame_rate_den", .nat p.frameRateDen), ("enable_ptd", .bool p.enablePtd),
    ("enable_encode_async", .bool p.enableEncodeAsync), ("encode_config", p.encodeConfig.toJson)]

/-- The changeable part of session parameters. -/
def ReconfigureParams.toJson (r : ReconfigureParams) : Json :=
  .obj [("rate_control_mode", .str r.rateControlMode.ident), ("multi_pass", .str r.multiPass.ident),
    ("average_bitrate", .nat r.averageBitrate), ("vbv_buffer_size", .nat r.vbvBufferSize),
    ("max_bitrate", .nat r.maxBitrate), ("vbv_initial_delay", .nat r.vbvInitialDelay),
    ("frame_rate_num", .nat r.frameRateNum), ("frame_rate_den", .nat r.frameRateDen)]

end VideoCodec
