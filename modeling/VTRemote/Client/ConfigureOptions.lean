import VTRemote.Client.Encoder
import VTRemote.Formats.Configure

/-!
# The options of a CONFIGURE

`vtremote_handshake` names, guards and prints the options of the encoder, in
this order.
-/

namespace VTRemote

structure AVRational where
  num : Int32
  den : Int32
deriving DecidableEq, Repr

/-- The fields of `AVCodecContext` that the CONFIGURE of an encoder is made of. -/
structure AVEncoderContext where
  width : Int32
  height : Int32
  pixFmt : AVPixelFormat
  timeBase : AVRational
  framerate : AVRational
  bitRate : Int64
  rcMaxRate : Int64
  gopSize : Int32
  maxBFrames : Int32
  flags : Int32
  globalQuality : Int32
  qmin : Int32
  qmax : Int32
  profile : Int32
  colorRange : Int32
  colorspace : Int32
  colorPrimaries : Int32
  colorTrc : Int32
  sampleAspectRatio : AVRational
deriving DecidableEq, Repr

/-- The private options of the encoder that it sends.  Of `alpha_quality` there
is the text that `%.6f` makes of it, if it is greater than 0.0. -/
structure VTRemoteEncOptions where
  wireCompression : Int32
  profile : Int32
  level : Int32
  entropy : Int32
  allowSw : Int32
  requireSw : Int32
  realtime : Int32
  framesBefore : Int32
  framesAfter : Int32
  prioSpeed : Int32
  powerEfficient : Int32
  spatialaq : Int32
  maxRefFrames : Int32
  maxSliceBytes : Int32
  constantBitRate : Int32
  alphaQuality : Option String
  a53Cc : Int32
deriving DecidableEq, Repr

def avProfileUnknown : Int32 := -99
def avcolRangeUnspecified : Int32 := 0
def avcolSpcUnspecified : Int32 := 2
def avcolPriUnspecified : Int32 := 2
def avcolTrcUnspecified : Int32 := 2

/-!
## The list
-/

/-- A call of `vtremote_add_opt` behind its guard. -/
structure ConfigureOption where
  key : String
  sent : Bool
  value : String
deriving DecidableEq, Repr

def numberOption (key : String) (sent : Bool) (value : Int) : ConfigureOption :=
  { key, sent, value := toString value }

def switchOption (key : String) (value : Int32) : ConfigureOption :=
  { key, sent := value ≠ 0, value := "1" }

/-- `s->profile != AV_PROFILE_UNKNOWN ? s->profile : avctx->profile`. -/
def profileOption (avctx : AVEncoderContext) (s : VTRemoteEncOptions) : Int32 :=
  if s.profile ≠ avProfileUnknown then s.profile else avctx.profile

/-- `sample_aspect_ratio.num > 0 && sample_aspect_ratio.den > 0`. -/
def hasAspectRatio (avctx : AVEncoderContext) : Bool :=
  0 < avctx.sampleAspectRatio.num ∧ 0 < avctx.sampleAspectRatio.den

def configureOptions (avctx : AVEncoderContext) (s : VTRemoteEncOptions) :
    List ConfigureOption :=
  [ { key := "mode", sent := true, value := "encode" },
    numberOption "wire_compression" (0 < s.wireCompression) s.wireCompression.toInt,
    numberOption "bitrate" (0 < avctx.bitRate) avctx.bitRate.toInt,
    numberOption "maxrate" (0 < avctx.rcMaxRate) avctx.rcMaxRate.toInt,
    numberOption "gop" (0 < avctx.gopSize) avctx.gopSize.toInt,
    numberOption "max_b_frames" (0 < avctx.maxBFrames) avctx.maxBFrames.toInt,
    numberOption "flags" (avctx.flags ≠ 0) avctx.flags.toInt,
    numberOption "global_quality" (0 < avctx.globalQuality) avctx.globalQuality.toInt,
    numberOption "qmin" (0 ≤ avctx.qmin) avctx.qmin.toInt,
    numberOption "qmax" (0 ≤ avctx.qmax) avctx.qmax.toInt,
    numberOption "profile" (profileOption avctx s ≠ avProfileUnknown)
      (profileOption avctx s).toInt,
    numberOption "level" (0 < s.level) s.level.toInt,
    numberOption "entropy" (0 ≤ s.entropy) s.entropy.toInt,
    switchOption "allow_sw" s.allowSw,
    switchOption "require_sw" s.requireSw,
    numberOption "realtime" (0 ≤ s.realtime) s.realtime.toInt,
    switchOption "frames_before" s.framesBefore,
    switchOption "frames_after" s.framesAfter,
    numberOption "prio_speed" (0 ≤ s.prioSpeed) s.prioSpeed.toInt,
    numberOption "power_efficient" (0 ≤ s.powerEfficient) s.powerEfficient.toInt,
    numberOption "spatial_aq" (0 ≤ s.spatialaq) s.spatialaq.toInt,
    numberOption "max_ref_frames" (0 < s.maxRefFrames) s.maxRefFrames.toInt,
    numberOption "max_slice_bytes" (0 ≤ s.maxSliceBytes) s.maxSliceBytes.toInt,
    switchOption "constant_bit_rate" s.constantBitRate,
    { key := "alpha_quality", sent := s.alphaQuality.isSome
      value := s.alphaQuality.getD "" },
    numberOption "color_range" (avctx.colorRange ≠ avcolRangeUnspecified)
      avctx.colorRange.toInt,
    numberOption "colorspace" (avctx.colorspace ≠ avcolSpcUnspecified)
      avctx.colorspace.toInt,
    numberOption "color_primaries" (avctx.colorPrimaries ≠ avcolPriUnspecified)
      avctx.colorPrimaries.toInt,
    numberOption "color_trc" (avctx.colorTrc ≠ avcolTrcUnspecified)
      avctx.colorTrc.toInt,
    numberOption "sar_num" (hasAspectRatio avctx) avctx.sampleAspectRatio.num.toInt,
    numberOption "sar_den" (hasAspectRatio avctx) avctx.sampleAspectRatio.den.toInt,
    numberOption "a53_cc" (0 ≤ s.a53Cc) s.a53Cc.toInt ]

def sentOptions (options : List ConfigureOption) : List (String × String) :=
  (options.filter ConfigureOption.sent).map fun option => (option.key, option.value)

/-!
## The message
-/

def wirePixFmt : AVPixelFormat -> Except AvError UInt8
  | .nv12 => .ok 1
  | .p010le => .ok 2
  | _ => .error (averror einval)

def uint32OfInt32 (n : Int32) : UInt32 := UInt32.ofInt n.toInt

/-- `vtremote_payload_configure` for the encoder. -/
def encoderConfigure (avctx : AVEncoderContext) (s : VTRemoteEncOptions)
    (pixFmt : UInt8) : WbufPut :=
  let options := sentOptions (configureOptions avctx s)
  vtremotePayloadConfigure (uint32OfInt32 avctx.width) (uint32OfInt32 avctx.height)
    pixFmt (uint32OfInt32 avctx.timeBase.num) (uint32OfInt32 avctx.timeBase.den)
    (uint32OfInt32 avctx.framerate.num) (uint32OfInt32 avctx.framerate.den)
    (options.map optionKV) options.length none 0

def putConfigure (avctx : AVEncoderContext) (s : VTRemoteEncOptions) :
    Except AvError WbufPut :=
  (wirePixFmt avctx.pixFmt).map (encoderConfigure avctx s)

/-!
## Keys
-/

theorem configureOptions_keys (avctx : AVEncoderContext) (s : VTRemoteEncOptions) :
    (configureOptions avctx s).map ConfigureOption.key =
      ["mode", "wire_compression", "bitrate", "maxrate", "gop", "max_b_frames",
        "flags", "global_quality", "qmin", "qmax", "profile", "level", "entropy",
        "allow_sw", "require_sw", "realtime", "frames_before", "frames_after",
        "prio_speed", "power_efficient", "spatial_aq", "max_ref_frames",
        "max_slice_bytes", "constant_bit_rate", "alpha_quality", "color_range",
        "colorspace", "color_primaries", "color_trc", "sar_num", "sar_den",
        "a53_cc"] := rfl

theorem configureOptions_nodup (avctx : AVEncoderContext) (s : VTRemoteEncOptions) :
    ((configureOptions avctx s).map ConfigureOption.key).Nodup := by
  rw [configureOptions_keys]
  decide +kernel

theorem length_sentOptions_le (avctx : AVEncoderContext) (s : VTRemoteEncOptions) :
    (sentOptions (configureOptions avctx s)).length ≤ 65535 := by
  have hlength : (configureOptions avctx s).length ≤ 65535 := by
    show 32 ≤ 65535
    decide
  unfold sentOptions
  rw [List.length_map]
  exact Nat.le_trans (List.length_filter_le _ _) hlength

theorem putConfigure_eq_ok {avctx : AVEncoderContext} {s : VTRemoteEncOptions}
    {put : WbufPut} (h : putConfigure avctx s = .ok put) :
    exists pixFmt, put = encoderConfigure avctx s pixFmt := by
  unfold putConfigure at h
  cases hpixFmt : wirePixFmt avctx.pixFmt with
  | error e =>
      rw [hpixFmt] at h
      cases h
  | ok pixFmt =>
      rw [hpixFmt] at h
      cases h
      exact ⟨pixFmt, rfl⟩

end VTRemote
