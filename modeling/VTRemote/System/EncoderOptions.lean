import Mathlib.Data.List.Nodup
import VTRemote.Client.ConfigureFits
import VTRemote.Client.ConfigureOptions
import VTRemote.Server.SessionOptions

/-!
# Encoder options on both sides

The server looks up the options of a CONFIGURE under the keys that the client
gave them, and has the client's value of each or the value that its guard
stands for.
-/

namespace VTRemote

attribute [local irreducible] cInt

def KeepsAscii (canonical : String -> String) : Prop :=
  forall string : String, (forall c, c ∈ string.toList -> c.toNat < 128) ->
    canonical string = string

theorem KeepsAscii.of_all {canonical : String -> String}
    (hcanonical : KeepsAscii canonical) {string : String}
    (hascii : string.toList.all fun c => decide (c.toNat < 128)) :
    canonical string = string := by
  apply hcanonical
  intro c hc
  exact of_decide_eq_true (List.all_eq_true.mp hascii c hc)

section Lookup

variable {canonical : String -> String} (hcanonical : KeepsAscii canonical)
variable {options : OptionsDictionary canonical} {sent : List ConfigureOption}

structure Holds (options : OptionsDictionary canonical)
    (list : List ConfigureOption) : Prop where
  entries : options.entries = sentOptions list
  nodup : (list.map ConfigureOption.key).Nodup
  keys : forall option, option ∈ list -> canonical option.key = option.key

variable {list : List ConfigureOption}

theorem Holds.lookup (h : Holds options list) {option : ConfigureOption}
    (hmem : option ∈ list) :
    options.lookup option.key = if option.sent then some option.value else none := by
  split
  · rename_i hsent
    apply OptionsDictionary.lookup_of_mem
    rw [h.entries]
    exact List.mem_map.mpr ⟨option, List.mem_filter.mpr ⟨hmem, hsent⟩, rfl⟩
  · rename_i hskipped
    unfold OptionsDictionary.lookup
    rw [Option.map_eq_none_iff, List.find?_eq_none]
    intro entry hentry hequal
    rw [h.entries] at hentry
    rcases List.mem_map.mp hentry with ⟨other, hother, rfl⟩
    rcases List.mem_filter.mp hother with ⟨hmem', hsent'⟩
    have hkey : other.key = option.key := by
      rw [← h.keys other hmem', ← h.keys option hmem]
      exact of_decide_eq_true hequal
    have hsame := List.inj_on_of_nodup_map h.nodup hmem' hmem hkey
    exact hskipped (hsame ▸ hsent')

theorem int32_range (n : Int32) :
    -9223372036854775808 ≤ n.toInt ∧ n.toInt ≤ 9223372036854775807 := by
  have hmin := n.le_toInt
  have hmax := n.toInt_lt
  omega

theorem int64_range (n : Int64) :
    -9223372036854775808 ≤ n.toInt ∧ n.toInt ≤ 9223372036854775807 := by
  have hmin := n.le_toInt
  have hmax := n.toInt_lt
  omega

section Numbers

variable {key : String} {guard : Prop} [Decidable guard]

theorem Holds.int (h : Holds options list) {n : Int}
    (hmem : numberOption key (decide guard) n ∈ list) (default : Int)
    (hrange : -9223372036854775808 ≤ n ∧ n ≤ 9223372036854775807) :
    SessionOptions.int options key default = if guard then n else default := by
  have hlookup := h.lookup hmem
  split
  · rename_i hguard
    exact SessionOptions.int_of_some default hrange.1 hrange.2
      (hlookup.trans (if_pos (decide_eq_true hguard)))
  · rename_i hguard
    exact SessionOptions.int_of_none default
      (hlookup.trans (if_neg (fun hsent => hguard (of_decide_eq_true hsent))))

theorem Holds.int32 (h : Holds options list) {value : Int32}
    (hmem : numberOption key (decide guard) value.toInt ∈ list) (default : Int) :
    SessionOptions.int options key default =
      if guard then value.toInt else default :=
  h.int hmem default (int32_range value)

theorem Holds.int64 (h : Holds options list) {value : Int64}
    (hmem : numberOption key (decide guard) value.toInt ∈ list) (default : Int) :
    SessionOptions.int options key default =
      if guard then value.toInt else default :=
  h.int hmem default (int64_range value)

theorem Holds.flags (h : Holds options list) {value : Int32}
    (hmem : numberOption key (decide (value ≠ 0)) value.toInt ∈ list) :
    SessionOptions.int64 options key 0 = Int64.ofInt value.toInt := by
  have hlookup := h.lookup hmem
  have hrange := int32_range value
  rcases eq_or_ne value 0 with hzero | hvalue
  · have hnone : options.lookup key = none := by
      refine hlookup.trans (if_neg ?_)
      intro hsent
      exact (of_decide_eq_true hsent : value ≠ 0) hzero
    rw [SessionOptions.int64_of_none 0 hnone, hzero]
    rfl
  · exact SessionOptions.int64_of_some 0 hrange.1 hrange.2
      (hlookup.trans (if_pos (decide_eq_true hvalue)))

end Numbers

include hcanonical in
theorem Holds.bool (h : Holds options list) {key : String} {value : Int32}
    (hmem : switchOption key value ∈ list) :
    SessionOptions.bool options key = decide (value ≠ 0) := by
  have hzero : canonical "0" = "0" := hcanonical.of_all (by decide +kernel)
  have hone : canonical "1" = "1" := hcanonical.of_all (by decide +kernel)
  have hlookup := h.lookup hmem
  unfold switchOption at hlookup
  unfold SessionOptions.bool
  rcases eq_or_ne value 0 with rfl | hvalue
  · rw [if_neg (fun hsent => absurd rfl (of_decide_eq_true hsent))] at hlookup
    rw [hlookup, Option.getD_none]
    simp only [ne_eq, not_true_eq_false, decide_false]
  · rw [if_pos (decide_eq_true hvalue)] at hlookup
    rw [hlookup, Option.getD_some, hone, hzero, decide_eq_true hvalue]
    decide

end Lookup

/-!
## The session's options
-/

/-- What the options of a session are for an encoder: the client's values where
they are sent, else what stands for them. -/
structure OptionsAgree (avctx : AVEncoderContext) (s : VTRemoteEncOptions)
    (o : SessionOptions) : Prop where
  bitrate : o.bitrate = if 0 < avctx.bitRate then avctx.bitRate.toInt else 0
  maxRate : o.maxRate = if 0 < avctx.rcMaxRate then avctx.rcMaxRate.toInt else 0
  gop : o.gop = if 0 < avctx.gopSize then avctx.gopSize.toInt else 0
  maxBFrames : o.maxBFrames =
    if 0 < avctx.maxBFrames then avctx.maxBFrames.toInt else 0
  flags : o.flags.toInt = if avctx.flags ≠ 0 then avctx.flags.toInt else 0
  globalQuality : o.globalQuality =
    if 0 < avctx.globalQuality then avctx.globalQuality.toInt else 0
  qmin : o.qmin = if 0 ≤ avctx.qmin then avctx.qmin.toInt else -1
  qmax : o.qmax = if 0 ≤ avctx.qmax then avctx.qmax.toInt else -1
  profile : o.profile =
    if profileOption avctx s ≠ avProfileUnknown then (profileOption avctx s).toInt
    else -99
  level : o.level = if 0 < s.level then s.level.toInt else 0
  entropy : o.entropy = if 0 ≤ s.entropy then s.entropy.toInt else 0
  allowSoftware : o.allowSoftware = decide (s.allowSw ≠ 0)
  requireSoftware : o.requireSoftware = decide (s.requireSw ≠ 0)
  realtime : o.realtime = if 0 ≤ s.realtime then s.realtime.toInt else -1
  framesBefore : o.framesBefore = decide (s.framesBefore ≠ 0)
  framesAfter : o.framesAfter = decide (s.framesAfter ≠ 0)
  prioritizeSpeed : o.prioritizeSpeed =
    if 0 ≤ s.prioSpeed then s.prioSpeed.toInt else -1
  powerEfficient : o.powerEfficient =
    if 0 ≤ s.powerEfficient then s.powerEfficient.toInt else -1
  spatialAQ : o.spatialAQ = if 0 ≤ s.spatialaq then s.spatialaq.toInt else -1
  maxReferenceFrames : o.maxReferenceFrames =
    if 0 < s.maxRefFrames then s.maxRefFrames.toInt else 0
  maxSliceBytes : o.maxSliceBytes =
    if 0 ≤ s.maxSliceBytes then s.maxSliceBytes.toInt else -1
  constantBitRate : o.constantBitRate = decide (s.constantBitRate ≠ 0)
  colorRange : o.colorRange =
    if avctx.colorRange ≠ avcolRangeUnspecified then avctx.colorRange.toInt
    else avcolRangeUnspecified.toInt
  colorSpace : o.colorSpace =
    if avctx.colorspace ≠ avcolSpcUnspecified then avctx.colorspace.toInt
    else avcolSpcUnspecified.toInt
  colorPrimaries : o.colorPrimaries =
    if avctx.colorPrimaries ≠ avcolPriUnspecified then avctx.colorPrimaries.toInt
    else avcolPriUnspecified.toInt
  colorTRC : o.colorTRC =
    if avctx.colorTrc ≠ avcolTrcUnspecified then avctx.colorTrc.toInt
    else avcolTrcUnspecified.toInt
  sarNum : o.sarNum =
    if 0 < avctx.sampleAspectRatio.num ∧ 0 < avctx.sampleAspectRatio.den then
      avctx.sampleAspectRatio.num.toInt
    else 0
  sarDen : o.sarDen =
    if 0 < avctx.sampleAspectRatio.num ∧ 0 < avctx.sampleAspectRatio.den then
      avctx.sampleAspectRatio.den.toInt
    else 0
  a53CC : o.a53CC = if 0 ≤ s.a53Cc then s.a53Cc.toInt else -1
  wireCompression : o.wireCompression =
    if 0 < s.wireCompression then s.wireCompression.toInt else 0
  qscale : o.hasFlag avCodecFlagQscale = avctx.flags.toBitVec.getLsbD 1
  lowDelay : o.hasFlag avCodecFlagLowDelay = avctx.flags.toBitVec.getLsbD 19
  closedGop : o.hasFlag avCodecFlagClosedGop = avctx.flags.toBitVec.getLsbD 31

section Agree

variable {canonical : String -> String} (hcanonical : KeepsAscii canonical)
variable {options : OptionsDictionary canonical}
variable {avctx : AVEncoderContext} {s : VTRemoteEncOptions}

theorem configureOptions_canonical (hcanonical : KeepsAscii canonical)
    {option : ConfigureOption} (h : option ∈ configureOptions avctx s) :
    canonical option.key = option.key := by
  have hkey := List.mem_map_of_mem (f := ConfigureOption.key) h
  rw [configureOptions_keys] at hkey
  apply hcanonical.of_all
  revert hkey
  generalize option.key = key
  revert key
  decide +kernel

include hcanonical in
theorem optionsAgree (h : Holds options (configureOptions avctx s)) :
    OptionsAgree avctx s (SessionOptions.init options) := by
  have hflags : (SessionOptions.init options).flags = Int64.ofInt avctx.flags.toInt :=
    h.flags (List.mem_of_getElem? (i := 6) rfl)
  have hflag : forall {flag : Int64} {bit : Nat}, bit < 32 ->
      flag.toBitVec = BitVec.twoPow 64 bit ->
      (SessionOptions.init options).hasFlag flag = avctx.flags.toBitVec.getLsbD bit := by
    intro flag bit hbit hflag
    unfold SessionOptions.hasFlag
    rw [hflags, Bool.eq_iff_iff, decide_eq_true_iff]
    exact ofInt_and_flag hbit hflag
  constructor
  case flags =>
    have hrange := int32_range avctx.flags
    rw [hflags, Int64.toInt_ofInt_of_le hrange.1 (by omega)]
    split
    · rfl
    · rename_i hzero
      rw [not_not.mp hzero]
      rfl
  case qscale => exact hflag (by decide) (by decide)
  case lowDelay => exact hflag (by decide) (by decide)
  case closedGop => exact hflag (by decide) (by decide)
  case allowSoftware => exact h.bool hcanonical (List.mem_of_getElem? (i := 13) rfl)
  case requireSoftware => exact h.bool hcanonical (List.mem_of_getElem? (i := 14) rfl)
  case framesBefore => exact h.bool hcanonical (List.mem_of_getElem? (i := 16) rfl)
  case framesAfter => exact h.bool hcanonical (List.mem_of_getElem? (i := 17) rfl)
  case constantBitRate => exact h.bool hcanonical (List.mem_of_getElem? (i := 23) rfl)
  case wireCompression => exact h.int32 (List.mem_of_getElem? (i := 1) rfl) 0
  case bitrate => exact h.int64 (List.mem_of_getElem? (i := 2) rfl) 0
  case maxRate => exact h.int64 (List.mem_of_getElem? (i := 3) rfl) 0
  case gop => exact h.int32 (List.mem_of_getElem? (i := 4) rfl) 0
  case maxBFrames => exact h.int32 (List.mem_of_getElem? (i := 5) rfl) 0
  case globalQuality => exact h.int32 (List.mem_of_getElem? (i := 7) rfl) 0
  case qmin => exact h.int32 (List.mem_of_getElem? (i := 8) rfl) (-1)
  case qmax => exact h.int32 (List.mem_of_getElem? (i := 9) rfl) (-1)
  case profile => exact h.int32 (List.mem_of_getElem? (i := 10) rfl) (-99)
  case level => exact h.int32 (List.mem_of_getElem? (i := 11) rfl) 0
  case entropy => exact h.int32 (List.mem_of_getElem? (i := 12) rfl) 0
  case realtime => exact h.int32 (List.mem_of_getElem? (i := 15) rfl) (-1)
  case prioritizeSpeed => exact h.int32 (List.mem_of_getElem? (i := 18) rfl) (-1)
  case powerEfficient => exact h.int32 (List.mem_of_getElem? (i := 19) rfl) (-1)
  case spatialAQ => exact h.int32 (List.mem_of_getElem? (i := 20) rfl) (-1)
  case maxReferenceFrames => exact h.int32 (List.mem_of_getElem? (i := 21) rfl) 0
  case maxSliceBytes => exact h.int32 (List.mem_of_getElem? (i := 22) rfl) (-1)
  case colorRange => exact h.int32 (List.mem_of_getElem? (i := 25) rfl) 0
  case colorSpace => exact h.int32 (List.mem_of_getElem? (i := 26) rfl) 2
  case colorPrimaries => exact h.int32 (List.mem_of_getElem? (i := 27) rfl) 2
  case colorTRC => exact h.int32 (List.mem_of_getElem? (i := 28) rfl) 2
  case sarNum => exact h.int32 (List.mem_of_getElem? (i := 29) rfl) 0
  case sarDen => exact h.int32 (List.mem_of_getElem? (i := 30) rfl) 0
  case a53CC => exact h.int32 (List.mem_of_getElem? (i := 31) rfl) (-1)

end Agree

/-!
## The trip
-/

theorem sentOptions_distinct {canonical : String -> String}
    (hcanonical : KeepsAscii canonical) (avctx : AVEncoderContext)
    (s : VTRemoteEncOptions) :
    (sentOptions (configureOptions avctx s)).Pairwise
      fun a b => canonical a.1 ≠ canonical b.1 := by
  have hkeys := configureOptions_nodup avctx s
  rw [List.nodup_iff_pairwise_ne, List.pairwise_map] at hkeys
  have hcanon : (configureOptions avctx s).Pairwise
      fun a b => canonical a.key ≠ canonical b.key := by
    refine hkeys.imp_of_mem ?_
    intro a b ha hb hne
    rw [configureOptions_canonical hcanonical ha, configureOptions_canonical hcanonical hb]
    exact hne
  unfold sentOptions
  rw [List.pairwise_map]
  exact hcanon.sublist List.filter_sublist

def ConfigureOption.Short (option : ConfigureOption) : Prop :=
  (utf8Data option.value).length ≤ 65535

theorem numberOption_short32 (key : String) (sent : Bool) (value : Int32) :
    (numberOption key sent value.toInt).Short :=
  (printed_length_le (int32_range value).1 (int32_range value).2).trans (by decide)

theorem numberOption_short64 (key : String) (sent : Bool) (value : Int64) :
    (numberOption key sent value.toInt).Short :=
  (printed_length_le (int64_range value).1 (int64_range value).2).trans (by decide)

theorem switchOption_short (key : String) (value : Int32) :
    (switchOption key value).Short := by
  show (utf8Data "1").length ≤ 65535
  decide +kernel

theorem configureOptions_short (avctx : AVEncoderContext) {s : VTRemoteEncOptions}
    (halpha : (utf8Data (s.alphaQuality.getD "")).length ≤ 65535) :
    forall option, option ∈ configureOptions avctx s -> option.Short := by
  have hmode : (ConfigureOption.mk "mode" true "encode").Short := by
    show (utf8Data "encode").length ≤ 65535
    decide +kernel
  unfold configureOptions
  simp only [List.forall_mem_cons]
  exact ⟨hmode, numberOption_short32 _ _ _, numberOption_short64 _ _ _,
    numberOption_short64 _ _ _, numberOption_short32 _ _ _, numberOption_short32 _ _ _,
    numberOption_short32 _ _ _, numberOption_short32 _ _ _, numberOption_short32 _ _ _,
    numberOption_short32 _ _ _, numberOption_short32 _ _ _, numberOption_short32 _ _ _,
    numberOption_short32 _ _ _, switchOption_short _ _, switchOption_short _ _,
    numberOption_short32 _ _ _, switchOption_short _ _, switchOption_short _ _,
    numberOption_short32 _ _ _, numberOption_short32 _ _ _, numberOption_short32 _ _ _,
    numberOption_short32 _ _ _, numberOption_short32 _ _ _, switchOption_short _ _,
    halpha, numberOption_short32 _ _ _, numberOption_short32 _ _ _,
    numberOption_short32 _ _ _, numberOption_short32 _ _ _, numberOption_short32 _ _ _,
    numberOption_short32 _ _ _, numberOption_short32 _ _ _, List.forall_mem_nil _⟩

theorem encoderConfigure_succeeds (avctx : AVEncoderContext) {s : VTRemoteEncOptions}
    (halpha : (utf8Data (s.alphaQuality.getD "")).length ≤ 65535) (pixFmt : UInt8)
    {b : VTRemoteWBuf} (hb : b.Granted) : (encoderConfigure avctx s pixFmt b).1 = 0 := by
  have hlength : ((sentOptions (configureOptions avctx s)).map optionKV).length =
      (sentOptions (configureOptions avctx s)).length := List.length_map _
  have hle : (sentOptions (configureOptions avctx s)).length ≤ 32 := by
    unfold sentOptions
    rw [List.length_map]
    exact Nat.le_trans (List.length_filter_le _ _) (Nat.le_refl 32)
  have hkeys : forall key, key ∈ (configureOptions avctx s).map ConfigureOption.key ->
      (utf8Data key).length ≤ 65535 := by
    rw [configureOptions_keys]
    decide +kernel
  have hfits : forall kv, kv ∈ (sentOptions (configureOptions avctx s)).map optionKV ->
      kv.Fits := by
    intro kv hmem
    rcases List.mem_map.mp hmem with ⟨sent, hsent, rfl⟩
    unfold sentOptions at hsent
    rcases List.mem_map.mp hsent with ⟨option, hoption, rfl⟩
    have hall := (List.mem_filter.mp hoption).1
    exact ⟨hkeys _ (List.mem_map_of_mem hall), configureOptions_short avctx halpha _ hall⟩
  have hne : (sentOptions (configureOptions avctx s)).map optionKV ≠ [] :=
    List.cons_ne_nil _ _
  have hmax : ((sentOptions (configureOptions avctx s)).map optionKV).length * 131074 +
      ((none : Option Bytes).getD []).length + 31 ≤ maxAllocSize := by
    rw [hlength, Option.getD_none, List.length_nil]
    unfold maxAllocSize
    omega
  unfold encoderConfigure
  rw [<- hlength]
  exact vtremotePayloadConfigure_succeeds (uint32OfInt32 avctx.width)
    (uint32OfInt32 avctx.height) pixFmt (uint32OfInt32 avctx.timeBase.num)
    (uint32OfInt32 avctx.timeBase.den) (uint32OfInt32 avctx.framerate.num)
    (uint32OfInt32 avctx.framerate.den)
    ((sentOptions (configureOptions avctx s)).map optionKV) none 0 hb hne hfits rfl hmax

/-- On every buffer that takes the CONFIGURE, the server reads the encoder's options from
it, and no option takes the place of another; a buffer with memory takes it. -/
theorem encoder_options_agree (canonical : String -> String)
    (hcanonical : KeepsAscii canonical) (avctx : AVEncoderContext)
    (s : VTRemoteEncOptions) (put : WbufPut) (hconfigure : putConfigure avctx s = .ok put) :
    (forall b, (put b).1 = 0 ->
      exists request : ConfigureRequest canonical,
        ConfigureRequest.decode canonical (put b).2.contents = .ok request ∧
        request.options.entries = sentOptions (configureOptions avctx s) ∧
        OptionsAgree avctx s (SessionOptions.init request.options)) ∧
    ((utf8Data (s.alphaQuality.getD "")).length ≤ 65535 ->
      forall b : VTRemoteWBuf, b.Granted -> (put b).1 = 0) := by
  rcases putConfigure_eq_ok hconfigure with ⟨pixFmt, rfl⟩
  refine ⟨?_, fun halpha b hb => encoderConfigure_succeeds avctx halpha pixFmt hb⟩
  intro b hput
  have hcount := length_sentOptions_le avctx s
  have hmap : ((sentOptions (configureOptions avctx s)).map optionKV).length =
      (sentOptions (configureOptions avctx s)).length := List.length_map _
  unfold encoderConfigure at hput ⊢
  rw [← hmap] at hcount hput ⊢
  have hdecode := configureRequest_decode_payload canonical hcount rfl hput
  refine ⟨_, hdecode, ?_⟩
  have hentries := assignAll_distinct OptionsDictionary.empty
    (sentOptions (configureOptions avctx s)) (sentOptions_distinct hcanonical avctx s)
  refine ⟨hentries, optionsAgree hcanonical ⟨hentries, ?_, ?_⟩⟩
  · exact configureOptions_nodup avctx s
  · exact fun option hmem => configureOptions_canonical hcanonical hmem

private def plainContext : AVEncoderContext where
  width := 64
  height := 48
  pixFmt := .nv12
  timeBase := ⟨1, 25⟩
  framerate := ⟨25, 1⟩
  bitRate := 4000000
  rcMaxRate := 0
  gopSize := 12
  maxBFrames := 0
  flags := -2147483648
  globalQuality := 0
  qmin := -1
  qmax := -1
  profile := -99
  colorRange := 0
  colorspace := 2
  colorPrimaries := 2
  colorTrc := 2
  sampleAspectRatio := ⟨0, 1⟩

private def plainOptions : VTRemoteEncOptions where
  wireCompression := 0
  profile := -99
  level := 0
  entropy := -1
  allowSw := 1
  requireSw := 0
  realtime := -1
  framesBefore := 0
  framesAfter := 0
  prioSpeed := -1
  powerEfficient := -1
  spatialaq := -1
  maxRefFrames := 0
  maxSliceBytes := -1
  constantBitRate := 0
  alphaQuality := none
  a53Cc := 1

/-- The sign bit of the flags is the closed GOP. -/
theorem encoder_options_agree_plain :
    exists request : ConfigureRequest id,
      ConfigureRequest.decode id (encoderConfigure plainContext plainOptions 1
        (vtremoteWbufInit [])).2.contents = .ok request ∧
      request.options.entries = [("mode", "encode"), ("bitrate", "4000000"),
        ("gop", "12"), ("flags", "-2147483648"), ("allow_sw", "1"), ("a53_cc", "1")] ∧
      (SessionOptions.init request.options).bitrate = 4000000 ∧
      (SessionOptions.init request.options).qmin = -1 ∧
      (SessionOptions.init request.options).hasFlag avCodecFlagClosedGop = true := by
  have hagree := encoder_options_agree id (fun _ _ => rfl) plainContext plainOptions
    (encoderConfigure plainContext plainOptions 1) rfl
  have hput := hagree.2 (by decide +kernel) (vtremoteWbufInit [])
    ⟨VTRemoteWBuf.sound_reset (vtremoteWbufInit []), rfl⟩
  rcases hagree.1 _ hput with ⟨request, hdecode, hentries, hoptions⟩
  refine ⟨request, hdecode, hentries.trans (by decide +kernel), hoptions.bitrate,
    hoptions.qmin, ?_⟩
  rw [hoptions.closedGop]
  decide

end VTRemote
