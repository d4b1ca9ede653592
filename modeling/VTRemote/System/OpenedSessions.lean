import VTRemote.Formats.Control
import VTRemote.System.SessionOpening

/-!
# The sessions that clients open

An encoder opens exactly if the server can be reached, knows the token, and knows what
is asked for; its session then has the options of the encoder.  A decoder that opens and
decodes gets the frames of its session.
-/

namespace VTRemote

open Call VTRClientHandler

attribute [local irreducible] cInt

/-!
## What the sides ask for
-/

namespace HandshakeSide

variable {β : Type} (canonical : String -> String) (side : HandshakeSide β)

def all : List ConfigureOption :=
  { key := "mode", sent := true, value := side.mode } :: side.options

structure Keyed : Prop where
  nodup : (side.all.map ConfigureOption.key).Nodup
  keys : forall option, option ∈ side.all -> canonical option.key = option.key

variable {canonical} {side}

theorem Keyed.holds (h : side.Keyed canonical) (pixFmt : UInt8) :
    Holds (side.request canonical pixFmt).options side.all where
  nodup := h.nodup
  keys := h.keys
  entries := by
    have hkeys := h.nodup
    rw [List.nodup_iff_pairwise_ne, List.pairwise_map] at hkeys
    have hcanon : side.all.Pairwise fun a b => canonical a.key ≠ canonical b.key := by
      refine hkeys.imp_of_mem ?_
      intro a b ha hb hne
      rw [h.keys a ha, h.keys b hb]
      exact hne
    have hsent : side.sent.Pairwise fun a b => canonical a.1 ≠ canonical b.1 := by
      show ((side.all.filter ConfigureOption.sent).map fun option =>
        (option.key, option.value)).Pairwise _
      rw [List.pairwise_map]
      exact hcanon.sublist List.filter_sublist
    exact assignAll_distinct OptionsDictionary.empty side.sent hsent

theorem Keyed.wireCompression (h : side.Keyed canonical) {wire : Int32}
    (hmem : numberOption "wire_compression" (decide (0 < wire)) wire.toInt ∈ side.all)
    (pixFmt : UInt8) :
    wireCompressionOption canonical (side.request canonical pixFmt).options =
      if 0 < wire then wire.toInt else 0 :=
  (h.holds pixFmt).int32 hmem 0

theorem Keyed.mode (h : side.Keyed canonical) (hcanonical : KeepsAscii canonical)
    (hmode : side.mode = "encode" ∨ side.mode = "decode") (pixFmt : UInt8) :
    SessionMode.ofOptions canonical (side.request canonical pixFmt).options =
      if side.mode = "decode" then .decode else .encode := by
  have hlookup : (side.request canonical pixFmt).options.lookup "mode" = some side.mode :=
    (h.holds pixFmt).lookup List.mem_cons_self
  have hencode : canonical "encode" = "encode" := hcanonical.of_all (by decide +kernel)
  have hdecode : canonical "decode" = "decode" := hcanonical.of_all (by decide +kernel)
  unfold SessionMode.ofOptions
  rw [hlookup, Option.getD_some, hdecode]
  rcases hmode with hmode | hmode
  · rw [hmode, hencode]
  · rw [hmode, hdecode]

theorem fits_of_short (hcount : side.all.length ≤ 32)
    (hkeys : forall key, key ∈ side.all.map ConfigureOption.key ->
      (utf8Data key).length ≤ 65535)
    (hshort : forall option, option ∈ side.all -> option.Short)
    (hextradata : (uint32OfInt32 side.extradataSize).toNat =
      (side.extradata.getD []).length)
    (hlt : (side.extradata.getD []).length < 268435456) : side.Fits where
  options := by
    intro option h
    have hsome : option ∈ (side.all.filter ConfigureOption.sent).map
        fun option => (option.key, option.value) := h
    rcases List.mem_map.mp hsome with ⟨sent, hsent, rfl⟩
    have hmem := (List.mem_filter.mp hsent).1
    exact ⟨hkeys _ (List.mem_map_of_mem hmem), hshort sent hmem⟩
  count := by
    show ((side.all.filter ConfigureOption.sent).map _).length ≤ 32
    rw [List.length_map]
    exact (List.length_filter_le _ _).trans hcount
  extradata_length := hextradata
  extradata_lt := hlt

end HandshakeSide

/-!
## The answer to the CONFIGURE
-/

theorem stubConfigureAck_view (pixFmt : UInt8) :
    vtremoteHandleConfigureAck (stubConfigureAck pixFmt).encode
        (cInt (UInt32.ofNat (stubConfigureAck pixFmt).encode.length).toNat) =
      .ok ⟨[], pixFmt, 0⟩ := by
  have hlength : (UInt32.ofNat (stubConfigureAck pixFmt).encode.length).toNat =
      (stubConfigureAck pixFmt).encode.length := by
    have hfive : (stubConfigureAck pixFmt).encode.length = 5 := rfl
    rw [hfive]
    rfl
  rw [hlength]
  exact vtremoteHandleConfigureAck_encode (Nat.zero_le _)

theorem acknowledged_configureAnswer {β : Type} (canonical : String -> String)
    (side : HandshakeSide β) (pixFmt : UInt8) :
    acknowledged .configureAck side.handleAck (configureAnswer canonical side pixFmt) =
      if SupportedWire (wireCompressionOption canonical
        (side.request canonical pixFmt).options) then
        side.handleAck (stubConfigureAck pixFmt).encode
          (cInt (UInt32.ofNat (stubConfigureAck pixFmt).encode.length).toNat)
      else .error averrorInvaliddata := by
  unfold configureAnswer
  dsimp only
  split
  · exact if_neg (fun h => h rfl)
  · exact if_pos (show VTRemoteMsgType.code .error ≠ VTRemoteMsgType.code .configureAck by decide)

theorem encoderAck_stub (alloc : Allocator) (codecId : AVCodecID) (pixFmt : UInt8) :
    encoderAck alloc codecId (stubConfigureAck pixFmt).encode
        (cInt (UInt32.ofNat (stubConfigureAck pixFmt).encode.length).toNat) =
      .ok { out := none, outSize := 0 } := by
  unfold encoderAck configureAckExtradata
  rw [stubConfigureAck_view]
  rfl

theorem decoderAck_stub (old : AVPixelFormat) (pixFmt : UInt8) :
    decoderAck old (stubConfigureAck pixFmt).encode
        (cInt (UInt32.ofNat (stubConfigureAck pixFmt).encode.length).toNat) =
      .ok ((pixFmtFromWire pixFmt).getD old) := by
  unfold decoderAck
  rw [stubConfigureAck_view]

def AVCodecID.videoCodec : AVCodecID -> VideoCodec
  | .h264 => .h264
  | .hevc => .hevc

theorem ofName_codecNameForId {canonical : String -> String}
    (hcanonical : KeepsAscii canonical) (codecId : AVCodecID) :
    VideoCodec.ofName canonical (codecNameForId codecId) = codecId.videoCodec := by
  have hh264 : canonical "h264" = "h264" := hcanonical.of_all (by decide +kernel)
  have hhevc : canonical "hevc" = "hevc" := hcanonical.of_all (by decide +kernel)
  unfold VideoCodec.ofName
  cases codecId with
  | h264 =>
      show (if canonical "h264" = canonical "hevc" then VideoCodec.hevc else .h264) = .h264
      rw [hh264, hhevc]
      rfl
  | hevc => exact if_pos rfl

/-- What a server makes of the CONFIGURE of a client. -/
def HandshakeSide.configuration {β : Type} (side : HandshakeSide β) (codecId : AVCodecID)
    (wireCompression : Int32) (pixFmt : UInt8) : ClientConfiguration where
  mode := if side.mode = "decode" then .decode else .encode
  width := (uint32OfInt32 side.width).toNat
  height := (uint32OfInt32 side.height).toNat
  pixelFormat := pixFmt
  wireCompression := if 0 < wireCompression then wireCompression.toInt else 0
  codec := codecId.videoCodec
  timebase := Timebase.init (uint32OfInt32 side.timeBase.num).toNat
    (uint32OfInt32 side.timeBase.den).toNat

theorem HandshakeSide.Keyed.configuration {β : Type} {canonical : String -> String}
    {side : HandshakeSide β} (h : side.Keyed canonical) (hcanonical : KeepsAscii canonical)
    (hmode : side.mode = "encode" ∨ side.mode = "decode") {wire : Int32}
    (hmem : numberOption "wire_compression" (decide (0 < wire)) wire.toInt ∈ side.all)
    (codecId : AVCodecID) (pixFmt : UInt8) :
    ClientConfiguration.init canonical (VideoCodec.ofName canonical (codecNameForId codecId))
      (side.request canonical pixFmt) = side.configuration codecId wire pixFmt := by
  unfold ClientConfiguration.init HandshakeSide.configuration
  rw [ofName_codecNameForId hcanonical codecId, h.wireCompression hmem pixFmt, h.mode hcanonical hmode pixFmt]
  rfl

/-!
## Encoders
-/

section Encoder

variable {canonical : String -> String} (hcanonical : KeepsAscii canonical)
  (alloc : Allocator) (codecId : AVCodecID) (avctx : AVEncoderContext)
  (s : VTRemoteEncOptions)

theorem encoderSide_all : (encoderSide alloc codecId avctx s).all = configureOptions avctx s :=
  rfl

include hcanonical in
theorem encoderSide_keyed : (encoderSide alloc codecId avctx s).Keyed canonical where
  nodup := configureOptions_nodup avctx s
  keys := fun _ h => configureOptions_canonical hcanonical h

theorem encoderSide_fits (halpha : (utf8Data (s.alphaQuality.getD "")).length ≤ 65535) :
    (encoderSide alloc codecId avctx s).Fits := by
  apply HandshakeSide.fits_of_short
  · exact Nat.le_refl 32
  · rw [encoderSide_all, configureOptions_keys]
    decide +kernel
  · exact configureOptions_short avctx halpha
  · rfl
  · exact Nat.zero_lt_succ _

theorem eq_ok_of_isOk {ε α : Type} {r : Except ε α} (h : r.isOk = true) :
    exists a, r = .ok a := by
  cases r with
  | error e => cases h
  | ok a => exact ⟨a, rfl⟩

theorem opening_isOk {β : Type} {canonical : String -> String} {expectedToken : String}
    {side : HandshakeSide β} {ffmpegVersion : CString} {token : Option CString}
    {codecId : AVCodecID} {netInit : Except AvError Unit} {host : Option Bytes}
    {connect : Bytes -> Except AvError Nat} :
    (opening canonical expectedToken side ffmpegVersion token codecId netInit host
        connect).isOk = true <->
      netInit.isOk = true ∧
        (exists hostport, host = some hostport ∧ (connect hostport).isOk = true) ∧
        (meeting canonical expectedToken side ffmpegVersion token codecId).isOk = true := by
  have hno : forall {α : Type} {e : AvError},
      (Except.error e : Except AvError α).isOk = true -> False := by
    intro _ _ h
    cases h
  unfold opening
  cases host with
  | none =>
      refine iff_of_false hno ?_
      intro h
      rcases h.2.1 with ⟨_, hhost, _⟩
      cases hhost
  | some hostport =>
      cases netInit with
      | error e => exact iff_of_false hno (fun h => hno h.1)
      | ok _ =>
          dsimp only [Except.bind]
          cases hconnect : connect hostport with
          | error e =>
              refine iff_of_false hno ?_
              intro h
              rcases h.2.1 with ⟨_, hhost, hok⟩
              cases hhost
              rw [hconnect] at hok
              exact hno hok
          | ok fd =>
              refine ⟨fun h => ⟨rfl, ⟨hostport, rfl, ?_⟩, h⟩, fun h => h.2.2⟩
              rw [hconnect]
              rfl

/-- What there has to be for an encoder to open. -/
structure EncoderOpens (canonical : String -> String) (expectedToken : String)
    (avctx : AVEncoderContext) (s : VTRemoteEncOptions) (hello : HelloRequest)
    (netInit : Except AvError Unit) (host : Option Bytes)
    (connect : Bytes -> Except AvError Nat) : Prop where
  network : netInit.isOk = true
  connected : exists hostport, host = some hostport ∧ (connect hostport).isOk = true
  token : authed canonical expectedToken hello = true
  pixFmt : avctx.pixFmt = .nv12 ∨ avctx.pixFmt = .p010le
  wire : s.wireCompression ≤ 2

theorem supportedWire_iff (wire : Int32) :
    SupportedWire (if 0 < wire then wire.toInt else 0) <-> wire ≤ 2 := by
  have hpos : 0 < wire <-> 0 < wire.toInt := Int32.lt_iff_toInt_lt
  have htwo : wire ≤ 2 <-> wire.toInt ≤ 2 := Int32.le_iff_toInt_le
  unfold SupportedWire
  rw [htwo]
  by_cases h : 0 < wire
  · rw [if_pos h]
    have hwire := hpos.mp h
    omega
  · rw [if_neg h]
    have hwire : ¬ 0 < wire.toInt := fun hlt => h (hpos.mpr hlt)
    omega

theorem wirePixFmt_isOk (pixFmt : AVPixelFormat) :
    (wirePixFmt pixFmt).isOk = true <-> pixFmt = .nv12 ∨ pixFmt = .p010le := by
  cases pixFmt with
  | nv12 => exact iff_of_true rfl (Or.inl rfl)
  | p010le => exact iff_of_true rfl (Or.inr rfl)
  | p010be => exact iff_of_false (fun h => by cases h) (by decide)
  | other format => exact iff_of_false (fun h => by cases h) (by simp)

/-- An encoder meets the handler if the token, the pixel format and the wire compression
are known. -/
theorem meeting_encoder (hcanonical : KeepsAscii canonical) (expectedToken : String)
    (ffmpegVersion : CString) (token : Option CString) :
    (meeting canonical expectedToken (encoderSide alloc codecId avctx s) ffmpegVersion token
        codecId).isOk = true <->
      authed canonical expectedToken (helloRequest ffmpegVersion token codecId) = true ∧
        (avctx.pixFmt = .nv12 ∨ avctx.pixFmt = .p010le) ∧ s.wireCompression ≤ 2 := by
  have hanswer : forall pixFmt, (acknowledged .configureAck
      (encoderSide alloc codecId avctx s).handleAck (configureAnswer canonical
        (encoderSide alloc codecId avctx s) pixFmt)).isOk = true <->
      s.wireCompression ≤ 2 := by
    intro pixFmt
    have hwire := (encoderSide_keyed hcanonical alloc codecId avctx s).wireCompression
      (List.mem_of_getElem? (i := 1) rfl) pixFmt
    have hack := encoderAck_stub alloc codecId pixFmt
    rw [acknowledged_configureAnswer, hwire, <- supportedWire_iff]
    by_cases hsupported : SupportedWire
        (if 0 < s.wireCompression then s.wireCompression.toInt else 0)
    · rw [if_pos hsupported]
      show (encoderAck alloc codecId _ _).isOk = true <-> _
      rw [hack]
      exact iff_of_true rfl hsupported
    · rw [if_neg hsupported]
      exact iff_of_false (fun h => by cases h) hsupported
  unfold meeting
  cases hauthed : authed canonical expectedToken
      (helloRequest ffmpegVersion token codecId) with
  | false => exact iff_of_false (fun h => by cases h) (fun h => by cases h.1)
  | true =>
      have hpixFmt : (encoderSide alloc codecId avctx s).pixFmt = avctx.pixFmt := rfl
      have hknown := wirePixFmt_isOk avctx.pixFmt
      rw [if_pos rfl, hpixFmt]
      cases hpix : wirePixFmt avctx.pixFmt with
      | error e =>
          rw [hpix] at hknown
          exact iff_of_false (fun h => by cases h) (fun h => by cases hknown.mpr h.2.1)
      | ok pixFmt =>
          rw [hpix] at hknown
          dsimp only [Except.bind]
          rw [hanswer pixFmt]
          exact ⟨fun h => ⟨rfl, hknown.mp rfl, h⟩, fun h => h.2.2⟩

/-- These messages are a HELLO and a CONFIGURE of the encoder, which the server
decodes to `hello` and `request`, and the handler behind them is the session that
was asked for. -/
structure ServesEncoder (canonical : String -> String) (expectedToken : String)
    (codecs : PlaneCodecs) (codecId : AVCodecID) (avctx : AVEncoderContext)
    (s : VTRemoteEncOptions) (asked : List ChannelMessage) (pix : UInt8)
    (hello : HelloRequest) (request : ConfigureRequest canonical) : Prop where
  messages : exists helloBytes configureBytes,
    asked = [⟨.hello, helloBytes⟩, ⟨.configure, configureBytes⟩] ∧
      HelloRequest.decode helloBytes = .ok hello ∧
      ConfigureRequest.decode canonical configureBytes = .ok request
  pixFmt : wirePixFmt avctx.pixFmt = .ok pix
  options : OptionsAgree avctx s (SessionOptions.init request.options)
  configuration : ClientConfiguration.init canonical (VideoCodec.ofName canonical hello.codec)
      request =
    { mode := .encode
      width := (uint32OfInt32 avctx.width).toNat
      height := (uint32OfInt32 avctx.height).toNat
      pixelFormat := pix
      wireCompression := if 0 < s.wireCompression then s.wireCompression.toInt else 0
      codec := if codecId = .hevc then .hevc else .h264
      timebase := Timebase.init (uint32OfInt32 avctx.timeBase.num).toNat
        (uint32OfInt32 avctx.timeBase.den).toNat }
  replies : forall later, sentMessages (runEvents canonical expectedToken codecs
      (asked ++ later)) =
    ⟨.helloAck, (helloAck true).encode⟩ ::
      ⟨.configureAck, (stubConfigureAck pix).encode⟩ ::
        ((stubService codecs).answers (some (stubSession canonical hello request)) later).1

/-- An encoder opens exactly if it reaches a server that knows the token, the pixel format
and the wire compression; then the session is what it asked for. -/
theorem encoder_opensSession (canonical : String -> String)
    (hcanonical : KeepsAscii canonical) (expectedToken : String) (codecs : PlaneCodecs)
    (alloc : Allocator) (codecId : AVCodecID) (avctx : AVEncoderContext)
    (s : VTRemoteEncOptions)
    (halpha : (utf8Data (s.alphaQuality.getD "")).length ≤ 65535)
    (ffmpegVersion : CString) (token : Option CString)
    (hhello : HelloFits ffmpegVersion token) (getaddrinfo : Resolver)
    (netInit : Except AvError Unit) (host : Option Bytes) (t : SocketTable) :
    (ffVtremoteInit (handlerHandshakeLink canonical expectedToken codecs)
        (encoderSide alloc codecId avctx s) ffmpegVersion token codecId getaddrinfo netInit
        host (InitContext.allocated HandlerSide.start t)).Ends
      (fun r opened =>
        (r.isOk = true <-> EncoderOpens canonical expectedToken avctx s
          (helloRequest ffmpegVersion token codecId) netInit host
          (connecting getaddrinfo t)) ∧
        (r.isOk = true -> exists pixFmt, exists request : ConfigureRequest canonical,
          ServesEncoder canonical expectedToken codecs codecId avctx s opened.socket.asked
            pixFmt (helloRequest ffmpegVersion token codecId) request))
      (fun _ => False) := by
  let side := encoderSide alloc codecId avctx s
  have hfits : side.Fits := encoderSide_fits alloc codecId avctx s halpha
  have hkeyed : side.Keyed canonical := encoderSide_keyed hcanonical alloc codecId avctx s
  have hmeeting := meeting_encoder alloc codecId avctx s hcanonical expectedToken
    ffmpegVersion token
  rcases @ffVtremoteInit_handler canonical expectedToken codecs _ _ codecId _ side hhello hfits
    getaddrinfo netInit host (InitContext.allocated HandlerSide.start t) rfl rfl with
    ⟨opened, hinit, hmet⟩
  rw [hinit]
  have hopens : (opening canonical expectedToken side ffmpegVersion token codecId netInit host
      (connecting getaddrinfo t)).isOk = true <-> EncoderOpens canonical expectedToken avctx s
        (helloRequest ffmpegVersion token codecId) netInit host
        (connecting getaddrinfo t) := by
    constructor
    · intro hok
      rcases opening_isOk.mp hok with ⟨hnet, hconnect, hmeet⟩
      rcases hmeeting.mp hmeet with ⟨htoken, hpix, hwire⟩
      exact ⟨hnet, hconnect, htoken, hpix, hwire⟩
    · intro h
      exact opening_isOk.mpr
        ⟨h.network, h.connected, hmeeting.mpr ⟨h.token, h.pixFmt, h.wire⟩⟩
  refine ⟨hopens, ?_⟩
  intro hok
  have hmust := hopens.mp hok
  rcases eq_ok_of_isOk hok with ⟨result, hresult⟩
  rcases eq_ok_of_isOk ((wirePixFmt_isOk avctx.pixFmt).mpr hmust.pixFmt) with
    ⟨pix, hpix⟩
  have hsocket := hmet result pix hresult hpix
  have hholds := hkeyed.holds pix
  have hwire := hkeyed.wireCompression (List.mem_of_getElem? (i := 1) rfl) pix
  refine ⟨pix, side.request canonical pix, ?_⟩
  have hhelloDecode := @helloBytes_decode _ _ codecId hhello
  constructor
  case messages =>
    refine ⟨_, _, ?_, hhelloDecode, hfits.decode canonical pix⟩
    rw [hsocket]
    rfl
  case pixFmt => exact hpix
  case options => exact optionsAgree hcanonical hholds
  case configuration =>
    have hconfiguration := hkeyed.configuration hcanonical (Or.inl rfl)
      (List.mem_of_getElem? (i := 1) rfl) codecId pix
    refine hconfiguration.trans ?_
    cases codecId with
    | h264 => rfl
    | hevc => rfl
  case replies =>
    intro later
    rw [hsocket]
    have hsupported : SupportedWire (wireCompressionOption canonical
        (side.request canonical pix).options) := by
      rw [hwire]
      exact (supportedWire_iff s.wireCompression).mpr hmust.wire
    exact (runEvents_supported hhelloDecode hmust.token
      (hfits.decode canonical pix) hsupported later).sent

end Encoder

def oneAddress : Resolver := fun _ _ => some [.connected]

def oneHost : Bytes := [104, 58, 49]

def noSockets : SocketTable where
  ledger := Ledger.empty
  errno := none

def shortVersion : CString := ⟨"v", by decide +kernel⟩

def shortToken : CString := ⟨"t", by decide +kernel⟩

def smallEncoder : AVEncoderContext where
  width := 64
  height := 48
  pixFmt := .nv12
  timeBase := ⟨1, 25⟩
  framerate := ⟨25, 1⟩
  bitRate := 0
  rcMaxRate := 0
  gopSize := 12
  maxBFrames := 0
  flags := 0
  globalQuality := 0
  qmin := -1
  qmax := -1
  profile := -99
  colorRange := 0
  colorspace := 2
  colorPrimaries := 2
  colorTrc := 2
  sampleAspectRatio := ⟨0, 1⟩

def smallOptions : VTRemoteEncOptions where
  wireCompression := 1
  profile := -99
  level := 0
  entropy := -1
  allowSw := 1
  requireSw := 0
  realtime := -1
  framesBefore := 0
  framesAfter := 0
  prioSpeed := -1
  powerEfficient := -1
  spatialaq := -1
  maxRefFrames := 0
  maxSliceBytes := -1
  constantBitRate := 0
  alphaQuality := none
  a53Cc := 1

/-- The small encoder opens where the tokens agree, and the session has its options. -/
theorem encoder_opensSession_small :
    (ffVtremoteInit (handlerHandshakeLink id "t" boundedCodecs)
        (encoderSide (fun _ => true) .h264 smallEncoder smallOptions) shortVersion
        (some shortToken) .h264 oneAddress (.ok ()) (some oneHost)
        (InitContext.allocated HandlerSide.start noSockets)).Ends
      (fun r opened => r.isOk = true ∧ exists request : ConfigureRequest id,
        ServesEncoder id "t" boundedCodecs .h264 smallEncoder smallOptions
          opened.socket.asked 1 (helloRequest shortVersion (some shortToken) .h264)
          request ∧
        ClientConfiguration.init id .h264 request =
          { mode := .encode, width := 64, height := 48, pixelFormat := 1,
            wireCompression := 1, codec := .h264, timebase := Timebase.init 1 25 })
      (fun _ => False) := by
  have halpha : (utf8Data (smallOptions.alphaQuality.getD "")).length ≤ 65535 := by
    decide +kernel
  have hhello : HelloFits shortVersion (some shortToken) :=
    ⟨by decide +kernel, by decide +kernel⟩
  have hends := encoder_opensSession id (fun _ _ => rfl) "t" boundedCodecs (fun _ => true)
    .h264 smallEncoder smallOptions halpha shortVersion (some shortToken) hhello oneAddress
    (.ok ()) (some oneHost) noSockets
  apply hends.mono
  · intro r opened h
    have hok : r.isOk = true := h.1.mpr
      { network := rfl
        connected := ⟨oneHost, rfl, rfl⟩
        token := by decide +kernel
        pixFmt := Or.inl rfl
        wire := by decide }
    rcases h.2 hok with ⟨pix, request, hserves⟩
    cases hserves.pixFmt
    have hcodec : VideoCodec.ofName id
        (helloRequest shortVersion (some shortToken) .h264).codec = .h264 :=
      ofName_codecNameForId (fun _ _ => rfl) .h264
    have hconfiguration := hserves.configuration
    rw [hcodec] at hconfiguration
    exact ⟨hok, request, hserves, hconfiguration⟩
  · exact fun _ h => h

/-!
## Decoders
-/

section Decoder

variable {canonical : String -> String} (hcanonical : KeepsAscii canonical)
  (avctx : AVDecoderContext) (wireCompression : Int32)

theorem decoderSide_keys :
    (decoderSide avctx wireCompression).all.map ConfigureOption.key =
      ["mode", "wire_compression", "color_range", "colorspace", "color_primaries",
        "color_trc"] :=
  rfl

include hcanonical in
theorem decoderSide_keyed : (decoderSide avctx wireCompression).Keyed canonical where
  nodup := by
    rw [decoderSide_keys]
    decide +kernel
  keys := by
    intro option h
    have hkey := List.mem_map_of_mem (f := ConfigureOption.key) h
    rw [decoderSide_keys] at hkey
    apply hcanonical.of_all
    revert hkey
    generalize option.key = key
    revert key
    decide +kernel

theorem decoderSide_fits (hextradata : avctx.extradata.length < 268435456) :
    (decoderSide avctx wireCompression).Fits := by
  have hmode : (ConfigureOption.mk "mode" true "decode").Short := by
    show (utf8Data "decode").length ≤ 65535
    decide +kernel
  apply HandshakeSide.fits_of_short
  · exact Nat.le_of_ble_eq_true rfl
  · rw [decoderSide_keys]
    decide +kernel
  · show forall option, option ∈ ConfigureOption.mk "mode" true "decode" ::
      decoderOptions avctx wireCompression -> option.Short
    unfold decoderOptions
    simp only [List.forall_mem_cons]
    exact ⟨hmode, numberOption_short32 _ _ _, numberOption_short32 _ _ _,
      numberOption_short32 _ _ _, numberOption_short32 _ _ _, numberOption_short32 _ _ _,
      List.forall_mem_nil _⟩
  · show (UInt32.ofInt (Int32.ofNat avctx.extradata.length).toInt).toNat =
      avctx.extradata.length
    have hmod : ((avctx.extradata.length : Int) % 2 ^ 32).toNat = avctx.extradata.length := by
      omega
    rw [Int32.toInt_ofNat_of_lt (by omega)]
    unfold UInt32.ofInt
    rw [hmod]
    exact UInt32.toNat_ofNat_of_lt' (hextradata.trans (by decide))
  · exact hextradata

def decodingConfiguration (pixFmt : UInt8) : SessionConfiguration where
  mode := .decode
  width := (uint32OfInt32 avctx.width).toNat
  height := (uint32OfInt32 avctx.height).toNat
  pixelFormat := pixFmt
  wireCompression := wireCompression.toInt

/-- Calls of a decoder that is open use its connection. -/
def onOpened {σ α : Type} (wireCompression : Int) (m : DecCall σ α) : Call AvError σ α :=
  fun socket => (m (.afterInit socket wireCompression)).image VTRemoteDecContext.fd

/-- The context in which a decoder that is open decodes; it has got no packet yet. -/
def AVDecoderContext.opened (avctx : AVDecoderContext)
    (hsize : 0 < avctx.width.toInt ∧ 0 < avctx.height.toInt) (getBuffer : FrameBuffer)
    (propsSideData : AVPacket -> List AVFrameSideData) (pixFmt : AVPixelFormat) :
    AVCodecContext where
  pixFmt := pixFmt
  width := avctx.width.toInt
  height := avctx.height.toInt
  size_pos := hsize
  getBuffer := getBuffer
  lastPktProps := unreferencedPacket
  propsSideData := propsSideData

theorem ffVtremoteClose_returned {σ : Type} (s : InitContext σ) :
    exists s', ffVtremoteClose s = .returned (.ok ()) s' := by
  unfold ffVtremoteClose
  rw [Call.get_bind]
  by_cases h : 0 ≤ s.fd
  · exact ⟨_, by rw [Call.when, if_pos h]; rfl⟩
  · exact ⟨_, by rw [Call.when, if_neg h]; rfl⟩

theorem pixFmtFromWire_wirePixFmt {pixFmt old : AVPixelFormat} {pix : UInt8}
    (h : wirePixFmt pixFmt = .ok pix) : (pixFmtFromWire pix).getD old = pixFmt := by
  cases pixFmt with
  | nv12 =>
      cases h
      rfl
  | p010le =>
      cases h
      rfl
  | p010be => cases h
  | other format => cases h

include hcanonical in
theorem opening_decoder {expectedToken : String} {ffmpegVersion : CString}
    {token : Option CString} {codecId : AVCodecID} {connect : Bytes -> Except AvError Nat}
    {host : Bytes}
    (hauthed : authed canonical expectedToken (helloRequest ffmpegVersion token codecId) = true)
    (hconnect : (connect host).isOk = true) {pix : UInt8}
    (hpix : wirePixFmt avctx.pixFmt = .ok pix) (hwire : wireCompression ≤ 2) :
    opening canonical expectedToken (decoderSide avctx wireCompression) ffmpegVersion token
      codecId (.ok ()) (some host) connect = .ok avctx.pixFmt := by
  have hsupported := (supportedWire_iff wireCompression).mpr hwire
  have hoption := (decoderSide_keyed hcanonical avctx wireCompression).wireCompression
    (List.mem_of_getElem? (i := 1) rfl) pix
  have hside : wirePixFmt (decoderSide avctx wireCompression).pixFmt = .ok pix := hpix
  have hack : (decoderSide avctx wireCompression).handleAck (stubConfigureAck pix).encode
      (cInt (UInt32.ofNat (stubConfigureAck pix).encode.length).toNat) =
        .ok avctx.pixFmt := by
    show decoderAck avctx.pixFmt _ _ = _
    rw [decoderAck_stub, pixFmtFromWire_wirePixFmt hpix]
  rcases eq_ok_of_isOk hconnect with ⟨fd, hfd⟩
  unfold opening meeting
  dsimp only [Except.bind]
  rw [hfd]
  dsimp only
  rw [if_pos hauthed, hside]
  dsimp only
  rw [acknowledged_configureAnswer, hoption, if_pos hsupported, hack]

/-- The whole life of a decoder: it opens at the handler, gets a black picture for each
packet and the end of the stream, and closes. -/
theorem codecLife_decodes (hcanonical : KeepsAscii canonical) (expectedToken : String)
    (codecs : PlaneCodecs) (libs : DecompressionLibraries) (codecId : AVCodecID)
    (avctx : AVDecoderContext) (hextradata : avctx.extradata.length < 268435456)
    (pix : UInt8) (hpix : wirePixFmt avctx.pixFmt = .ok pix) (wireCompression : Int32)
    (hmin : 0 ≤ wireCompression) (hmax : wireCompression ≤ 2) (ffmpegVersion : CString)
    (token : Option CString) (hhello : HelloFits ffmpegVersion token)
    (hauthed : authed canonical expectedToken (helloRequest ffmpegVersion token codecId) = true)
    (getaddrinfo : Resolver) (host : Bytes) (t : SocketTable)
    (hconnect : (connecting getaddrinfo t host).isOk = true) (luma chroma : Bytes)
    (hblack : ShowsBlack codecs libs (decodingConfiguration avctx wireCompression pix)
      luma chroma)
    (hsize : 0 < avctx.width.toInt ∧ 0 < avctx.height.toInt) (getBuffer : FrameBuffer)
    (lineSize : Fin 2 -> Nat)
    (hholds : HoldsBlack (decodingConfiguration avctx wireCompression pix) getBuffer
      lineSize)
    (propsSideData : AVPacket -> List AVFrameSideData) (frame : AVFrame)
    (pkts : List (Option AVPacket))
    (hpkts : forall pkt, pkt ∈ pkts -> CanSend (packetToSend pkt)) :
    exists results s', codecLife (handlerHandshakeLink canonical expectedToken codecs)
        (decoderSide avctx wireCompression) ffmpegVersion token codecId getaddrinfo (.ok ())
        (.ok ()) (some host)
        (fun pixFmt => onOpened wireCompression.toInt
          (decodeRun (handlerLink canonical expectedToken codecs) libs
            (avctx.opened hsize getBuffer propsSideData pixFmt) frame pkts))
        (InitContext.allocated HandlerSide.start t) = .returned (.ok (.ok results)) s' ∧
      ReturnsBlack (avctx.opened hsize getBuffer propsSideData avctx.pixFmt)
        (decodingConfiguration avctx wireCompression pix) lineSize pkts results := by
  let context := avctx.opened hsize getBuffer propsSideData avctx.pixFmt
  let side := decoderSide avctx wireCompression
  have hfits : side.Fits := decoderSide_fits avctx wireCompression hextradata
  have hkeyed : side.Keyed canonical := decoderSide_keyed hcanonical avctx wireCompression
  have hwire := hkeyed.wireCompression (List.mem_of_getElem? (i := 1) rfl) pix
  have hopening := opening_decoder hcanonical avctx wireCompression hauthed hconnect hpix hmax
  rcases @ffVtremoteInit_handler canonical expectedToken codecs _ _ codecId _ side hhello hfits
    getaddrinfo (.ok ()) (some host) (InitContext.allocated HandlerSide.start t) rfl rfl with
    ⟨opened, hinit, hmet⟩
  have hopened : ffVtremoteInit (handlerHandshakeLink canonical expectedToken codecs) side
      ffmpegVersion token codecId getaddrinfo (.ok ()) (some host)
      (InitContext.allocated HandlerSide.start t) = .returned (.ok avctx.pixFmt) opened :=
    hinit.trans (congrArg (Outcome.returned · opened) hopening)
  have hsocket := hmet avctx.pixFmt pix hopening hpix
  let hello := helloRequest ffmpegVersion token codecId
  let request := side.request canonical pix
  have haccepts : OpenedSide.Accepts canonical expectedToken
      (helloBytes ffmpegVersion token codecId) (side.configureBytes pix) hello request :=
    { hello := helloBytes_decode hhello
      authed := hauthed
      configure := hfits.decode canonical pix
      wire := by
        rw [hwire]
        exact (supportedWire_iff wireCompression).mpr hmax }
  have hconfig : (stubSession canonical hello request).config =
      some (decodingConfiguration avctx wireCompression pix) := by
    have hconfiguration := hkeyed.configuration hcanonical (Or.inr rfl)
      (List.mem_of_getElem? (i := 1) rfl) codecId pix
    have hnumber : (if 0 < wireCompression then wireCompression.toInt else 0) =
        wireCompression.toInt := by
      have hpos : 0 < wireCompression <-> 0 < wireCompression.toInt := Int32.lt_iff_toInt_lt
      have hnonneg : 0 ≤ wireCompression.toInt := Int32.le_iff_toInt_le.mp hmin
      split
      · rfl
      · rename_i hle
        have hle' : ¬ 0 < wireCompression.toInt := fun hlt => hle (hpos.mpr hlt)
        omega
    show some (ClientConfiguration.init canonical (VideoCodec.ofName canonical
      (codecNameForId codecId)) (side.request canonical pix)).toSessionConfiguration = _
    rw [hconfiguration]
    unfold HandshakeSide.configuration
    dsimp only
    rw [hnumber]
    rfl
  have hlock : InLockstep (decodingConfiguration avctx wireCompression pix)
      (.afterInit ⟨[], some (stubSession canonical hello request)⟩ wireCompression.toInt) :=
    { replies := rfl
      session := ⟨_, rfl, hconfig⟩
      options := rfl
      flushing := rfl
      streaming := rfl
      buffer := ⟨VTRemoteWBuf.sound_reset (vtremoteWbufInit []), rfl⟩ }
  rcases @decodeRun_local _ _ _ _ _ frame hblack lineSize context hholds pkts _ hlock
    hpkts with ⟨results, s1, hlocal, hreturns⟩
  rcases OpenedSide.decodeRun_handler haccepts libs context frame pkts
    wireCompression.toInt hlocal with ⟨s2, hrun⟩
  have hcalls : onSocket (onOpened wireCompression.toInt (decodeRun
      (handlerLink canonical expectedToken codecs) libs context frame pkts)) opened =
        .returned (.ok results) { opened with socket := s2.fd } := by
    apply Call.zoom_of_returned
    rw [hsocket]
    unfold onOpened metSide
    rw [hrun]
    rfl
  rcases ffVtremoteClose_returned { opened with socket := s2.fd } with ⟨s', hclose⟩
  refine ⟨results, s', ?_, hreturns⟩
  unfold codecLife codecInit
  rw [Call.bind_of_ok _ (Call.attempt_of_returned hopened)]
  dsimp only
  rw [Call.bind_of_ok _ (Call.attempt_of_returned hcalls), Call.bind_of_ok _ hclose]
  rfl

end Decoder

def tinyDecoder : AVDecoderContext where
  width := 2
  height := 2
  pixFmt := .nv12
  timeBase := ⟨1, 25⟩
  framerate := ⟨25, 1⟩
  colorRange := 0
  colorspace := 2
  colorPrimaries := 2
  colorTrc := 2
  extradata := []
  extradata_length := by decide

theorem tinyDecoder_size :
    0 < tinyDecoder.width.toInt ∧ 0 < tinyDecoder.height.toInt := by
  decide

theorem codecLife_decodes_tiny :
    exists results s', codecLife (handlerHandshakeLink id "" boundedCodecs)
        (decoderSide tinyDecoder 0) shortVersion none .hevc oneAddress
        (.ok ()) (.ok ()) (some oneHost)
        (fun pixFmt => onOpened 0 (decodeRun (handlerLink id "" boundedCodecs) noDecompression
          (tinyDecoder.opened tinyDecoder_size tinyBuffer (fun _ => []) pixFmt)
          unreferencedFrame (decodeInputs onePacket 2)))
        (InitContext.allocated HandlerSide.start noSockets) =
          .returned (.ok (.ok results)) s' ∧
      ReturnsBlack (tinyDecoder.opened tinyDecoder_size tinyBuffer (fun _ => []) .nv12)
        (decodingConfiguration tinyDecoder 0 1) (fun _ => 2) (decodeInputs onePacket 2)
        results := by
  apply codecLife_decodes (fun _ _ => rfl) "" boundedCodecs noDecompression .hevc tinyDecoder
    (by decide) 1 rfl 0 (by decide) (by decide) shortVersion none
    ⟨by decide +kernel, by decide +kernel⟩ rfl oneAddress oneHost noSockets rfl
    (List.replicate 4 0) (List.replicate 2 0) _ tinyDecoder_size tinyBuffer (fun _ => 2)
  · exact
      { linesize := fun _ => rfl
        line := fun _ => by decide
        lines := Fin.forall_fin_two.mpr (by decide)
        offsets := Fin.forall_fin_two.mpr (by decide) }
  · simp [decodeInputs, onePacket, CanSend, packetToSend, maxAllocSize]
  · exact
      { mode := rfl
        lumaPlane := rfl
        chromaPlane := rfl
        stride := by decide
        height := by decide
        size := by decide
        message := by decide
        restored := fun h => absurd h (by decide) }

end VTRemote
