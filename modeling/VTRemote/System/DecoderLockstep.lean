import VTRemote.Client.DecoderOutput
import VTRemote.Client.GrantedDecoder
import VTRemote.Formats.StubExchange
import VTRemote.Server.ConfigurationTraps
import VTRemote.System.LocalSession

/-!
# The decoder in lockstep with the stub

A stub session in decode mode answers each PACKET with a black FRAME.  A call of
the decoder with a packet therefore returns the frame of that packet, whenever
the server runs, and a call that drains returns the end of the stream.
-/

namespace VTRemote

attribute [local irreducible] cInt

open Grammar Format StubCodecSession

/-!
## The black frame
-/

section Black

variable (codecs : PlaneCodecs) (libs : DecompressionLibraries)
  (configuration : SessionConfiguration)

/-- The black planes of a session in decode mode, `luma` and `chroma` on the
wire, have sizes that both programs can compute, and the client restores what
the stub has compressed, to at least one sample each. -/
structure ShowsBlack (luma chroma : Bytes) : Prop where
  mode : configuration.mode = .decode
  lumaPlane : maybeCompress codecs configuration.wireCompression
    (List.replicate (lumaSize configuration) 0) = .ok luma
  chromaPlane : maybeCompress codecs configuration.wireCompression
    (List.replicate (chromaSize configuration) 0) = .ok chroma
  stride : stubStride configuration ≤ 2147483647
  height : configuration.height ≤ 2147483647
  size : lumaSize configuration ≤ 2147483647
  message : luma.length + chroma.length + 45 ≤ 2147483647
  restored : configuration.wireCompression = 1 ∨ configuration.wireCompression = 2 ->
    0 < chromaSize configuration ∧
      libs.restore configuration.wireCompression luma (lumaSize configuration) =
        some (List.replicate (lumaSize configuration) 0) ∧
      libs.restore configuration.wireCompression chroma (chromaSize configuration) =
        some (List.replicate (chromaSize configuration) 0)

def blackPlane (height : Nat) : VTRemotePlaneView where
  stride := UInt32.ofNat (stubStride configuration)
  height := UInt32.ofNat height
  dataLen := UInt32.ofNat (stubStride configuration * height)
  data := List.replicate (stubStride configuration * height) 0

def blackRows (i : Fin 2) : Nat :=
  if i = 0 then configuration.height else configuration.height / 2

/-- The planes have lines for the black rows, which 32-bit offsets reach. -/
structure HoldsBlack (buffer : FrameBuffer) (lineSize : Fin 2 -> Nat) : Prop where
  linesize : forall i, buffer.linesize i = lineSize i
  line : forall i, lineSize i ≤ 2147483647
  lines : forall i, lineSize i * blackRows configuration i ≤ (buffer.data i).length
  offsets : forall i, lineSize i * blackRows configuration i ≤ 2147483647

def blackView (pts duration : Int64) : VTRemoteFrameView where
  pts := pts
  duration := duration
  flags := 0
  planeCount := 2
  planes := [blackPlane configuration configuration.height,
    blackPlane configuration (configuration.height / 2)]
  sideDataCount := 0
  sideData := []

def blackFrame (luma chroma : Bytes) (pts duration : UInt64) : Frame :=
  serverFrame pts duration
    ⟨UInt32.ofNat (stubStride configuration), UInt32.ofNat configuration.height,
      luma⟩
    ⟨UInt32.ofNat (stubStride configuration),
      UInt32.ofNat (configuration.height / 2), chroma⟩

variable {codecs} {libs} {configuration} {luma chroma : Bytes}

theorem blackFrame_length (pts duration : UInt64) :
    (blackFrame configuration luma chroma pts duration).encode.length =
      luma.length + chroma.length + 45 := by
  unfold blackFrame serverFrame Frame.encode
  simp [Plane.encode_length, Frame.encodeSideData, u64, u32, u8]
  omega

namespace ShowsBlack

variable (h : ShowsBlack codecs libs configuration luma chroma)
include h

theorem sendable : configuration.Sendable codecs luma chroma where
  stride := Nat.le_trans h.stride (by decide)
  height := Nat.le_trans h.height (by decide)
  size := Nat.le_trans h.size (by decide)
  luma := h.lumaPlane
  chroma := h.chromaPlane
  lengths := by
    have hmessage := h.message
    unfold swiftUInt32Max
    omega

theorem frameBody_eq {pts duration : UInt64} {body : Bytes}
    (hbody : StubCodecSession.frameBody codecs configuration pts duration = .ok body) :
    body = (blackFrame configuration luma chroma pts duration).encode := by
  rcases frameBody_encode hbody with ⟨y, uv, hy, huv, _, _, rfl⟩
  have hyluma : y = luma := Except.ok.inj (hy.symm.trans h.lumaPlane)
  have huvchroma : uv = chroma := Except.ok.inj (huv.symm.trans h.chromaPlane)
  rw [hyluma, huvchroma]
  rfl

theorem decompresses (pts duration : UInt64) :
    Decompresses libs configuration.wireCompression
      (blackFrame configuration luma chroma pts duration).toView
      (blackView configuration pts.toInt64 duration.toInt64) := by
  by_cases hcompressed : configuration.wireCompression = 1 ∨
    configuration.wireCompression = 2
  · rcases h.restored hcompressed with ⟨hpos, hluma, hchroma⟩
    have hhalf : configuration.height / 2 ≤ 2147483647 :=
      Nat.le_trans (Nat.div_le_self _ 2) h.height
    have hsize : chromaSize configuration ≤ 2147483647 :=
      Nat.le_trans (chromaSize_le configuration) h.size
    have h0 : VTRemotePlaneView.expected ((blackFrame configuration luma chroma pts
        duration).toView.plane 0) = (lumaSize configuration : Int) :=
      expected_eq_size rfl rfl h.stride h.height h.size
    have h1 : VTRemotePlaneView.expected ((blackFrame configuration luma chroma pts
        duration).toView.plane 1) = (chromaSize configuration : Int) :=
      expected_eq_size rfl rfl h.stride hhalf hsize
    have hplane0 := restored_plane h0 List.length_replicate hluma
    have hplane1 := restored_plane h1 List.length_replicate hchroma
    rw [dataLen_black h.size] at hplane0
    rw [dataLen_black hsize] at hplane1
    refine Decompresses.planes _ _ hcompressed ?_ hplane0 hplane1
    intro i
    match i with
    | 0 =>
        rw [h0]
        exact Int.natCast_pos.mpr (Nat.lt_of_lt_of_le hpos (chromaSize_le configuration))
    | 1 =>
        rw [h1]
        exact Int.natCast_pos.mpr hpos
  · have hplain : forall {data out : Bytes}, maybeCompress codecs
        configuration.wireCompression data = .ok out -> out = data := by
      intro data out hout
      rw [maybeCompress_plain codecs (fun hone => hcompressed (Or.inl hone))
        (fun htwo => hcompressed (Or.inr htwo))] at hout
      exact (Except.ok.inj hout).symm
    have hview : (blackFrame configuration luma chroma pts duration).toView =
        blackView configuration pts.toInt64 duration.toInt64 := by
      rw [hplain h.lumaPlane, hplain h.chromaPlane]
      unfold blackFrame
      rw [serverFrame_toView]
      simp [blackView, blackPlane, Plane.toView, lumaSize, chromaSize]
    rw [hview]
    exact Decompresses.plain hcompressed

end ShowsBlack
/-!
## One packet
-/

open ByteReader in
theorem readStubPacket_follows :
    SwiftFollows readStubPacket
      ((fun p => (p.pts, p.duration)) <$> Grammar.Packet.decode) := by
  unfold readStubPacket Grammar.Packet.decode
  simp only [map_bind, map_pure, blobDecoder_count32, bind_assoc]
  apply Follows.bind readBEUInt64_follows
  intro pts
  apply Follows.bind readBEUInt64_follows
  intro dts
  apply Follows.bind readBEUInt64_follows
  intro duration
  apply Follows.bind readBEUInt32_follows
  intro flags
  apply Follows.bind readBEUInt32_follows
  intro count
  rw [readBytes_natCast]
  apply Follows.bind (consume_follows count.toNat)
  intro data
  exact Follows.pure _

theorem answers_packet (h : ShowsBlack codecs libs configuration luma chroma)
    {session : StubCodecSession} (hconfig : session.config = some configuration)
    {p : Grammar.Packet} (hlen : p.data.length < 2 ^ 32) :
    (stubService codecs).answers (some session) [⟨.packet, p.encode⟩] =
      ([⟨.frame, (blackFrame configuration luma chroma p.pts p.duration).encode⟩],
        some session) := by
  have hdecode := Grammar.Packet.decode_encode hlen []
  rw [List.append_nil] at hdecode
  rcases SwiftFollows.read_init readStubPacket_follows hdecode with ⟨r, hread, _⟩
  rcases handlePacketMessage_of_sendable hconfig h.mode h.sendable hread with
    ⟨body, hbody, hanswer⟩
  rw [h.frameBody_eq hbody] at hanswer
  have hlength : (blackFrame configuration luma chroma p.pts
      p.duration).encode.length ≤ swiftUInt32Max := by
    rw [blackFrame_length]
    exact Nat.le_trans h.message (by decide)
  have hhandle : handleMessage codecs session ⟨.packet, p.encode⟩ = .ok (session,
      [⟨.frame, (blackFrame configuration luma chroma p.pts
        p.duration).encode⟩]) := by
    unfold handleMessage
    dsimp only
    rw [hanswer, swift_ok_bind]
    unfold sendReply sendMessage
    dsimp only
    rw [swiftUInt32_of_le hlength]
    rfl
  have hserve : (stubService codecs).serve session ⟨.packet, p.encode⟩ =
      ([⟨.frame, (blackFrame configuration luma chroma p.pts p.duration).encode⟩],
        some session) := by
    unfold stubService
    dsimp only
    rw [hhandle]
    rfl
  rw [Service.answers_singleton, hserve]

/-!
## One call
-/

def sentPacket (pkt : AVPacket) : Grammar.Packet :=
  let pts := if pkt.pts = avNoptsValue then 0 else pkt.pts
  { pts := pts.toUInt64
    dts := (if pkt.dts = avNoptsValue then pts else pkt.dts).toUInt64
    duration := (if 0 < pkt.duration then pkt.duration else 0).toUInt64
    flags := if pkt.flags &&& avPktFlagKey ≠ 0 then 1 else 0
    data := pkt.data }

theorem putPacket_sent {pkt : AVPacket} {b : VTRemoteWBuf} (hb : b.Granted)
    (hlen : pkt.data.length + 32 ≤ maxAllocSize) :
    (putPacket pkt b).1 = 0 ∧ (putPacket pkt b).2.Granted ∧
      (putPacket pkt b).2.contents = (sentPacket pkt).encode := by
  have hsucceeds := vtremotePayloadPacket_succeeds
    (if pkt.pts = avNoptsValue then 0 else pkt.pts)
    (if pkt.dts = avNoptsValue then
      (if pkt.pts = avNoptsValue then 0 else pkt.pts) else pkt.dts)
    (if 0 < pkt.duration then pkt.duration else 0)
    (if pkt.flags &&& avPktFlagKey ≠ 0 then 1 else 0) hb hlen
  have hcount : (UInt32.ofNat pkt.data.length).toNat =
      (Option.getD (some pkt.data) []).length := by
    apply UInt32.toNat_ofNat_of_lt'
    unfold maxAllocSize at hlen
    show pkt.data.length < 4294967296
    omega
  have hcontents := vtremotePayloadPacket_encode hcount hsucceeds.1
  exact ⟨hsucceeds.1, hsucceeds.2, hcontents⟩

/-- The decoder has read every answer of a session in decode mode. -/
structure InLockstep (configuration : SessionConfiguration)
    (s : VTRemoteDecContext LocalSession) : Prop where
  replies : s.fd.replies = []
  session : exists session, s.fd.session = some session ∧
    session.config = some configuration
  options : s.wireCompression = configuration.wireCompression
  flushing : s.flushing = false
  streaming : s.done = false
  buffer : s.pktBuf.Granted

variable (avctx : AVCodecContext) (frame : AVFrame)

/-- The frame that the client makes of a black FRAME, whatever its times. -/
def packetFrame (configuration : SessionConfiguration) : AVFrame :=
  grantedFrame avctx frame (blackView configuration 0 0)

variable {avctx} {frame}

theorem decodeRound_black (h : ShowsBlack codecs libs configuration luma chroma)
    {s : VTRemoteDecContext LocalSession}
    (hoptions : s.wireCompression = configuration.wireCompression)
    {pkt : AVPacket} (hreplies : s.fd.replies =
      [⟨.frame, (blackFrame configuration luma chroma (sentPacket pkt).pts
        (sentPacket pkt).duration).encode⟩]) :
    exists s', decodeRound (localLink codecs) libs avctx frame s = .returned
        (.ok (some (some (packetFrame avctx frame configuration)))) s' ∧
      DecReadies { s with fd := { s.fd with replies := [] } } s' := by
  let p := sentPacket pkt
  let encoded := (blackFrame configuration luma chroma p.pts p.duration).encode
  have hsmall := h.message
  have hlength : encoded.length = luma.length + chroma.length + 45 :=
    blackFrame_length p.pts p.duration
  have hmax : (encoded.length : Int) ≤ intMax := by
    rw [hlength]
    unfold intMax
    omega
  have hcount : cInt (UInt32.ofNat encoded.length).toNat = encoded.length :=
    cInt_uint32_ofNat (by unfold intMax at hmax; omega)
  have hparse : vtremoteParseFrame encoded encoded.length =
      .ok (blackFrame configuration luma chroma p.pts p.duration).toView := by
    have hluma : luma.length < 2 ^ 32 := by omega
    have hchroma : chroma.length < 2 ^ 32 := by omega
    exact vtremoteParseFrame_serverFrame hluma hchroma rfl hmax
  have hread : onDecLink (localLink codecs).readMsg s = .returned
      (.ok ((ChannelMessage.mk .frame encoded).header, encoded))
      { s with fd := { s.fd with replies := [] } } := by
    apply Call.zoom_of_returned
    show LocalSession.takeReply _ s.fd = _
    unfold LocalSession.takeReply
    rw [hreplies]
  have hshown := h.decompresses p.pts p.duration
  rw [<- hoptions] at hshown
  have hplanar : ¬ (blackFrame configuration luma chroma p.pts
      p.duration).toView.planeCount < 2 := by
    show ¬ (2 : UInt8) < 2
    decide
  have hgranted : forall fd, (localLink codecs).malloc fd = .returned (.ok ()) fd :=
    fun _ => rfl
  rcases decodeFrame_granted (s := { s with fd := { s.fd with replies := [] } })
    hgranted avctx frame hparse hplanar hshown with ⟨s', hdecode, hready⟩
  refine ⟨s', ?_, hready⟩
  unfold decodeRound
  have htype : VTRemoteMsgType.ofCode (ChannelMessage.mk .frame encoded).header.type =
      some .frame := VTRemoteMsgType.ofCode_code .frame
  rw [Call.bind_of_ok _ (Call.attempt_of_returned hread)]
  dsimp only
  unfold decodeMessage
  rw [htype]
  dsimp only
  rw [show (ChannelMessage.mk .frame encoded).header.length =
    UInt32.ofNat encoded.length from rfl, hcount, Call.bind_of_ok _ hdecode]
  rfl

theorem loop_of_some {σ α : Type} {body : Call AvError σ (Option α)} {s s' : σ}
    {a : α} (h : body s = .returned (.ok (some a)) s') (fuel : Nat) :
    Call.loop body (fuel + 1) s = .returned (.ok a) s' := by
  unfold Call.loop
  rw [Call.bind_of_ok _ h]
  rfl

theorem decodeBody_packet (h : ShowsBlack codecs libs configuration luma chroma)
    {s : VTRemoteDecContext LocalSession} (hs : InLockstep configuration s)
    {pkt : Option AVPacket} {sent : AVPacket} (hpkt : packetToSend pkt = some sent)
    (hlen : sent.data.length + 32 ≤ maxAllocSize) :
    exists s', decodeBody (localLink codecs) libs avctx frame pkt s = .returned
        (.ok (some (packetFrame avctx frame configuration))) s' ∧
      InLockstep configuration s' := by
  rcases hs with ⟨hreplies, ⟨session, hsession, hconfig⟩, hoptions, hflushing,
    hstreaming, hbuffer⟩
  have hreset : (vtremoteWbufReset s.pktBuf).Granted :=
    ⟨VTRemoteWBuf.sound_reset s.pktBuf, hbuffer.grants⟩
  rcases putPacket_sent hreset hlen with ⟨hret, hgranted, hcontents⟩
  have hnonneg : ¬ (putPacket sent (vtremoteWbufReset s.pktBuf)).1 < 0 := by
    rw [hret]
    exact Int.lt_irrefl 0
  have hlt : (sentPacket sent).data.length < 2 ^ 32 := by
    unfold maxAllocSize at hlen
    show sent.data.length < 2 ^ 32
    omega
  have hanswers := answers_packet h hconfig hlt
  rw [<- hcontents] at hanswers
  have hsend : decodeSend (localLink codecs) (packetToSend pkt) s =
      .returned (.ok ()) { s with
        pktBuf := (putPacket sent (vtremoteWbufReset s.pktBuf)).2
        fd := ⟨[⟨.frame, (blackFrame configuration luma chroma (sentPacket sent).pts
          (sentPacket sent).duration).encode⟩], some session⟩ } := by
    rw [hpkt, decodeSend, Call.get_bind, Call.modify_bind, dif_neg hnonneg]
    generalize putPacket sent (vtremoteWbufReset s.pktBuf) = put at hanswers ⊢
    exact Call.zoom_of_returned
      (LocalSession.sendMsg_of_answers hreplies hsession hanswers)
  generalize putPacket sent (vtremoteWbufReset s.pktBuf) = put at hsend hgranted
  rcases decodeRound_black (s := { s with
      pktBuf := put.2
      fd := ⟨[⟨.frame, (blackFrame configuration luma chroma (sentPacket sent).pts
        (sentPacket sent).duration).encode⟩], some session⟩ })
    h hoptions rfl with ⟨s', hround, hready⟩
  unfold decodeBody
  rw [Call.get_bind, if_neg (by rw [hstreaming]; exact Bool.false_ne_true),
    Call.bind_of_ok _ hsend, Call.get_bind]
  refine ⟨s', loop_of_some hround _, ?_⟩
  rcases hready with ⟨compBufCap, zstdDctx, rfl⟩
  exact ⟨rfl, ⟨session, rfl, hconfig⟩, hoptions, hflushing, hstreaming, hgranted⟩

/-- A call without a packet sends FLUSH, which is answered with DONE. -/
theorem decodeBody_drains {s : VTRemoteDecContext LocalSession}
    (hs : InLockstep configuration s) {pkt : Option AVPacket}
    (hpkt : packetToSend pkt = none) :
    exists s', decodeBody (localLink codecs) libs avctx frame pkt s =
        .returned (.error averrorEof) s' ∧ s'.done = true := by
  rcases hs with ⟨hreplies, ⟨session, hsession, _⟩, _, hflushing, hstreaming, _⟩
  have hanswers : (stubService codecs).answers (some session)
      [⟨.flush, Payload.empty.bytes⟩] = ([⟨.done, []⟩], none) := rfl
  have hsend : decodeSend (localLink codecs) (packetToSend pkt) s =
      .returned (.ok ()) { s with
        flushing := true, fd := ⟨[⟨.done, []⟩], none⟩ } := by
    rw [hpkt, decodeSend, Call.get_bind]
    unfold Call.when
    rw [if_pos (by rw [hflushing]; exact Bool.false_ne_true), Call.modify_bind]
    exact Call.zoom_of_returned
      (LocalSession.sendMsg_of_answers hreplies hsession hanswers)
  have hround : decodeRound (localLink codecs) libs avctx frame { s with
      flushing := true, fd := ⟨[⟨.done, []⟩], none⟩ } =
        .returned (.error averrorEof) { s with
          flushing := true, fd := ⟨[], none⟩, done := true } := rfl
  unfold decodeBody
  rw [Call.get_bind, if_neg (by rw [hstreaming]; exact Bool.false_ne_true),
    Call.bind_of_ok _ hsend, Call.get_bind]
  exact ⟨_, Call.bind_of_error _ hround, rfl⟩

/-!
## Runs
-/

/-- A black picture in the lines of the buffer, with the times of the packet. -/
structure BlackPicture (avctx : AVCodecContext) (configuration : SessionConfiguration)
    (lineSize : Fin 2 -> Nat) (sent : AVPacket) (out : AVFrame) : Prop where
  format : out.format = avctx.pixFmt
  size : out.width = avctx.width ∧ out.height = avctx.height
  pts : out.pts = sent.pts
  duration : out.duration = sent.duration
  bytes : forall i, ShowsRows
    (List.replicate (stubStride configuration * blackRows configuration i) 0)
    (stubStride configuration) (blackRows configuration i) (avctx.getBuffer.data i)
    (lineSize i) (out.data i)

/-- A black picture for each packet until the first call that drains, then the end
of the stream. -/
inductive ReturnsBlack (avctx : AVCodecContext) (configuration : SessionConfiguration)
    (lineSize : Fin 2 -> Nat) : List (Option AVPacket) -> List DecodeReturn -> Prop where
  | none : ReturnsBlack avctx configuration lineSize [] []
  | packet {pkt : Option AVPacket} {sent : AVPacket} {out : AVFrame}
      {pkts : List (Option AVPacket)} {results : List DecodeReturn}
      (hsent : packetToSend pkt = some sent)
      (hout : BlackPicture avctx configuration lineSize sent out)
      (hrest : ReturnsBlack avctx configuration lineSize pkts results) :
      ReturnsBlack avctx configuration lineSize (pkt :: pkts)
        ({ ret := .ok (), gotFrame := true, frame := some out } :: results)
  | drains {pkt : Option AVPacket} {pkts : List (Option AVPacket)}
      (hnone : packetToSend pkt = none) :
      ReturnsBlack avctx configuration lineSize (pkt :: pkts)
        (List.replicate (pkts.length + 1) doneReturn)

theorem ReturnsBlack.of_props {props : AVPacket} {lineSize : Fin 2 -> Nat}
    {pkts : List (Option AVPacket)} {results : List DecodeReturn}
    (h : ReturnsBlack { avctx with lastPktProps := props } configuration lineSize pkts
      results) : ReturnsBlack avctx configuration lineSize pkts results := by
  induction h with
  | none => exact .none
  | packet hsent hout _ ih =>
      exact .packet hsent ⟨hout.format, hout.size, hout.pts, hout.duration, hout.bytes⟩ ih
  | drains hnone => exact .drains hnone

theorem packetFrame_black (h : ShowsBlack codecs libs configuration luma chroma)
    {lineSize : Fin 2 -> Nat}
    (hholds : HoldsBlack configuration avctx.getBuffer lineSize)
    {sent : AVPacket} (hpts : avctx.lastPktProps.pts = sent.pts)
    (hduration : avctx.lastPktProps.duration = sent.duration) :
    BlackPicture avctx configuration lineSize sent
      (packetFrame avctx frame configuration) := by
  refine ⟨rfl, ⟨rfl, rfl⟩, hpts, hduration, fun i => ?_⟩
  have hplane : (blackView configuration 0 0).plane i =
      blackPlane configuration (blackRows configuration i) := by
    match i with
    | 0 => rfl
    | 1 => rfl
  have hrows : blackRows configuration i ≤ configuration.height := by
    unfold blackRows
    split
    · exact Nat.le_refl _
    · exact Nat.div_le_self _ 2
  have hsize : stubStride configuration * blackRows configuration i ≤ 2147483647 :=
    Nat.le_trans (Nat.mul_le_mul_left _ hrows) h.size
  have hstrideInt := cInt_uint32_ofNat h.stride
  have hheightInt := cInt_uint32_ofNat (Nat.le_trans hrows h.height)
  have hdataLen : (UInt32.ofNat (stubStride configuration *
      blackRows configuration i)).toNat =
        stubStride configuration * blackRows configuration i :=
    UInt32.toNat_ofNat_of_lt' (Nat.lt_of_le_of_lt hsize (by decide))
  have hmax : (lineSize i : Int) ≤ intMax := by
    have hline := hholds.line i
    unfold intMax
    omega
  have hshown := @fillRows_showsRows
    (blackPlane configuration (blackRows configuration i)) (avctx.getBuffer.data i)
    (blackRows configuration i) (lineSize i) (by omega) hmax
    (hdataLen.trans List.length_replicate.symm)
    (by rw [Int.toNat_natCast, Nat.mul_comm]; exact hholds.lines i)
    (fillRows_inside_of_fits hstrideInt hheightInt (Nat.le_of_eq hdataLen.symm) hsize
      (hholds.line i) (hholds.offsets i))
  show ShowsRows _ _ _ _ _ ((fillRows ((blackView configuration 0 0).plane i)
    (avctx.getBuffer.linesize i)).foldl
      (RowMemcpy.apply ((blackView configuration 0 0).plane i).data)
      (avctx.getBuffer.data i))
  rw [hplane, hholds.linesize i]
  have hstride : cInt (blackPlane configuration (blackRows configuration i)).stride.toNat =
      stubStride configuration := hstrideInt
  have hheight : cInt (blackPlane configuration (blackRows configuration i)).height.toNat =
      blackRows configuration i := hheightInt
  rw [hstride, hheight, Int.toNat_natCast, Int.toNat_natCast, Int.toNat_natCast] at hshown
  exact hshown

theorem packetToSend_eq_some {pkt : Option AVPacket} {sent : AVPacket}
    (h : packetToSend pkt = some sent) : pkt = some sent :=
  (Option.filter_eq_some_iff.mp h).1

theorem decodeRun_local (h : ShowsBlack codecs libs configuration luma chroma)
    {lineSize : Fin 2 -> Nat} (avctx : AVCodecContext)
    (hholds : HoldsBlack configuration avctx.getBuffer lineSize)
    (pkts : List (Option AVPacket)) {s : VTRemoteDecContext LocalSession}
    (hs : InLockstep configuration s)
    (hpkts : forall pkt, pkt ∈ pkts -> CanSend (packetToSend pkt)) :
    exists results s', decodeRun (localLink codecs) libs avctx frame pkts s =
        .returned (.ok results) s' ∧
      ReturnsBlack avctx configuration lineSize pkts results := by
  induction pkts generalizing s avctx with
  | nil => exact ⟨[], s, rfl, .none⟩
  | cons pkt pkts ih =>
      have hpkts' : forall p, p ∈ pkts -> CanSend (packetToSend p) :=
        fun p hp => hpkts p (List.mem_cons_of_mem pkt hp)
      cases hpkt : packetToSend pkt with
      | some sent =>
          have hlen := hpkts pkt List.mem_cons_self sent hpkt
          cases packetToSend_eq_some hpkt
          rcases @decodeBody_packet _ _ _ _ _ (avctx.extractPacketProps (some sent)) frame
            h s hs (some sent) sent hpkt hlen with ⟨s1, hbody, hs1⟩
          rcases ih (avctx.extractPacketProps (some sent)) hholds hs1 hpkts' with
            ⟨results, s', hrun, hreturns⟩
          have hout := @packetFrame_black _ _ _ _ _
            (avctx.extractPacketProps (some sent)) frame h lineSize hholds sent rfl rfl
          refine ⟨_, s', decodeRun_cons frame (ffVtremoteDecode_of_body _ frame hbody) hrun,
            .packet hpkt ?_ hreturns.of_props⟩
          exact ⟨hout.format, hout.size, hout.pts, hout.duration, hout.bytes⟩
      | none =>
          rcases @decodeBody_drains codecs libs configuration
            (avctx.extractPacketProps pkt) frame s hs pkt hpkt with ⟨s1, hbody, hdone⟩
          exact ⟨_, s1, decodeRun_cons frame (ffVtremoteDecode_of_body _ frame hbody)
            (decodeRun_done frame _ pkts hdone), .drains hpkt⟩

/-- Whenever the server goes round its loop, the decoder returns what it would
return if the session answered each message at once, as long as no read times out,
no send fails and memory is granted. -/
theorem decodeRun_anySchedule (codecs : PlaneCodecs) (libs : DecompressionLibraries)
    (avctx : AVCodecContext) (frame : AVFrame) (pkts : List (Option AVPacket))
    (s : VTRemoteDecContext System) :
    (decodeRun (systemLink codecs) libs avctx frame pkts s).image
        (VTRemoteDecContext.mapFd (System.toLocal codecs)) =
      decodeRun (localLink codecs) libs avctx frame pkts
        (s.mapFd (System.toLocal codecs)) :=
  decodeRun_shows (systemLink_shows codecs) libs avctx frame
    (Or.inl (localLink_consumes codecs)) pkts s

/-- A stub session in decode mode and the decoder stay in lockstep over channels that
do not fail: every call with a packet returns a black picture with the times of that
packet, whatever the schedule, and the first call that drains returns the end of the
stream. -/
theorem decodeRun_lockstep (codecs : PlaneCodecs) (libs : DecompressionLibraries)
    (configuration : SessionConfiguration) (luma chroma : Bytes)
    (h : ShowsBlack codecs libs configuration luma chroma) (avctx : AVCodecContext)
    (lineSize : Fin 2 -> Nat)
    (hholds : HoldsBlack configuration avctx.getBuffer lineSize)
    (frame : AVFrame) (pkts : List (Option AVPacket))
    (hpkts : forall pkt, pkt ∈ pkts -> CanSend (packetToSend pkt))
    (schedule : List Nat) :
    exists results s', decodeRun (systemLink codecs) libs avctx frame pkts
        (.afterInit (System.start configuration schedule)
          configuration.wireCompression) = .returned (.ok results) s' ∧
      ReturnsBlack avctx configuration lineSize pkts results := by
  have hstart : InLockstep configuration ((VTRemoteDecContext.afterInit
      (System.start configuration schedule)
        configuration.wireCompression).mapFd (System.toLocal codecs)) :=
    ⟨rfl, ⟨_, rfl, rfl⟩, rfl, rfl, rfl, ⟨VTRemoteWBuf.sound_reset (vtremoteWbufInit []), rfl⟩⟩
  rcases @decodeRun_local _ _ _ _ _ frame h lineSize avctx hholds pkts _ hstart hpkts with
    ⟨results, s1, hlocal, hreturns⟩
  have himage := decodeRun_shows (systemLink_shows codecs) libs avctx frame
    (Or.inl (localLink_consumes codecs)) pkts
    (.afterInit (System.start configuration schedule) configuration.wireCompression)
  rcases Outcome.image_eq_returned (himage.trans hlocal) with ⟨s', hrun, _⟩
  exact ⟨results, s', hrun, hreturns⟩

end Black

def tinyDecoding : SessionConfiguration where
  mode := .decode
  width := 2
  height := 2
  pixelFormat := 1
  wireCompression := 0

def tinyBuffer : FrameBuffer where
  data i := if i = 0 then [1, 2, 3, 4] else [5, 6]
  linesize _ := 2

def tinyCodecContext : AVCodecContext where
  pixFmt := .nv12
  width := 2
  height := 2
  size_pos := by decide
  getBuffer := tinyBuffer
  lastPktProps := unreferencedPacket
  propsSideData := fun _ => []

theorem decodeRun_lockstep_tiny :
    exists results s', decodeRun (systemLink boundedCodecs) noDecompression
        tinyCodecContext unreferencedFrame (decodeInputs onePacket 2)
        (.afterInit (System.start tinyDecoding [0, 3, 1]) 0) =
          .returned (.ok results) s' ∧
      ReturnsBlack tinyCodecContext tinyDecoding (fun _ => 2) (decodeInputs onePacket 2)
        results := by
  apply decodeRun_lockstep boundedCodecs noDecompression tinyDecoding
    (List.replicate 4 0) (List.replicate 2 0)
  · exact
      { mode := rfl
        lumaPlane := rfl
        chromaPlane := rfl
        stride := by decide
        height := by decide
        size := by decide
        message := by decide
        restored := fun h => absurd h (by decide) }
  · exact
      { linesize := fun _ => rfl
        line := fun _ => by decide
        lines := Fin.forall_fin_two.mpr (by decide)
        offsets := Fin.forall_fin_two.mpr (by decide) }
  · simp [decodeInputs, onePacket, CanSend, packetToSend, maxAllocSize]

end VTRemote
