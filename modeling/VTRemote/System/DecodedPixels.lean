import VTRemote.Client.FillBounds
import VTRemote.Client.GrantedDecoder
import VTRemote.Formats.Frame
import VTRemote.Server.ConfigurationTraps

/-!
# Pixels on their way from the decoder

The server sends a decoded frame as its two planes, with their padding, and the
client copies the rows into a frame of its own, whose lines may be longer or
shorter.
-/

namespace VTRemote

open Grammar

attribute [local irreducible] cInt

/-!
## A decoded frame
-/

structure DecodedBuffer where
  ptsTicks : Int64
  durTicks : Int64
  plane : Fin 2 -> PixelBufferPlane

structure RestoresPlanes (codecs : PlaneCodecs) (libs : DecompressionLibraries) :
    Prop where
  lz4 : forall raw out, codecs.lz4Compress raw = some out ->
    libs.lz4DecompressSafe out raw.length = some raw
  zstd : forall raw out, codecs.zstdCompress raw = some out ->
    libs.zstdDecompressDCtx out raw.length = some raw

/-- The client can compute the sizes of the planes and the offsets of their rows and
has lines for them; a plane that is compressed has bytes. -/
structure FitsBuffer (wireCompression : Int) (buffer : FrameBuffer)
    (lineSize : Fin 2 -> Nat) (decoded : DecodedBuffer) : Prop where
  stride : forall i, (decoded.plane i).stride ≤ 2147483647
  height : forall i, (decoded.plane i).height ≤ 2147483647
  size : forall i, (decoded.plane i).stride * (decoded.plane i).height ≤ 2147483647
  samples : wireCompression = 1 ∨ wireCompression = 2 ->
    forall i, 0 < (decoded.plane i).stride * (decoded.plane i).height
  linesize : forall i, buffer.linesize i = lineSize i
  line : forall i, lineSize i ≤ 2147483647
  lines : forall i, lineSize i * (decoded.plane i).height ≤ (buffer.data i).length
  offsets : forall i, lineSize i * (decoded.plane i).height ≤ 2147483647

def SendsBuffer (codecs : PlaneCodecs) (wireCompression : Int) (decoded : DecodedBuffer)
    (payload : Payload) : Prop :=
  exists parts, decodedFrameParts codecs wireCompression decoded.ptsTicks
      decoded.durTicks (decoded.plane 0) (decoded.plane 1) = .ok (some parts) ∧
    payload.bytes = parts.flatten

inductive DecoderSend where
  | frame (decoded : DecodedBuffer) (payload : Payload)
  | ping (payload : Payload)

def DecoderSend.wire : DecoderSend -> Bytes
  | frame _ payload => wireMessage .frame payload
  | ping payload => wireMessage .ping payload

def DecoderSend.buffer : DecoderSend -> Option DecodedBuffer
  | frame decoded _ => some decoded
  | ping _ => none

/-- A frame of the client that shows the decoded frame: the bytes of its rows as far
as the lines reach, and nothing else.  The times are those of the last packet. -/
structure Pictures (avctx : AVCodecContext) (lineSize : Fin 2 -> Nat)
    (decoded : DecodedBuffer) (out : AVFrame) : Prop where
  pts : out.pts = avctx.lastPktProps.pts
  duration : out.duration = avctx.lastPktProps.duration
  bytes : forall i, ShowsRows (decoded.plane i).raw (decoded.plane i).stride
    (decoded.plane i).height (avctx.getBuffer.data i) (lineSize i) (out.data i)

section Frames

variable {codecs : PlaneCodecs} {libs : DecompressionLibraries} {wireCompression : Int}
  {buffer : FrameBuffer} {lineSize : Fin 2 -> Nat} {decoded : DecodedBuffer}
  {message : ServerFrame libs wireCompression}

def wirePlane (plane : PixelBufferPlane) (data : Bytes) : VTRemotePlaneView where
  stride := UInt32.ofNat plane.stride
  height := UInt32.ofNat plane.height
  dataLen := UInt32.ofNat data.length
  data := data

theorem RestoresPlanes.restore (hrestores : RestoresPlanes codecs libs)
    (hcompressed : wireCompression = 1 ∨ wireCompression = 2) {raw data : Bytes}
    (h : codecs.compress wireCompression raw = some data) :
    libs.restore wireCompression data raw.length = some raw := by
  unfold PlaneCodecs.compress at h
  unfold DecompressionLibraries.restore
  by_cases hone : wireCompression = 1
  · rw [if_pos hone] at h ⊢
    exact hrestores.lz4 raw data h
  · rw [if_neg hone, if_pos (hcompressed.resolve_left hone)] at h
    rw [if_neg hone]
    exact hrestores.zstd raw data h

def sentView (decoded : DecodedBuffer) (data : Fin 2 -> Bytes) : VTRemoteFrameView where
  pts := decoded.ptsTicks
  duration := decoded.durTicks
  flags := 0
  planeCount := 2
  planes := [wirePlane (decoded.plane 0) (data 0), wirePlane (decoded.plane 1) (data 1)]
  sideDataCount := 0
  sideData := []

theorem sentView_plane (data : Fin 2 -> Bytes) (i : Fin 2) :
    (sentView decoded data).plane i = wirePlane (decoded.plane i) (data i) := by
  match i with
  | 0 => rfl
  | 1 => rfl

theorem SendsBuffer.parsed {payload : Payload}
    (h : SendsBuffer codecs wireCompression decoded payload) :
    exists data : Fin 2 -> Bytes,
      (forall i, codecs.compress wireCompression (decoded.plane i).raw =
        some (data i)) ∧
      vtremoteParseFrame payload.bytes payload.bytes.length =
        .ok (sentView decoded data) := by
  rcases h with ⟨parts, hparts, hbytes⟩
  rcases decodedFrameParts_encode hparts with
    ⟨data0, data1, hcompress0, hcompress1, hlen0, hlen1, hencode⟩
  have hmax : (payload.bytes.length : Int) ≤ intMax := by
    have hle := payload.length_le
    unfold maxAllocSize at hle
    unfold intMax
    omega
  refine ⟨fun i => if i = 0 then data0 else data1,
    Fin.forall_fin_two.mpr ⟨hcompress0, hcompress1⟩, ?_⟩
  rw [vtremoteParseFrame_serverFrame hlen0 hlen1 (hbytes.trans hencode) hmax,
    decoded.ptsTicks.toInt64_toUInt64, decoded.durTicks.toInt64_toUInt64]
  rfl

theorem decompress_wirePlane (hrestores : RestoresPlanes codecs libs)
    (hfits : FitsBuffer wireCompression buffer lineSize decoded)
    (hcompressed : wireCompression = 1 ∨ wireCompression = 2) {data : Bytes} {i : Fin 2}
    (h : codecs.compress wireCompression (decoded.plane i).raw = some data) :
    libs.decompress wireCompression (wirePlane (decoded.plane i) data) =
      .ok { wirePlane (decoded.plane i) data with
        data := (decoded.plane i).raw
        dataLen := UInt32.ofInt ((decoded.plane i).stride *
          (decoded.plane i).height : Nat) } := by
  have hexpected : (wirePlane (decoded.plane i) data).expected =
      ((decoded.plane i).stride * (decoded.plane i).height : Nat) :=
    expected_eq_size rfl rfl (hfits.stride i) (hfits.height i) (hfits.size i)
  have hrestore := hrestores.restore hcompressed h
  rw [(decoded.plane i).raw_length] at hrestore
  exact restored_plane hexpected (decoded.plane i).raw_length hrestore

theorem SendsBuffer.readable (hrestores : RestoresPlanes codecs libs)
    (hfits : FitsBuffer wireCompression buffer lineSize decoded) {payload : Payload}
    (h : SendsBuffer codecs wireCompression decoded payload) :
    exists message : ServerFrame libs wireCompression, message.payload = payload := by
  rcases h.parsed with ⟨data, hcompress, hparsed⟩
  have hplanar : ¬ (sentView decoded data).planeCount < 2 := by
    show ¬ (2 : UInt8) < 2
    decide
  by_cases hcompressed : wireCompression = 1 ∨ wireCompression = 2
  · have hpos : forall i, 0 < ((sentView decoded data).plane i).expected := by
      intro i
      rw [sentView_plane, expected_eq_size rfl rfl (hfits.stride i) (hfits.height i)
        (hfits.size i)]
      exact Int.natCast_pos.mpr (hfits.samples hcompressed i)
    exact ⟨⟨payload, _, hparsed, hplanar, _, .planes _ _ hcompressed hpos
      (decompress_wirePlane hrestores hfits hcompressed (hcompress 0))
      (decompress_wirePlane hrestores hfits hcompressed (hcompress 1))⟩, rfl⟩
  · exact ⟨⟨payload, _, hparsed, hplanar, _, .plain hcompressed⟩, rfl⟩

theorem SendsBuffer.shown (hrestores : RestoresPlanes codecs libs)
    (hfits : FitsBuffer wireCompression buffer lineSize decoded)
    (h : SendsBuffer codecs wireCompression decoded message.payload) :
    forall i, (message.shown.plane i).data = (decoded.plane i).raw ∧
        (message.shown.plane i).stride = UInt32.ofNat (decoded.plane i).stride ∧
        (message.shown.plane i).height = UInt32.ofNat (decoded.plane i).height := by
  rcases h.parsed with ⟨data, hcompress, hparsed⟩
  have hview := Except.ok.inj (message.parsed.symm.trans hparsed)
  have hshown := message.decompresses
  rw [hview] at hshown
  revert hshown
  generalize message.shown = shown
  intro hshown
  cases hshown with
  | plain hplain =>
      intro i
      have hdata := hcompress i
      unfold PlaneCodecs.compress at hdata
      rw [if_neg (fun hone => hplain (Or.inl hone)),
        if_neg (fun htwo => hplain (Or.inr htwo))] at hdata
      rw [sentView_plane, <- Option.some.inj hdata]
      exact ⟨rfl, rfl, rfl⟩
  | planes plane0 plane1 hcompressed _ hplane0 hplane1 =>
      have hrestored := fun i =>
        decompress_wirePlane hrestores hfits hcompressed (hcompress i)
      have h0 := Except.ok.inj (hplane0.symm.trans (hrestored 0))
      have h1 := Except.ok.inj (hplane1.symm.trans (hrestored 1))
      intro i
      match i with
      | 0 =>
          show plane0.data = _ ∧ plane0.stride = _ ∧ plane0.height = _
          rw [h0]
          exact ⟨rfl, rfl, rfl⟩
      | 1 =>
          show plane1.data = _ ∧ plane1.stride = _ ∧ plane1.height = _
          rw [h1]
          exact ⟨rfl, rfl, rfl⟩

theorem SendsBuffer.pictures (hrestores : RestoresPlanes codecs libs)
    {avctx : AVCodecContext}
    (hfits : FitsBuffer wireCompression avctx.getBuffer lineSize decoded)
    (h : SendsBuffer codecs wireCompression decoded message.payload) (frame : AVFrame) :
    Pictures avctx lineSize decoded (message.decoded avctx frame) := by
  refine ⟨rfl, rfl, fun i => ?_⟩
  rcases h.shown hrestores hfits i with ⟨hdata, hstride, hheight⟩
  have hstrideInt : cInt (message.shown.plane i).stride.toNat =
      (decoded.plane i).stride := by
    rw [hstride, cInt_uint32_ofNat (hfits.stride i)]
  have hheightInt : cInt (message.shown.plane i).height.toNat =
      (decoded.plane i).height := by
    rw [hheight, cInt_uint32_ofNat (hfits.height i)]
  have hdataLen := message.dataLen_shown i
  have hraw := (decoded.plane i).raw_length
  rw [hdata, hraw] at hdataLen
  have hmax : (lineSize i : Int) ≤ intMax := by
    have hline := hfits.line i
    unfold intMax
    omega
  have hinside := fillRows_inside_of_fits hstrideInt hheightInt
    (Nat.le_of_eq hdataLen.symm) (hfits.size i) (hfits.line i) (hfits.offsets i)
  have hrows := @fillRows_showsRows (message.shown.plane i) (avctx.getBuffer.data i)
    (decoded.plane i).height (lineSize i) (by omega) hmax (message.dataLen_shown i)
    (by rw [Int.toNat_natCast, Nat.mul_comm]; exact hfits.lines i) hinside
  rw [hstrideInt, hheightInt, hdata, Int.toNat_natCast, Int.toNat_natCast,
    Int.toNat_natCast, <- hfits.linesize i, <- hdata] at hrows
  rw [<- hdata]
  exact hrows

/-!
## A stream of decoded frames
-/

/-- The calls that get a frame get pictures of the decoded frames in their order,
one each, and the other calls get the end of the stream. -/
def ReturnsPictures (avctx : AVCodecContext) (lineSize : Fin 2 -> Nat)
    (decoded : List DecodedBuffer) (pkts : List (Option AVPacket))
    (results : List DecodeReturn) : Prop :=
  List.Forall₂ (fun (call : AVCodecContext × DecodedBuffer) (r : DecodeReturn) =>
      r.ret = .ok () ∧ exists out, r.frame = some out ∧
        Pictures call.1 lineSize call.2 out)
    ((avctx.during pkts).zip decoded) (results.take decoded.length) ∧
  forall r, r ∈ results.drop decoded.length -> r = doneReturn

theorem length_eventReturns (avctx : AVCodecContext) (frame : AVFrame)
    (events : List (Option (ServerFrame libs wireCompression)))
    (pkts : List (Option AVPacket)) :
    (eventReturns avctx frame events pkts).length = pkts.length := by
  unfold eventReturns callsMeet
  rw [List.length_append, List.length_map, List.length_zip, List.length_replicate,
    AVCodecContext.length_during]
  omega

theorem eventReturns_split (avctx : AVCodecContext) (frame : AVFrame)
    (messages : List (ServerFrame libs wireCompression))
    (pkts : List (Option AVPacket)) :
    (eventReturns avctx frame (messages.map some) pkts).take messages.length =
        ((avctx.during pkts).zip messages).map
          (fun call => eventReturn call.1 frame (some call.2)) ∧
      (eventReturns avctx frame (messages.map some) pkts).drop messages.length =
        List.replicate (pkts.length - messages.length) doneReturn := by
  have hshown : eventReturns avctx frame (messages.map some) pkts =
      ((avctx.during pkts).zip messages).map
        (fun call => eventReturn call.1 frame (some call.2)) ++
        List.replicate (pkts.length - messages.length) doneReturn := by
    unfold eventReturns callsMeet
    rw [List.zip_map_right, List.map_map, List.length_map]
    rfl
  have hlength : (((avctx.during pkts).zip messages).map
      (fun call => eventReturn call.1 frame (some call.2))).length =
      min pkts.length messages.length := by
    rw [List.length_map, List.length_zip, AVCodecContext.length_during]
  rw [hshown]
  rcases Nat.le_total pkts.length messages.length with hle | hge
  · rw [Nat.sub_eq_zero_of_le hle, List.replicate_zero, List.append_nil]
    rw [Nat.min_eq_left hle] at hlength
    exact ⟨List.take_of_length_le (by omega), List.drop_of_length_le (by omega)⟩
  · rw [Nat.min_eq_right hge] at hlength
    exact ⟨List.take_left' hlength, List.drop_left' hlength⟩

theorem eventReturns_pictures (hrestores : RestoresPlanes codecs libs)
    {avctx : AVCodecContext} (frame : AVFrame) {shown : List DecodedBuffer}
    {messages : List (ServerFrame libs wireCompression)}
    (hfits : forall d, d ∈ shown -> FitsBuffer wireCompression avctx.getBuffer lineSize d)
    (hmessages : List.Forall₂
      (fun d message => SendsBuffer codecs wireCompression d message.payload)
      shown messages)
    (pkts : List (Option AVPacket)) :
    ReturnsPictures avctx lineSize shown pkts
      (eventReturns avctx frame (messages.map some) pkts) := by
  have hcount : shown.length = messages.length := hmessages.length_eq
  rcases eventReturns_split avctx frame messages pkts with ⟨htake, hdrop⟩
  constructor
  · rw [hcount, htake, List.forall₂_map_right_iff]
    have hcontexts : forall context, context ∈ avctx.during pkts ->
        context.getBuffer = avctx.getBuffer := by
      intro context hmem
      rcases AVCodecContext.eq_of_mem_during hmem with ⟨props, rfl⟩
      rfl
    clear htake hdrop hcount
    generalize avctx.during pkts = contexts at hcontexts ⊢
    induction contexts generalizing shown messages with
    | nil => exact .nil
    | cons context contexts ih =>
        cases hmessages with
        | nil => exact .nil
        | @cons d message shown messages hsend hrest =>
            have hfitsHere := hfits d List.mem_cons_self
            rw [<- hcontexts context List.mem_cons_self] at hfitsHere
            apply List.Forall₂.cons
            · exact ⟨rfl, message.decoded context frame, rfl,
                hsend.pictures hrestores hfitsHere frame⟩
            · exact ih (fun d hd => hfits d (List.mem_cons_of_mem _ hd)) hrest
                fun c hc => hcontexts c (List.mem_cons_of_mem _ hc)
  · intro r hr
    rw [hcount, hdrop] at hr
    exact List.eq_of_mem_replicate hr

/-- The stream of the server as the decoder sees it. -/
theorem exists_items (hrestores : RestoresPlanes codecs libs)
    (behind : List (Atom Errno)) (sends : List DecoderSend)
    (hsends : forall decoded payload, .frame decoded payload ∈ sends ->
      SendsBuffer codecs wireCompression decoded payload ∧
        FitsBuffer wireCompression buffer lineSize decoded) :
    exists (items : List (DecodeItem libs wireCompression))
      (messages : List (ServerFrame libs wireCompression)),
      decoderStream behind items =
        (sends.flatMap DecoderSend.wire ++ wireMessage .done Payload.empty).map .byte ++
          behind ∧
      DecodeItem.events items = messages.map some ∧
      List.Forall₂
        (fun d message => SendsBuffer codecs wireCompression d message.payload)
        (sends.filterMap DecoderSend.buffer) messages := by
  induction sends with
  | nil => exact ⟨[], [], rfl, rfl, .nil⟩
  | cons send rest ih =>
      rcases ih fun decoded payload hmem =>
        hsends decoded payload (List.mem_cons_of_mem send hmem) with
        ⟨items, messages, hstream, hevents, hmessages⟩
      cases send with
      | frame decoded payload =>
          rcases hsends decoded payload List.mem_cons_self with ⟨hsend, hfits⟩
          rcases hsend.readable hrestores hfits with ⟨message, rfl⟩
          refine ⟨.frame message :: items, message :: messages, ?_, ?_,
            .cons hsend hmessages⟩
          · show (wireMessage .frame message.payload).map .byte ++
              decoderStream behind items = _
            rw [hstream, <- List.append_assoc, <- List.map_append, <- List.append_assoc]
            rfl
          · show some message :: DecodeItem.events items = _
            rw [hevents]
            rfl
      | ping payload =>
          refine ⟨.ping payload :: items, messages, ?_, hevents, hmessages⟩
          show (wireMessage .ping payload).map .byte ++ decoderStream behind items = _
          rw [hstream, <- List.append_assoc, <- List.map_append, <- List.append_assoc]
          rfl

/-- The server sends the frames that it decodes, and PINGs at any time.  With
memory granted, the caller of the decoder gets the pixels of all of them. -/
theorem decodeRun_pictures (codecs : PlaneCodecs) (libs : DecompressionLibraries)
    (hrestores : RestoresPlanes codecs libs) (wireCompression : Int)
    (avctx : AVCodecContext) (lineSize : Fin 2 -> Nat) (frame : AVFrame)
    (sends : List DecoderSend)
    (hsends : forall decoded payload, .frame decoded payload ∈ sends ->
      SendsBuffer codecs wireCompression decoded payload ∧
        FitsBuffer wireCompression avctx.getBuffer lineSize decoded)
    (behind : List (Atom Errno)) (h : Host) (hworking : h.Working)
    (hstream : h.stream =
      (sends.flatMap DecoderSend.wire ++ wireMessage .done Payload.empty).map .byte ++
        behind)
    (pkts : List (Option AVPacket))
    (hpkts : forall pkt, pkt ∈ pkts -> CanSend (packetToSend pkt)) :
    exists results s', decodeRun hostLink libs avctx frame pkts
        (.afterInit h wireCompression) = .returned (.ok results) s' ∧
      results.length = pkts.length ∧
      ReturnsPictures avctx lineSize (sends.filterMap DecoderSend.buffer) pkts
        results := by
  rcases exists_items hrestores behind sends hsends with
    ⟨items, messages, hitems, hevents, hmessages⟩
  rw [<- hitems] at hstream
  have hfits : forall d, d ∈ sends.filterMap DecoderSend.buffer ->
      FitsBuffer wireCompression avctx.getBuffer lineSize d := by
    intro d hd
    rcases List.mem_filterMap.mp hd with ⟨send, hmem, hsend⟩
    cases send with
    | frame decoded payload =>
        cases hsend
        exact (hsends d payload hmem).2
    | ping payload => cases hsend
  have hstreaming : Streaming (.afterInit h wireCompression) (messages.map some) :=
    ⟨hworking, ⟨Nat.le_refl 0, rfl⟩, rfl, rfl, items, behind, hstream, hevents.symm⟩
  rcases decodeRun_events frame avctx pkts hstreaming hpkts with ⟨s', hrun⟩
  exact ⟨_, s', hrun, length_eventReturns avctx frame _ pkts,
    eventReturns_pictures hrestores frame hfits hmessages pkts⟩

end Frames

def twoColumns : DecodedBuffer where
  ptsTicks := 0
  durTicks := 0
  plane
    | 0 => { stride := 2, height := 1, raw := [10, 11], raw_length := rfl }
    | 1 => { stride := 2, height := 1, raw := [20, 21], raw_length := rfl }

def twoColumnsPayload : Payload := ⟨oneRowPayload, by decide⟩

def twoColumnsHost : Host where
  incoming := unread (wireMessage .frame twoColumnsPayload ++
    wireMessage .done Payload.empty) [.close]
  outgoing := { next := [], broken := none }
  heap := []
  log := []

theorem boundedCodecs_restoresPlanes :
    RestoresPlanes boundedCodecs noDecompression where
  lz4 := by
    intro raw out h
    rcases Option.ite_none_right_eq_some.mp h with ⟨_, hout⟩
    cases hout
    rfl
  zstd := by
    intro raw out h
    cases h
    rfl

theorem decodeRun_pictures_twoColumns :
    exists results s', decodeRun hostLink noDecompression narrowCodecContext
        unreferencedFrame [none, none] (.afterInit twoColumnsHost 0) =
          .returned (.ok results) s' ∧
      results.length = [(none : Option AVPacket), none].length ∧
      ReturnsPictures narrowCodecContext (fun _ => 2)
        ([DecoderSend.frame twoColumns twoColumnsPayload].filterMap
          DecoderSend.buffer) [none, none] results := by
  apply decodeRun_pictures boundedCodecs noDecompression boundedCodecs_restoresPlanes 0
    narrowCodecContext (fun _ => 2) unreferencedFrame
    [.frame twoColumns twoColumnsPayload] _ [.eof]
  · refine ⟨⟨?_, rfl⟩, ?_⟩
    · intro answer hanswer
      cases hanswer
    · intro grant hgrant
      cases hgrant
  · decide +kernel
  · simp [CanSend, packetToSend]
  · intro d payload hd
    cases List.mem_singleton.mp hd
    exact ⟨⟨_, rfl, rfl⟩,
      { stride := Fin.forall_fin_two.mpr (by decide)
        height := Fin.forall_fin_two.mpr (by decide)
        size := Fin.forall_fin_two.mpr (by decide)
        samples := fun _ => Fin.forall_fin_two.mpr (by decide)
        linesize := fun _ => rfl
        line := Fin.forall_fin_two.mpr (by decide)
        lines := Fin.forall_fin_two.mpr (by decide)
        offsets := Fin.forall_fin_two.mpr (by decide) }⟩

end VTRemote
