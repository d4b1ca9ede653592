import VTRemote.Client.DecoderStream

/-!
# What a run of the decoder hands to its caller

Each call uses up one event of the stream, so the results of a run are the
events in order.
-/

namespace VTRemote

attribute [local irreducible] cInt

variable {libs : DecompressionLibraries} {wireCompression : Int}

/-!
## One round
-/

inductive NextEvent (s : VTRemoteDecContext Host) :
    List (Option (ServerFrame libs wireCompression)) ->
    Except AvError (VTRemoteMsgHeader × Bytes) -> Host -> Prop where
  | done {fd : Host} (hworking : fd.Working) :
      NextEvent s [] (.ok (messageHeader .done Payload.empty, [])) fd
  | frame {fd : Host} (message : ServerFrame libs wireCompression)
      (events : List (Option (ServerFrame libs wireCompression)))
      (hrest : Streaming { s with fd := fd } events) :
      NextEvent s (some message :: events)
        (.ok (messageHeader .frame message.payload, message.payload.bytes)) fd
  | ping {fd : Host} (payload : Payload)
      (events : List (Option (ServerFrame libs wireCompression)))
      (hrest : Streaming { s with fd := fd } events) :
      NextEvent s events (.ok (messageHeader .ping payload, payload.bytes)) fd
  | timeout {fd : Host}
      (events : List (Option (ServerFrame libs wireCompression)))
      (hrest : Streaming { s with fd := fd } events) :
      NextEvent s (none :: events) (.error (averror eagain)) fd

theorem vtremoteReadMsg_fail {errno : Errno} {h : Host}
    {rest : List (Atom Errno)} (hworking : h.Working)
    (hstream : h.stream = .fail errno :: rest) :
    exists h', vtremoteReadMsg h = .returned (.error (averror errno)) h' ∧
      h'.stream = rest ∧ h'.Working := by
  rcases readFull_fail (Nat.succ_pos 11) hstream with ⟨incoming, hread, hrest⟩
  refine ⟨_, Call.bind_of_error _ hread, hrest, ?_⟩
  exact ⟨hworking.reliable, hworking.granted⟩

theorem Streaming.read {s : VTRemoteDecContext Host}
    {events : List (Option (ServerFrame libs wireCompression))}
    (h : Streaming s events) :
    exists r fd, vtremoteReadMsg s.fd = .returned r fd ∧
      NextEvent s events r fd := by
  rcases h with ⟨hworking, hbuffer, hoptions, hdone, items, behind, hstream, rfl⟩
  cases items with
  | nil =>
      rcases vtremoteReadMsg_wire hworking hstream with ⟨fd, hread, _, hworking'⟩
      exact ⟨_, fd, hread, .done hworking'⟩
  | cons item rest =>
      have hrest : forall {fd : Host}, fd.Working ->
          fd.stream = @decoderStream libs wireCompression behind rest ->
          Streaming { s with fd := fd } (DecodeItem.events rest) :=
        fun hworking' hstream' =>
          ⟨hworking', hbuffer, hoptions, hdone, rest, behind, hstream', rfl⟩
      cases item with
      | frame message =>
          rcases vtremoteReadMsg_wire hworking hstream with
            ⟨fd, hread, hstream', hworking'⟩
          exact ⟨_, fd, hread, .frame message _ (hrest hworking' hstream')⟩
      | ping payload =>
          rcases vtremoteReadMsg_wire hworking hstream with
            ⟨fd, hread, hstream', hworking'⟩
          exact ⟨_, fd, hread, .ping payload _ (hrest hworking' hstream')⟩
      | timeout =>
          rcases vtremoteReadMsg_fail hworking hstream with
            ⟨fd, hread, hstream', hworking'⟩
          exact ⟨_, fd, hread, .timeout _ (hrest hworking' hstream')⟩

theorem Streaming.keeps {s s' : VTRemoteDecContext Host}
    {events : List (Option (ServerFrame libs wireCompression))}
    (h : Streaming s events) (hkeeps : DecKeeps s s') : Streaming s' events := by
  rcases h with ⟨hworking, hbuffer, hoptions, hdone, items, behind, hstream, rfl⟩
  rcases hkeeps with ⟨hidles, hoptions', hdone', hbuf⟩
  refine ⟨hidles.2 hworking, ?_, hoptions'.trans hoptions, hdone'.trans hdone,
    items, behind, ?_, rfl⟩
  · rw [hbuf]
    exact hbuffer
  · show atoms eintr s'.fd.incoming = _
    rw [hidles.1]
    exact hstream

variable (avctx : AVCodecContext) (frame : AVFrame)

/-- What a call makes of the events: it has used up the first of them. -/
inductive Uses : List (Option (ServerFrame libs wireCompression)) ->
    Except AvError (Option AVFrame) -> VTRemoteDecContext Host -> Prop where
  | frame (message : ServerFrame libs wireCompression)
      {events : List (Option (ServerFrame libs wireCompression))}
      {s' : VTRemoteDecContext Host} (hrest : Streaming s' events) :
      Uses (some message :: events) (.ok (some (message.decoded avctx frame))) s'
  | timeout {events : List (Option (ServerFrame libs wireCompression))}
      {s' : VTRemoteDecContext Host} (hrest : Streaming s' events) :
      Uses (none :: events) (.ok none) s'
  | done {s' : VTRemoteDecContext Host} (hdone : s'.done = true) :
      Uses [] (.error averrorEof) s'

theorem decodeRound_uses {s : VTRemoteDecContext Host}
    {events : List (Option (ServerFrame libs wireCompression))}
    (h : Streaming s events) :
    (decodeRound hostLink libs avctx frame s).Ends
      (fun r s' =>
        match r with
        | .ok none => Streaming s' events
        | .ok (some result) => Uses avctx frame events (.ok result) s'
        | .error e => Uses avctx frame events (.error e) s')
      (fun _ => False) := by
  rcases h.read with ⟨r, fd, hread, hnext⟩
  have hlink : onDecLink hostLink.readMsg s = .returned r { s with fd := fd } :=
    Call.zoom_of_returned hread
  unfold decodeRound
  rw [Call.bind_of_ok _ (Call.attempt_of_returned hlink)]
  cases hnext with
  | done hworking =>
      simp only [decodeMessage, messageHeader_type]
      exact Uses.done rfl
  | frame message events hrest =>
      rcases decodeFrame_gives message avctx frame hrest.working hrest.options
        with ⟨s', hdecode, hkeeps⟩
      simp only [decodeMessage, messageHeader_type]
      rw [Call.bind_of_ok _ hdecode]
      exact Uses.frame message (hrest.keeps hkeeps)
  | ping payload events hrest =>
      rcases vtremoteSendMsg_of_working hrest.working .pong Payload.empty with
        ⟨fd', hsend, hidles⟩
      have hpong : onDecLink (hostLink.sendMsg .pong Payload.empty)
          { s with fd := fd } = .returned (.ok ()) { s with fd := fd' } :=
        Call.zoom_of_returned hsend
      simp only [decodeMessage, messageHeader_type]
      rw [Call.bind_of_ok _ (Call.attempt_of_returned hpong)]
      have hkeeps : DecKeeps { s with fd := fd } { s with fd := fd' } :=
        ⟨hidles, rfl, rfl, rfl⟩
      exact hrest.keeps hkeeps
  | timeout events hrest =>
      simp only [if_pos]
      exact Uses.timeout hrest

theorem decodeRound_consumes {s s' : VTRemoteDecContext Host}
    (h : decodeRound hostLink libs avctx frame s = .returned (.ok none) s') :
    hostLink.left s'.fd < hostLink.left s.fd := by
  unfold decodeRound at h
  rcases Call.bind_eq_ok h with ⟨result, s1, hread, hnext⟩
  rcases Call.zoom_eq_returned (Call.attempt_eq_ok hread) with ⟨fd, hfd, rfl⟩
  cases result with
  | error e =>
      simp only at hnext
      split at hnext
      · cases hnext
      · cases hnext
  | ok message =>
      rcases message with ⟨hdr, payload⟩
      have hlt : hostLink.left fd < hostLink.left s.fd :=
        vtremoteReadMsg_consumes hfd
      simp only [decodeMessage] at hnext
      cases htype : VTRemoteMsgType.ofCode hdr.type with
      | none =>
          rw [htype] at hnext
          cases hnext
          exact hlt
      | some type =>
          rw [htype] at hnext
          cases type with
          | ping =>
              rcases Call.bind_eq_ok hnext with ⟨result, s2, hpong, hpure⟩
              rcases Call.zoom_eq_returned (Call.attempt_eq_ok hpong) with
                ⟨fd', hsend, rfl⟩
              cases hpure
              have hle := vtremoteSendMsg_readsOn .pong Payload.empty fd
              have hsend' : vtremoteSendMsg .pong Payload.empty fd =
                  .returned result fd' := hsend
              rw [hsend'] at hle
              exact Nat.lt_of_le_of_lt hle hlt
          | frame =>
              rcases Call.bind_eq_ok hnext with ⟨_, _, _, hpure⟩
              cases hpure
          | done => cases hnext
          | error => cases hnext
          | _ =>
              cases hnext
              exact hlt

/-!
## One call
-/

/-- The loop of `ff_vtremote_decode` ends with the first event. -/
theorem decodeLoop_uses {s : VTRemoteDecContext Host}
    {events : List (Option (ServerFrame libs wireCompression))}
    (h : Streaming s events) :
    (Call.loop (decodeRound hostLink libs avctx frame)
      (hostLink.left s.fd + 1) s).Ends (Uses avctx frame events)
      (fun _ => False) := by
  apply Call.ends_loop_of_lt (fun s' => Streaming s' events)
    (fun _ _ => decodeRound_consumes avctx frame)
  · intro s1 hs1
    apply (decodeRound_uses avctx frame hs1).mono
    · intro r s' hr
      cases r with
      | error e => exact hr
      | ok result =>
          cases result with
          | none => exact hr
          | some result => exact hr
    · exact fun _ h => h
  · exact h
  · exact Nat.lt_succ_self _

def CanSend (pkt : Option AVPacket) : Prop :=
  forall p, pkt = some p -> p.data.length + 32 ≤ maxAllocSize

theorem decodeSend_streaming {s : VTRemoteDecContext Host}
    {events : List (Option (ServerFrame libs wireCompression))}
    (h : Streaming s events) {pkt : Option AVPacket} (hpkt : CanSend pkt) :
    exists s', decodeSend hostLink pkt s = .returned (.ok ()) s' ∧
      Streaming s' events := by
  rcases h with ⟨hworking, hbuffer, hoptions, hdone, items, behind, hstream, rfl⟩
  have hsent : forall {s1 : VTRemoteDecContext Host} (type : VTRemoteMsgType)
      (payload : Payload), s1.fd = s.fd -> s1.pktBuf.Granted ->
      s1.wireCompression = wireCompression -> s1.done = false ->
      exists s', onDecLink (hostLink.sendMsg type payload) s1 =
        .returned (.ok ()) s' ∧ Streaming s' (DecodeItem.events items) := by
    intro s1 type payload hfd hbuffer' hoptions' hdone'
    rw [<- hfd] at hworking hstream
    rcases vtremoteSendMsg_of_working hworking type payload with
      ⟨fd, hsend, hidles⟩
    refine ⟨_, Call.zoom_of_returned hsend, ⟨hidles.2 hworking, hbuffer',
      hoptions', hdone', items, behind, ?_, rfl⟩⟩
    show atoms eintr fd.incoming = _
    rw [hidles.1]
    exact hstream
  cases pkt with
  | none =>
      rw [decodeSend, Call.get_bind]
      unfold Call.when
      split
      · exact hsent .flush Payload.empty rfl hbuffer hoptions hdone
      · exact ⟨s, rfl, hworking, hbuffer, hoptions, hdone, items, behind,
          hstream, rfl⟩
  | some pkt =>
      have hput := vtremotePayloadPacket_succeeds
        (if pkt.pts = avNoptsValue then 0 else pkt.pts)
        (if pkt.dts = avNoptsValue then
          (if pkt.pts = avNoptsValue then 0 else pkt.pts) else pkt.dts)
        (if 0 < pkt.duration then pkt.duration else 0)
        (if pkt.flags &&& avPktFlagKey ≠ 0 then 1 else 0)
        (b := vtremoteWbufReset s.pktBuf)
        ⟨VTRemoteWBuf.sound_reset s.pktBuf, hbuffer.grants⟩ (hpkt pkt rfl)
      have hret : (putPacket pkt (vtremoteWbufReset s.pktBuf)).1 = 0 := hput.1
      have hnonneg : ¬ (putPacket pkt (vtremoteWbufReset s.pktBuf)).1 < 0 := by
        rw [hret]
        exact Int.lt_irrefl 0
      rw [decodeSend, Call.get_bind, Call.modify_bind, dif_neg hnonneg]
      exact hsent .packet _ rfl hput.2 hoptions hdone

def eventReturn :
    Option (ServerFrame libs wireCompression) -> DecodeReturn
  | some message =>
      { ret := .ok ()
        gotFrame := true
        frame := some (message.decoded avctx frame) }
  | none => { ret := .ok (), gotFrame := false, frame := none }

def doneReturn : DecodeReturn :=
  { ret := .error averrorEof, gotFrame := false, frame := none }

theorem ffVtremoteDecode_of_body {σ : Type} {link : Link σ} {pkt : Option AVPacket}
    {s s' : VTRemoteDecContext σ} {r : Except AvError (Option AVFrame)}
    (h : decodeBody link libs avctx frame pkt s = .returned r s') :
    ffVtremoteDecode link libs avctx frame pkt s =
      .returned (.ok (DecodeReturn.ofResult r)) s' := by
  unfold ffVtremoteDecode
  rw [Call.bind_of_ok _ (Call.attempt_of_returned h)]
  rfl

theorem decodeBody_done {σ : Type} {link : Link σ} {pkt : Option AVPacket}
    {s : VTRemoteDecContext σ} (hdone : s.done = true) :
    decodeBody link libs avctx frame pkt s =
      .returned (.error averrorEof) s := by
  unfold decodeBody
  rw [Call.get_bind, if_pos hdone]
  rfl

theorem decodeBody_uses {s : VTRemoteDecContext Host}
    {events : List (Option (ServerFrame libs wireCompression))}
    (h : Streaming s events) {pkt : Option AVPacket}
    (hpkt : CanSend (packetToSend pkt)) :
    exists r s', decodeBody hostLink libs avctx frame pkt s = .returned r s' ∧
      Uses avctx frame events r s' := by
  rcases decodeSend_streaming h hpkt with ⟨s1, hsend, hstreaming⟩
  have hloop := decodeLoop_uses avctx frame hstreaming
  unfold decodeBody
  rw [Call.get_bind, if_neg (by rw [h.streaming]; exact Bool.false_ne_true),
    Call.bind_of_ok _ hsend, Call.get_bind]
  cases hcall : Call.loop (decodeRound hostLink libs avctx frame)
      (hostLink.left s1.fd + 1) s1 with
  | blocked s' =>
      rw [hcall] at hloop
      exact hloop.elim
  | returned r s' =>
      rw [hcall] at hloop
      exact ⟨r, s', rfl, hloop⟩

/-!
## Runs
-/

/-- The context of each call: the properties of its packet are the last ones. -/
def AVCodecContext.during (avctx : AVCodecContext) :
    List (Option AVPacket) -> List AVCodecContext
  | [] => []
  | pkt :: rest =>
      avctx.extractPacketProps pkt :: (avctx.extractPacketProps pkt).during rest

theorem AVCodecContext.length_during (avctx : AVCodecContext)
    (pkts : List (Option AVPacket)) : (avctx.during pkts).length = pkts.length := by
  induction pkts generalizing avctx with
  | nil => rfl
  | cons pkt rest ih => exact congrArg Nat.succ (ih (avctx.extractPacketProps pkt))

theorem AVCodecContext.eq_of_mem_during {avctx context : AVCodecContext}
    {pkts : List (Option AVPacket)} (h : context ∈ avctx.during pkts) :
    exists props, context = { avctx with lastPktProps := props } := by
  induction pkts generalizing avctx with
  | nil => cases h
  | cons pkt rest ih =>
      have hnext : exists props, avctx.extractPacketProps pkt =
          { avctx with lastPktProps := props } := by
        cases pkt with
        | none => exact ⟨avctx.lastPktProps, rfl⟩
        | some pkt => exact ⟨_, rfl⟩
      rcases hnext with ⟨props, hprops⟩
      rcases List.mem_cons.mp h with hfirst | hrest
      · exact ⟨props, hfirst.trans hprops⟩
      · rcases ih hrest with ⟨props', hcontext⟩
        rw [hprops] at hcontext
        exact ⟨props', hcontext⟩

def callsMeet (pkts : List (Option AVPacket))
    (events : List (Option (ServerFrame libs wireCompression))) :
    List (AVCodecContext × Option (ServerFrame libs wireCompression)) :=
  (avctx.during pkts).zip events

def eventReturns (events : List (Option (ServerFrame libs wireCompression)))
    (pkts : List (Option AVPacket)) : List DecodeReturn :=
  (callsMeet avctx pkts events).map (fun call => eventReturn call.1 frame call.2) ++
    List.replicate (pkts.length - events.length) doneReturn

theorem eventReturns_cons (event : Option (ServerFrame libs wireCompression))
    (events : List (Option (ServerFrame libs wireCompression)))
    (pkt : Option AVPacket) (pkts : List (Option AVPacket)) :
    eventReturns avctx frame (event :: events) (pkt :: pkts) =
      eventReturn (avctx.extractPacketProps pkt) frame event ::
        eventReturns (avctx.extractPacketProps pkt) frame events pkts := by
  unfold eventReturns
  rw [List.length_cons, List.length_cons, Nat.add_sub_add_right]
  rfl

theorem eventReturns_nil (pkts : List (Option AVPacket)) :
    eventReturns avctx frame ([] : List (Option (ServerFrame libs wireCompression)))
      pkts = List.replicate pkts.length doneReturn := by
  unfold eventReturns callsMeet
  rw [List.zip_nil_right]
  rfl

theorem decodeRun_cons {σ : Type} {link : Link σ} {avctx : AVCodecContext}
    {pkt : Option AVPacket} {pkts : List (Option AVPacket)}
    {s s1 s' : VTRemoteDecContext σ} {ret : DecodeReturn}
    {results : List DecodeReturn}
    (hcall : ffVtremoteDecode link libs (avctx.extractPacketProps pkt) frame pkt s =
      .returned (.ok ret) s1)
    (hrun : decodeRun link libs (avctx.extractPacketProps pkt) frame pkts s1 =
      .returned (.ok results) s') :
    decodeRun link libs avctx frame (pkt :: pkts) s =
      .returned (.ok (ret :: results)) s' := by
  have hrest : (decodeRun link libs (avctx.extractPacketProps pkt) frame pkts >>=
      fun results => pure (ret :: results)) s1 =
        .returned (.ok (ret :: results)) s' :=
    Call.bind_of_ok _ hrun
  exact (Call.bind_of_ok _ hcall).trans hrest

/-- Once DONE has been read, every call says so. -/
theorem decodeRun_done {σ : Type} {link : Link σ} (avctx : AVCodecContext)
    (pkts : List (Option AVPacket)) {s : VTRemoteDecContext σ} (hdone : s.done = true) :
    decodeRun link libs avctx frame pkts s =
      .returned (.ok (List.replicate pkts.length doneReturn)) s := by
  induction pkts generalizing avctx with
  | nil => rfl
  | cons pkt pkts ih =>
      have hbody : decodeBody link libs (avctx.extractPacketProps pkt) frame pkt s =
          .returned (.error averrorEof) s := decodeBody_done _ frame hdone
      exact decodeRun_cons frame (ffVtremoteDecode_of_body _ frame hbody)
        (ih (avctx.extractPacketProps pkt))

theorem decodeRun_events (avctx : AVCodecContext) (pkts : List (Option AVPacket))
    {s : VTRemoteDecContext Host}
    {events : List (Option (ServerFrame libs wireCompression))}
    (h : Streaming s events)
    (hpkts : forall pkt, pkt ∈ pkts -> CanSend (packetToSend pkt)) :
    exists s', decodeRun hostLink libs avctx frame pkts s =
      .returned (.ok (eventReturns avctx frame events pkts)) s' := by
  induction pkts generalizing s events avctx with
  | nil =>
      refine ⟨s, ?_⟩
      unfold eventReturns
      rw [List.length_nil, Nat.zero_sub]
      rfl
  | cons pkt pkts ih =>
      rcases decodeBody_uses (avctx.extractPacketProps pkt) frame h
        (hpkts pkt List.mem_cons_self) with ⟨r, s1, hbody, huses⟩
      have hcall := ffVtremoteDecode_of_body (avctx.extractPacketProps pkt) frame hbody
      have hpkts' : forall p, p ∈ pkts -> CanSend (packetToSend p) :=
        fun p hp => hpkts p (List.mem_cons_of_mem pkt hp)
      cases huses with
      | frame message hrest =>
          rcases ih (avctx.extractPacketProps pkt) hrest hpkts' with ⟨s', hrun⟩
          rw [eventReturns_cons]
          exact ⟨s', decodeRun_cons frame hcall hrun⟩
      | timeout hrest =>
          rcases ih (avctx.extractPacketProps pkt) hrest hpkts' with ⟨s', hrun⟩
          rw [eventReturns_cons]
          exact ⟨s', decodeRun_cons frame hcall hrun⟩
      | done hdone =>
          rw [eventReturns_nil]
          exact ⟨s1, decodeRun_cons frame hcall
            (decodeRun_done frame (avctx.extractPacketProps pkt) pkts hdone)⟩

end VTRemote
