import VTRemote.Client.Encoder

/-!
# How the encoder moves its connection

Whatever each operation of the link preserves, every function of the encoder
preserves.  The draining and receiving functions send PONG only.
-/

namespace VTRemote

attribute [local irreducible] cInt

section Moves

variable {σ : Type}

def VTRemoteEncContext.options (s : VTRemoteEncContext σ) :
    Nat × Int × AVCodecID × Bool :=
  (s.inflight, s.wireCompression, s.codecId, s.connected)

def OnFd (R : σ -> σ -> Prop) (s s' : VTRemoteEncContext σ) : Prop :=
  R s.fd s'.fd ∧ s'.options = s.options

instance (R : σ -> σ -> Prop) [h : IsPreorder σ R] :
    IsPreorder (VTRemoteEncContext σ) (OnFd R) where
  refl s := ⟨h.refl s.fd, rfl⟩
  trans _ _ _ h1 h2 := ⟨h.trans _ _ _ h1.1 h2.1, h2.2.trans h1.2⟩

/-- Only the connection and the buffers for compression and payloads have
changed. -/
def Prepares (R : σ -> σ -> Prop) (s s' : VTRemoteEncContext σ) : Prop :=
  R s.fd s'.fd ∧ exists fd frameBuf compBufCap zstdCctx,
    s' = { s with fd, frameBuf, compBufCap, zstdCctx }

instance (R : σ -> σ -> Prop) [h : IsPreorder σ R] :
    IsPreorder (VTRemoteEncContext σ) (Prepares R) where
  refl s :=
    ⟨h.refl s.fd, s.fd, s.frameBuf, s.compBufCap, s.zstdCctx, rfl⟩
  trans _ _ _ := by
    intro hfirst hsecond
    rcases hfirst with ⟨h1, _, _, _, _, rfl⟩
    rcases hsecond with ⟨h2, fd, frameBuf, compBufCap, zstdCctx, rfl⟩
    exact ⟨h.trans _ _ _ h1 h2, fd, frameBuf, compBufCap, zstdCctx, rfl⟩

theorem Prepares.onFd {R : σ -> σ -> Prop} {s s' : VTRemoteEncContext σ} :
    Prepares R s s' -> OnFd R s s' := by
  intro h
  rcases h with ⟨h, _, _, _, _, rfl⟩
  exact ⟨h, rfl⟩

/-- Only the connection, the queue and the counts of its packets have changed. -/
def Queues (R : σ -> σ -> Prop) (s s' : VTRemoteEncContext σ) : Prop :=
  R s.fd s'.fd ∧ exists fd pktQueue inflightFrames packetsRecv,
    s' = { s with fd, pktQueue, inflightFrames, packetsRecv }

instance (R : σ -> σ -> Prop) [h : IsPreorder σ R] :
    IsPreorder (VTRemoteEncContext σ) (Queues R) where
  refl s :=
    ⟨h.refl s.fd, s.fd, s.pktQueue, s.inflightFrames, s.packetsRecv, rfl⟩
  trans _ _ _ := by
    intro hfirst hsecond
    rcases hfirst with ⟨h1, _, _, _, _, rfl⟩
    rcases hsecond with ⟨h2, fd, pktQueue, inflightFrames, packetsRecv, rfl⟩
    exact ⟨h.trans _ _ _ h1 h2, fd, pktQueue, inflightFrames, packetsRecv, rfl⟩

theorem Queues.onFd {R : σ -> σ -> Prop} {s s' : VTRemoteEncContext σ} :
    Queues R s s' -> OnFd R s s' := by
  intro h
  rcases h with ⟨h, _, _, _, _, rfl⟩
  exact ⟨h, rfl⟩

structure Link.Moves (link : Link σ) (R : σ -> σ -> Prop)
    (sends : VTRemoteMsgType -> Prop) : Prop where
  sendMsg : forall type payload, sends type ->
    Call.Moves R (link.sendMsg type payload)
  readMsg : Call.Moves R link.readMsg
  readMsgNonblock : Call.Moves R link.readMsgNonblock
  malloc : Call.Moves R link.malloc
  packetRef : Call.Moves R link.packetRef

variable {link : Link σ} {R : σ -> σ -> Prop} [IsPreorder σ R]
  {sends : VTRemoteMsgType -> Prop}

omit [IsPreorder σ R] in
theorem onLink_moves {α : Type} {m : Call AvError σ α} (h : Call.Moves R m) :
    Call.Moves (OnFd R) (onLink m) := by
  intro s
  apply Call.ends_zoom
  exact (h s.fd).mono (fun _ _ hfd => ⟨hfd, rfl⟩) (fun _ hfd => ⟨hfd, rfl⟩)

omit [IsPreorder σ R] in
theorem onLink_prepares {α : Type} {m : Call AvError σ α}
    (h : Call.Moves R m) : Call.Moves (Prepares R) (onLink m) := by
  intro s
  apply Call.ends_zoom
  exact (h s.fd).mono
    (fun _ fd hfd => ⟨hfd, fd, s.frameBuf, s.compBufCap, s.zstdCctx, rfl⟩)
    (fun fd hfd => ⟨hfd, fd, s.frameBuf, s.compBufCap, s.zstdCctx, rfl⟩)

theorem ignored_moves {Q : VTRemoteEncContext σ -> VTRemoteEncContext σ -> Prop}
    [IsPreorder (VTRemoteEncContext σ) Q] {α : Type} {m : EncCall σ α}
    (h : Call.Moves Q m) : Call.Moves Q (ignored m) :=
  Call.Moves.bind (Call.Moves.attempt h) fun _ => Call.Moves.pure ()

theorem modify_moves {f : VTRemoteEncContext σ -> VTRemoteEncContext σ}
    (h : forall s, ((f s).fd, (f s).options) = (s.fd, s.options)) :
    Call.Moves (OnFd R) (Call.modify f : EncCall σ Unit) := by
  apply Call.Moves.modify
  intro s
  have hs := h s
  injection hs with hfd hoptions
  refine ⟨?_, hoptions⟩
  rw [hfd]
  exact refl_of R s.fd

theorem orFail_moves {α : Type} (r : Except AvError α) :
    Call.Moves (OnFd R) (orFail r : EncCall σ α) := by
  cases r with
  | ok a => exact Call.Moves.pure a
  | error e => exact Call.Moves.fail e

theorem prepareCompression_prepares (hmalloc : Call.Moves R link.malloc)
    (libs : CompressionLibraries) (frame : AVFrame) (i : Fin 2) :
    Call.Moves (Prepares R) (prepareCompression link libs frame i) := by
  have hgrow : forall bound,
      Call.Moves (Prepares R) (growCompBuf link i bound) := by
    intro bound
    apply Call.Moves.bind Call.Moves.get
    intro s
    apply Call.Moves.when
    apply Call.Moves.bind (onLink_prepares hmalloc)
    intro _
    apply Call.Moves.modify
    intro s
    exact ⟨refl_of R s.fd, s.fd, s.frameBuf, _, s.zstdCctx, rfl⟩
  have hcctx : Call.Moves (Prepares R) (createCctx link) := by
    apply Call.Moves.bind Call.Moves.get
    intro s
    apply Call.Moves.when
    apply Call.Moves.bind (onLink_prepares hmalloc)
    intro _
    apply Call.Moves.modify
    intro s
    exact ⟨refl_of R s.fd, s.fd, s.frameBuf, s.compBufCap, true, rfl⟩
  apply Call.Moves.bind Call.Moves.get
  intro s
  split
  · show Call.Moves (Prepares R) (if _ then _ else _)
    split
    · exact Call.Moves.fail _
    · apply Call.Moves.bind (hgrow _)
      intro _
      exact hcctx
  · exact Call.Moves.pure ()

omit [IsPreorder σ R] in
theorem prepareCompression_returns (hmalloc : Call.Returns link.malloc)
    (libs : CompressionLibraries) (frame : AVFrame) (i : Fin 2) :
    Call.Returns (prepareCompression link libs frame i) := by
  have hgrow : forall bound, Call.Returns (growCompBuf link i bound) := by
    intro bound
    apply Call.Returns.bind Call.Returns.get
    intro s
    apply Call.Returns.when
    apply Call.Returns.bind (Call.Returns.zoom hmalloc)
    intro _
    exact Call.Returns.modify _
  have hcctx : Call.Returns (createCctx link) := by
    apply Call.Returns.bind Call.Returns.get
    intro s
    apply Call.Returns.when
    apply Call.Returns.bind (Call.Returns.zoom hmalloc)
    intro _
    exact Call.Returns.modify _
  apply Call.Returns.bind Call.Returns.get
  intro s
  split
  · show Call.Returns (if _ then _ else _)
    split
    · exact Call.Returns.fail _
    · apply Call.Returns.bind (hgrow _)
      intro _
      exact hcctx
  · exact Call.Returns.pure ()

/-!
## The queue
-/

omit [IsPreorder σ R] in
theorem onLink_queues {α : Type} {m : Call AvError σ α} (h : Call.Moves R m) :
    Call.Moves (Queues R) (onLink m) := by
  intro s
  apply Call.ends_zoom
  exact (h s.fd).mono
    (fun _ fd hfd => ⟨hfd, fd, s.pktQueue, s.inflightFrames, s.packetsRecv, rfl⟩)
    (fun fd hfd => ⟨hfd, fd, s.pktQueue, s.inflightFrames, s.packetsRecv, rfl⟩)

theorem modify_queues (queue : VTRemoteEncContext σ -> Ring AVPacket)
    (frames packets : VTRemoteEncContext σ -> Nat) :
    Call.Moves (Queues R) (Call.modify (fun s =>
      { s with
        pktQueue := queue s
        inflightFrames := frames s
        packetsRecv := packets s }) : EncCall σ Unit) := by
  apply Call.Moves.modify
  intro s
  exact ⟨refl_of R s.fd, s.fd, queue s, frames s, packets s, rfl⟩

theorem allocateQueue_queues (hmalloc : Call.Moves R link.malloc) :
    Call.Moves (Queues R) (allocateQueue link) := by
  apply Call.Moves.bind Call.Moves.get
  intro s
  split
  · apply Call.Moves.bind (onLink_queues hmalloc)
    intro _
    exact modify_queues (fun s => Ring.new (max 4 (s.inflight * 2))) _ _
  · exact Call.Moves.pure ()

theorem enqueuePacket_queues (hmalloc : Call.Moves R link.malloc)
    (payload : Bytes) (payloadSize : Int) :
    Call.Moves (Queues R) (enqueuePacket link payload payloadSize) := by
  unfold enqueuePacket
  cases vtremoteParsePacket payload payloadSize with
  | error e => exact Call.Moves.fail e.code
  | ok view =>
      apply Call.Moves.bind Call.Moves.get
      intro s
      split
      · exact Call.Moves.fail _
      · apply Call.Moves.bind
        · exact modify_queues (fun s => s.pktQueue.store default) _ _
        intro _
        apply Call.Moves.bind
        · unfold avNewPacket
          split
          · exact Call.Moves.fail _
          · exact onLink_queues hmalloc
        · intro _
          apply Call.Moves.bind
          · exact modify_queues (fun s => s.pktQueue.store view.toAVPacket) _ _
          intro _
          apply Call.Moves.bind Call.Moves.get
          intro s
          split
          · exact modify_queues (fun s => s.pktQueue.grow) _ fun s => s.packetsRecv + 1
          · exact Call.Moves.fail _

theorem popPacket_queues (href : Call.Moves R link.packetRef) :
    Call.Moves (Queues R) (popPacket link) := by
  apply Call.Moves.bind Call.Moves.get
  intro s
  apply Call.Moves.bind (Call.Moves.attempt (onLink_queues href))
  intro rc
  apply Call.Moves.bind
  · exact modify_queues (fun s => s.pktQueue.pop) _ _
  intro _
  exact Call.Moves.pure _

theorem releaseSlot_queues :
    Call.Moves (Queues R) (releaseSlot : EncCall σ Unit) :=
  modify_queues _ (fun s => s.inflightFrames - 1) _

theorem takePacket_queues (href : Call.Moves R link.packetRef) :
    Call.Moves (Queues R) (takePacket link) := by
  apply Call.Moves.bind (popPacket_queues href)
  intro rc
  cases rc with
  | ok pkt => exact Call.Moves.pure pkt
  | error e => exact Call.Moves.fail e

theorem popReceived_queues (href : Call.Moves R link.packetRef) :
    Call.Moves (Queues R) (popReceived link) := by
  apply Call.Moves.bind Call.Moves.get
  intro s
  split
  · apply Call.Moves.bind (popPacket_queues href)
    intro rc
    apply Call.Moves.bind releaseSlot_queues
    intro _
    cases rc with
    | ok pkt => exact Call.Moves.pure _
    | error e => exact Call.Moves.fail e
  · exact Call.Moves.fail _

/-!
## Receiving
-/

variable (hlink : link.Moves R sends)
include hlink

theorem enqueuePacket_moves (payload : Bytes) (payloadSize : Int) :
    Call.Moves (OnFd R) (enqueuePacket link payload payloadSize) :=
  (enqueuePacket_queues hlink.malloc payload payloadSize).mono
    fun _ _ => Queues.onFd

theorem popPacket_moves : Call.Moves (OnFd R) (popPacket link) :=
  (popPacket_queues hlink.packetRef).mono fun _ _ => Queues.onFd

omit hlink in
theorem releaseSlot_moves : Call.Moves (OnFd R) (releaseSlot : EncCall σ Unit) :=
  modify_moves fun _ => rfl

theorem handleOther_moves (hpong : sends .pong) (hdr : VTRemoteMsgHeader) :
    Call.Moves (OnFd R) (handleOther link hdr) := by
  unfold handleOther
  split
  · exact ignored_moves (onLink_moves (hlink.sendMsg .pong _ hpong))
  · exact Call.Moves.fail _
  · exact Call.Moves.pure ()

theorem drainMessage_moves (hpong : sends .pong) (hdr : VTRemoteMsgHeader)
    (payload : Bytes) : Call.Moves (OnFd R) (drainMessage link hdr payload) := by
  unfold drainMessage
  split
  · apply Call.Moves.bind (enqueuePacket_moves hlink _ _)
    intro _
    apply Call.Moves.bind releaseSlot_moves
    intro _
    exact Call.Moves.pure _
  · apply Call.Moves.bind
    · exact modify_moves fun _ => rfl
    intro _
    exact Call.Moves.pure _
  · apply Call.Moves.bind (handleOther_moves hlink hpong _)
    intro _
    exact Call.Moves.pure _

theorem drainRound_moves (hpong : sends .pong) :
    Call.Moves (OnFd R) (drainRound link) := by
  apply Call.Moves.bind Call.Moves.get
  intro s
  split
  · apply Call.Moves.bind
      (Call.Moves.attempt (onLink_moves hlink.readMsgNonblock))
    intro result
    cases result with
    | error e =>
        show Call.Moves (OnFd R) (if e = averror eagain then _ else _)
        split
        · exact Call.Moves.pure _
        · exact Call.Moves.fail e
    | ok message => exact drainMessage_moves hlink hpong _ _
  · exact Call.Moves.pure _

theorem vtremoteDrainAvailablePackets_moves (hpong : sends .pong) :
    Call.Moves (OnFd R) (vtremoteDrainAvailablePackets link) := by
  apply Call.Moves.bind Call.Moves.get
  intro s
  exact Call.Moves.loop (drainRound_moves hlink hpong) _

theorem takePacket_moves : Call.Moves (OnFd R) (takePacket link) :=
  (takePacket_queues hlink.packetRef).mono fun _ _ => Queues.onFd

theorem popReceived_moves : Call.Moves (OnFd R) (popReceived link) :=
  (popReceived_queues hlink.packetRef).mono fun _ _ => Queues.onFd

theorem receiveMessage_moves (hpong : sends .pong) (hdr : VTRemoteMsgHeader)
    (payload : Bytes) :
    Call.Moves (OnFd R) (receiveMessage link hdr payload) := by
  unfold receiveMessage
  split
  · apply Call.Moves.bind (enqueuePacket_moves hlink _ _)
    intro _
    exact popReceived_moves hlink
  · apply Call.Moves.bind
    · exact modify_moves fun _ => rfl
    intro _
    exact Call.Moves.fail _
  · apply Call.Moves.bind (handleOther_moves hlink hpong _)
    intro _
    exact Call.Moves.pure _

theorem receiveRound_moves (hpong : sends .pong) :
    Call.Moves (OnFd R) (receiveRound link) := by
  apply Call.Moves.bind (onLink_moves hlink.readMsg)
  intro message
  exact receiveMessage_moves hlink hpong _ _

theorem ffVtremoteCommonReceivePacket_moves (hpong : sends .pong) :
    Call.Moves (OnFd R) (ffVtremoteCommonReceivePacket link) := by
  apply Call.Moves.bind Call.Moves.get
  intro s
  split
  · exact Call.Moves.fail _
  · split
    · exact takePacket_moves hlink
    · exact Call.Moves.loop (receiveRound_moves hlink hpong) _

theorem allocateQueue_moves : Call.Moves (OnFd R) (allocateQueue link) :=
  (allocateQueue_queues hlink.malloc).mono fun _ _ => Queues.onFd

theorem openingDrain_moves (hpong : sends .pong) :
    Call.Moves (OnFd R) (openingDrain link) := by
  apply Call.Moves.bind (allocateQueue_moves hlink)
  intro _
  apply Call.Moves.bind
    (Call.Moves.attempt (vtremoteDrainAvailablePackets_moves hlink hpong))
  intro result
  cases result with
  | ok _ => exact Call.Moves.pure ()
  | error e =>
      show Call.Moves (OnFd R) (if e = averror eagain then _ else _)
      split
      · exact Call.Moves.pure ()
      · exact Call.Moves.fail e

/-!
## Sending
-/

theorem sendPayload_moves (hframe : sends .frame) (frame : AVFrame)
    (planes : List FramePlane) :
    Call.Moves (OnFd R) (sendPayload link frame planes) := by
  apply Call.Moves.bind Call.Moves.get
  intro s
  apply Call.Moves.bind
  · exact modify_moves fun _ => rfl
  intro _
  split
  · exact Call.Moves.fail _
  · apply Call.Moves.bind (onLink_moves (hlink.sendMsg .frame _ hframe))
    intro _
    exact modify_moves fun _ => rfl

variable (libs : CompressionLibraries)

theorem ffVtremoteCommonSendFrame_moves (hflush : sends .flush)
    (hframe : sends .frame) (frame : Option AVFrame) :
    Call.Moves (OnFd R) (ffVtremoteCommonSendFrame link libs frame) := by
  cases frame with
  | none =>
      apply Call.Moves.bind Call.Moves.get
      intro s
      split
      · exact Call.Moves.fail _
      · apply Call.Moves.bind
        · exact modify_moves fun _ => rfl
        intro _
        exact onLink_moves (hlink.sendMsg .flush _ hflush)
  | some frame =>
      apply Call.Moves.bind Call.Moves.get
      intro s
      split
      · exact Call.Moves.fail _
      · split
        · exact Call.Moves.fail _
        · apply Call.Moves.bind ((prepareCompression_prepares hlink.malloc libs frame 0).mono
            fun _ _ => Prepares.onFd)
          intro _
          apply Call.Moves.bind (orFail_moves _)
          intro plane0
          apply Call.Moves.bind ((prepareCompression_prepares hlink.malloc libs frame 1).mono
            fun _ _ => Prepares.onFd)
          intro _
          apply Call.Moves.bind (orFail_moves _)
          intro plane1
          exact sendPayload_moves hlink hframe frame _

/-!
## Behind the drain

What popping, sending and receiving do to a context, the rest of a call does.
-/

section BehindDrain

variable {Q : VTRemoteEncContext σ -> VTRemoteEncContext σ -> Prop}
  [IsPreorder (VTRemoteEncContext σ) Q] {frame : Option AVFrame}

omit hlink in
theorem unlessEof_moves {m : EncCall σ Unit} (h : Call.Moves Q m) :
    Call.Moves Q (unlessEof m) := by
  apply Call.Moves.bind (Call.Moves.attempt h)
  intro result
  cases result with
  | ok _ => exact Call.Moves.pure ()
  | error e =>
      show Call.Moves Q (if e = averrorEof then _ else _)
      split
      · exact Call.Moves.pure ()
      · exact Call.Moves.fail e

variable (hpop : Call.Moves Q (popPacket link))
  (hsend : Call.Moves Q (ffVtremoteCommonSendFrame link libs frame))
  (hflush : Call.Moves Q (ffVtremoteCommonSendFrame link libs none))
  (hreceive : Call.Moves Q (ffVtremoteCommonReceivePacket link))
include hpop hsend hflush hreceive

omit hlink hflush hreceive in
theorem returnQueued_moves : Call.Moves Q (returnQueued link libs frame) := by
  apply Call.Moves.bind hpop
  intro rc
  apply Call.Moves.bind Call.Moves.get
  intro s
  apply Call.Moves.bind (Call.Moves.when (ignored_moves hsend))
  intro _
  exact Call.Moves.pure _

omit hlink hpop hflush in
theorem waitForPacket_moves : Call.Moves Q (waitForPacket link libs frame) := by
  apply Call.Moves.bind (Call.Moves.attempt hreceive)
  intro result
  cases result with
  | ok pkt =>
      apply Call.Moves.bind (ignored_moves hsend)
      intro _
      exact Call.Moves.pure _
  | error e => exact Call.Moves.pure _

omit hlink hpop hsend hflush in
theorem finishCall_moves (frame : Option AVFrame) :
    Call.Moves Q (finishCall link frame) := by
  apply Call.Moves.bind Call.Moves.get
  intro s
  split
  · apply Call.Moves.bind (Call.Moves.attempt hreceive)
    intro result
    cases result with
    | ok pkt => exact Call.Moves.pure _
    | error e => exact Call.Moves.pure _
  · exact Call.Moves.pure _

omit hlink hpop in
theorem encodeUnqueued_moves (draining : Bool) :
    Call.Moves Q (encodeUnqueued link libs frame draining) := by
  apply Call.Moves.bind Call.Moves.get
  intro s
  apply Call.Moves.bind (Call.Moves.when (unlessEof_moves hsend))
  intro _
  apply Call.Moves.bind Call.Moves.get
  intro s
  split
  · exact waitForPacket_moves libs hsend hreceive
  · apply Call.Moves.bind (Call.Moves.when (unlessEof_moves hflush))
    intro _
    exact finishCall_moves hreceive frame

omit hlink in
theorem encodeDrained_moves (draining : Bool) (s : VTRemoteEncContext σ) :
    Call.Moves Q (if 0 < s.pktQueue.count then returnQueued link libs frame
      else encodeUnqueued link libs frame draining) := by
  split
  · exact returnQueued_moves libs hpop hsend
  · exact encodeUnqueued_moves libs hsend hflush hreceive draining

end BehindDrain

/-!
## The encode callback
-/

variable (hpong : sends .pong) (hflush : sends .flush) (hframe : sends .frame)
include hpong hflush hframe

theorem ffVtremoteEncode_moves (frame : Option AVFrame) (draining : Bool) :
    Call.Moves (OnFd R) (ffVtremoteEncode link libs frame draining) := by
  have hbody : Call.Moves (OnFd R) (encodeBody link libs frame draining) := by
    have hsend := ffVtremoteCommonSendFrame_moves hlink libs hflush hframe
    apply Call.Moves.bind (openingDrain_moves hlink hpong)
    intro _
    apply Call.Moves.bind Call.Moves.get
    intro s
    exact encodeDrained_moves libs (popPacket_moves hlink) (hsend frame) (hsend none)
      (ffVtremoteCommonReceivePacket_moves hlink hpong) draining s
  apply Call.Moves.bind (Call.Moves.attempt hbody)
  intro result
  exact Call.Moves.pure _

theorem encodeRun_moves (inputs : List EncodeInput) :
    Call.Moves (OnFd R) (encodeRun link libs inputs) := by
  induction inputs with
  | nil => exact Call.Moves.pure []
  | cons input rest ih =>
      apply Call.Moves.bind
        (ffVtremoteEncode_moves hlink libs hpong hflush hframe _ _)
      intro result
      apply Call.Moves.bind ih
      intro results
      exact Call.Moves.pure _

end Moves
end VTRemote
