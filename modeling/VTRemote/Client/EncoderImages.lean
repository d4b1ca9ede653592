import VTRemote.Client.DecoderImages
import VTRemote.Client.Encoder

/-!
# The encoder on the image of its connection

When every operation of one connection shows as the same operation of another,
the encoder does the same on both.
-/

namespace VTRemote

attribute [local irreducible] cInt

open Call

variable {σ τ : Type}

structure Link.ShowsAll (f : σ -> τ) (link : Link σ) (link' : Link τ) : Prop extends
    link.Shows f link' where
  readMsgNonblock : Call.Shows f link.readMsgNonblock link'.readMsgNonblock
  packetRef : Call.Shows f link.packetRef link'.packetRef
  same_left : forall fd, link'.left (f fd) = link.left fd

def VTRemoteEncContext.mapFd (f : σ -> τ) (s : VTRemoteEncContext σ) :
    VTRemoteEncContext τ where
  fd := f s.fd
  inflight := s.inflight
  wireCompression := s.wireCompression
  codecId := s.codecId
  connected := s.connected
  flushing := s.flushing
  done := s.done
  inflightFrames := s.inflightFrames
  framesSent := s.framesSent
  packetsRecv := s.packetsRecv
  pktQueue := s.pktQueue
  frameBuf := s.frameBuf
  compBufCap := s.compBufCap
  zstdCctx := s.zstdCctx

abbrev EncShows (f : σ -> τ) {α : Type} (m : EncCall σ α) (m' : EncCall τ α) : Prop :=
  Call.Shows (VTRemoteEncContext.mapFd f) m m'

section Encoder

variable {f : σ -> τ} {link : Link σ} {link' : Link τ}

theorem onLink_shows {α : Type} {m : Call AvError σ α} {m' : Call AvError τ α}
    (h : Call.Shows f m m') : EncShows f (onLink m) (onLink m') :=
  Call.Shows.zoom h (fun _ => rfl) (fun _ _ => rfl)

theorem ignored_shows {α : Type} {m : EncCall σ α} {m' : EncCall τ α}
    (h : EncShows f m m') : EncShows f (ignored m) (ignored m') := by
  apply Shows.bind (Shows.attempt h)
  intro _
  exact Shows.pure _

theorem unlessEof_shows {m : EncCall σ Unit} {m' : EncCall τ Unit}
    (h : EncShows f m m') : EncShows f (unlessEof m) (unlessEof m') := by
  apply Shows.bind (Shows.attempt h)
  intro result
  cases result with
  | ok _ => exact Shows.pure _
  | error e =>
      dsimp only
      split
      · exact Shows.pure _
      · exact Shows.fail _

theorem orFail_shows {α : Type} (r : Except AvError α) :
    EncShows f (orFail r) (orFail r) := by
  cases r with
  | ok a => exact Shows.pure a
  | error e => exact Shows.fail e

variable (hlink : link.ShowsAll f link')
include hlink

/-!
## The queue
-/

theorem avNewPacket_shows (size : Int) :
    EncShows f (avNewPacket link size) (avNewPacket link' size) := by
  unfold avNewPacket
  split
  · exact Shows.fail _
  · exact onLink_shows hlink.malloc

theorem enqueuePacket_shows (payload : Bytes) (payloadSize : Int) :
    EncShows f (enqueuePacket link payload payloadSize)
      (enqueuePacket link' payload payloadSize) := by
  unfold enqueuePacket
  split
  · exact Shows.fail _
  · apply Shows.get_bind
    intro s
    dsimp only [VTRemoteEncContext.mapFd]
    split
    · exact Shows.fail _
    · refine Shows.modify_bind (fun _ => rfl) ?_
      apply Shows.bind (avNewPacket_shows hlink _)
      intro _
      refine Shows.modify_bind (fun _ => rfl) ?_
      apply Shows.get_bind
      intro s
      dsimp only [VTRemoteEncContext.mapFd]
      split
      · exact Shows.modify fun _ => rfl
      · exact Shows.fail _

theorem popPacket_shows : EncShows f (popPacket link) (popPacket link') := by
  apply Shows.get_bind
  intro s
  apply Shows.bind (Shows.attempt (onLink_shows hlink.packetRef))
  intro rc
  refine Shows.modify_bind (fun _ => rfl) ?_
  exact Shows.pure _

theorem allocateQueue_shows :
    EncShows f (allocateQueue link) (allocateQueue link') := by
  apply Shows.get_bind
  intro s
  dsimp only [VTRemoteEncContext.mapFd]
  split
  · apply Shows.bind (onLink_shows hlink.malloc)
    intro _
    exact Shows.modify fun _ => rfl
  · exact Shows.pure ()

/-!
## Receiving
-/

theorem handleOther_shows (hdr : VTRemoteMsgHeader) :
    EncShows f (handleOther link hdr) (handleOther link' hdr) := by
  unfold handleOther
  split
  · exact ignored_shows (onLink_shows (hlink.sendMsg _ _))
  · exact Shows.fail _
  · exact Shows.pure ()

theorem drainMessage_shows (hdr : VTRemoteMsgHeader) (payload : Bytes) :
    EncShows f (drainMessage link hdr payload) (drainMessage link' hdr payload) := by
  unfold drainMessage
  split
  · apply Shows.bind (enqueuePacket_shows hlink _ _)
    intro _
    refine Shows.modify_bind (fun _ => rfl) ?_
    exact Shows.pure _
  · refine Shows.modify_bind (fun _ => rfl) ?_
    exact Shows.pure _
  · apply Shows.bind (handleOther_shows hlink hdr)
    intro _
    exact Shows.pure _

theorem drainRound_shows : EncShows f (drainRound link) (drainRound link') := by
  apply Shows.get_bind
  intro s
  dsimp only [VTRemoteEncContext.mapFd]
  split
  · apply Shows.bind (Shows.attempt (onLink_shows hlink.readMsgNonblock))
    intro result
    cases result with
    | error e =>
        dsimp only
        split
        · exact Shows.pure _
        · exact Shows.fail _
    | ok message => exact drainMessage_shows hlink _ _
  · exact Shows.pure _

theorem loop_left_shows {α : Type} {body : EncCall σ (Option α)}
    {body' : EncCall τ (Option α)} (h : EncShows f body body') :
    EncShows f (Call.get >>= fun s => Call.loop body (link.left s.fd + 1))
      (Call.get >>= fun s => Call.loop body' (link'.left s.fd + 1)) := by
  apply Shows.get_bind
  intro s
  rw [show link'.left (s.mapFd f).fd = link.left s.fd from hlink.same_left s.fd]
  exact Shows.loop h _

theorem openingDrain_shows : EncShows f (openingDrain link) (openingDrain link') := by
  apply Shows.bind (allocateQueue_shows hlink)
  intro _
  apply Shows.bind (Shows.attempt (loop_left_shows hlink (drainRound_shows hlink)))
  intro result
  cases result with
  | ok _ => exact Shows.pure _
  | error e =>
      dsimp only
      split
      · exact Shows.pure _
      · exact Shows.fail _

theorem popReceived_shows : EncShows f (popReceived link) (popReceived link') := by
  apply Shows.get_bind
  intro s
  dsimp only [VTRemoteEncContext.mapFd]
  split
  · apply Shows.bind (popPacket_shows hlink)
    intro rc
    refine Shows.modify_bind (fun _ => rfl) ?_
    cases rc with
    | ok pkt => exact Shows.pure _
    | error e => exact Shows.fail _
  · exact Shows.fail _

theorem receiveMessage_shows (hdr : VTRemoteMsgHeader) (payload : Bytes) :
    EncShows f (receiveMessage link hdr payload)
      (receiveMessage link' hdr payload) := by
  unfold receiveMessage
  split
  · apply Shows.bind (enqueuePacket_shows hlink _ _)
    intro _
    exact popReceived_shows hlink
  · refine Shows.modify_bind (fun _ => rfl) ?_
    exact Shows.fail _
  · apply Shows.bind (handleOther_shows hlink hdr)
    intro _
    exact Shows.pure _

theorem receiveRound_shows : EncShows f (receiveRound link) (receiveRound link') := by
  apply Shows.bind (onLink_shows hlink.readMsg)
  intro message
  exact receiveMessage_shows hlink _ _

theorem takePacket_shows : EncShows f (takePacket link) (takePacket link') := by
  apply Shows.bind (popPacket_shows hlink)
  intro rc
  cases rc with
  | ok pkt => exact Shows.pure _
  | error e => exact Shows.fail _

theorem ffVtremoteCommonReceivePacket_shows :
    EncShows f (ffVtremoteCommonReceivePacket link)
      (ffVtremoteCommonReceivePacket link') := by
  apply Shows.get_bind
  intro s
  dsimp only [VTRemoteEncContext.mapFd]
  split
  · exact Shows.fail _
  · split
    · exact takePacket_shows hlink
    · rw [hlink.same_left s.fd]
      exact Shows.loop (receiveRound_shows hlink) _

/-!
## Sending
-/

variable (libs : CompressionLibraries)

theorem growCompBuf_shows (i : Fin 2) (bound : Int) :
    EncShows f (growCompBuf link i bound) (growCompBuf link' i bound) := by
  apply Shows.get_bind
  intro s
  apply Shows.when
  apply Shows.bind (onLink_shows hlink.malloc)
  intro _
  exact Shows.modify fun _ => rfl

theorem createCctx_shows : EncShows f (createCctx link) (createCctx link') := by
  apply Shows.get_bind
  intro s
  apply Shows.when
  apply Shows.bind (onLink_shows hlink.malloc)
  intro _
  exact Shows.modify fun _ => rfl

theorem prepareCompression_shows (frame : AVFrame) (i : Fin 2) :
    EncShows f (prepareCompression link libs frame i)
      (prepareCompression link' libs frame i) := by
  apply Shows.get_bind
  intro s
  dsimp only [VTRemoteEncContext.mapFd]
  split
  · split
    · exact Shows.fail _
    · apply Shows.bind (growCompBuf_shows hlink i _)
      intro _
      exact createCctx_shows hlink
  · exact Shows.pure _

theorem sendPayload_shows (frame : AVFrame) (planes : List FramePlane) :
    EncShows f (sendPayload link frame planes) (sendPayload link' frame planes) := by
  have hput : forall put : Int × VTRemoteWBuf, EncShows f
      (if h : put.1 < 0 then Call.fail ⟨put.1, h⟩
        else do
          onLink (link.sendMsg .frame put.2.payload)
          Call.modify fun s =>
            { s with
              inflightFrames := s.inflightFrames + 1
              framesSent := s.framesSent + 1 })
      (if h : put.1 < 0 then Call.fail ⟨put.1, h⟩
        else do
          onLink (link'.sendMsg .frame put.2.payload)
          Call.modify fun s =>
            { s with
              inflightFrames := s.inflightFrames + 1
              framesSent := s.framesSent + 1 }) := by
    intro put
    by_cases hneg : put.1 < 0
    · rw [dif_pos hneg, dif_pos hneg]
      exact Shows.fail _
    · rw [dif_neg hneg, dif_neg hneg]
      apply Shows.bind (onLink_shows (hlink.sendMsg _ _))
      intro _
      exact Shows.modify fun _ => rfl
  apply Shows.get_bind
  intro s
  refine Shows.modify_bind (fun _ => rfl) ?_
  exact hput (putFrame frame planes (vtremoteWbufReset s.frameBuf))

theorem ffVtremoteCommonSendFrame_shows (frame : Option AVFrame) :
    EncShows f (ffVtremoteCommonSendFrame link libs frame)
      (ffVtremoteCommonSendFrame link' libs frame) := by
  cases frame with
  | none =>
      apply Shows.get_bind
      intro s
      dsimp only [VTRemoteEncContext.mapFd]
      split
      · exact Shows.fail _
      · refine Shows.modify_bind (fun _ => rfl) ?_
        exact onLink_shows (hlink.sendMsg _ _)
  | some frame =>
      apply Shows.get_bind
      intro s
      dsimp only [VTRemoteEncContext.mapFd]
      split
      · exact Shows.fail _
      split
      · exact Shows.fail _
      apply Shows.bind (prepareCompression_shows hlink libs frame 0)
      intro _
      apply Shows.bind (orFail_shows _)
      intro plane0
      apply Shows.bind (prepareCompression_shows hlink libs frame 1)
      intro _
      apply Shows.bind (orFail_shows _)
      intro plane1
      exact sendPayload_shows hlink frame _

/-!
## Calls
-/

theorem returnQueued_shows (frame : Option AVFrame) :
    EncShows f (returnQueued link libs frame) (returnQueued link' libs frame) := by
  apply Shows.bind (popPacket_shows hlink)
  intro rc
  apply Shows.get_bind
  intro s
  apply Shows.bind
    (Shows.when (ignored_shows (ffVtremoteCommonSendFrame_shows hlink libs frame)))
  intro _
  exact Shows.pure _

theorem waitForPacket_shows (frame : Option AVFrame) :
    EncShows f (waitForPacket link libs frame) (waitForPacket link' libs frame) := by
  apply Shows.bind (Shows.attempt (ffVtremoteCommonReceivePacket_shows hlink))
  intro result
  cases result with
  | ok pkt =>
      apply Shows.bind (ignored_shows (ffVtremoteCommonSendFrame_shows hlink libs frame))
      intro _
      exact Shows.pure _
  | error e => exact Shows.pure _

theorem finishCall_shows (frame : Option AVFrame) :
    EncShows f (finishCall link frame) (finishCall link' frame) := by
  apply Shows.get_bind
  intro s
  dsimp only [VTRemoteEncContext.mapFd]
  split
  · apply Shows.bind (Shows.attempt (ffVtremoteCommonReceivePacket_shows hlink))
    intro result
    cases result with
    | ok pkt => exact Shows.pure _
    | error e => exact Shows.pure _
  · exact Shows.pure _

theorem encodeSubmitted_shows (frame : Option AVFrame) (draining : Bool) :
    EncShows f (encodeSubmitted link libs frame draining)
      (encodeSubmitted link' libs frame draining) := by
  apply Shows.get_bind
  intro s
  dsimp only [VTRemoteEncContext.mapFd]
  split
  · exact waitForPacket_shows hlink libs frame
  · apply Shows.bind
      (Shows.when (unlessEof_shows (ffVtremoteCommonSendFrame_shows hlink libs none)))
    intro _
    exact finishCall_shows hlink frame

theorem encodeUnqueued_shows (frame : Option AVFrame) (draining : Bool) :
    EncShows f (encodeUnqueued link libs frame draining)
      (encodeUnqueued link' libs frame draining) := by
  apply Shows.get_bind
  intro s
  apply Shows.bind
    (Shows.when (unlessEof_shows (ffVtremoteCommonSendFrame_shows hlink libs frame)))
  intro _
  exact encodeSubmitted_shows hlink libs frame draining

theorem encodeBody_shows (frame : Option AVFrame) (draining : Bool) :
    EncShows f (encodeBody link libs frame draining)
      (encodeBody link' libs frame draining) := by
  apply Shows.bind (openingDrain_shows hlink)
  intro _
  apply Shows.get_bind
  intro s
  dsimp only [VTRemoteEncContext.mapFd]
  split
  · exact returnQueued_shows hlink libs frame
  · exact encodeUnqueued_shows hlink libs frame draining

theorem ffVtremoteEncode_shows (frame : Option AVFrame) (draining : Bool) :
    EncShows f (ffVtremoteEncode link libs frame draining)
      (ffVtremoteEncode link' libs frame draining) := by
  apply Shows.bind (Shows.attempt (encodeBody_shows hlink libs frame draining))
  intro result
  exact Shows.pure _

end Encoder
end VTRemote
