import VTRemote.Client.Decoder
import VTRemote.Client.EncoderFuel
import VTRemote.Library.CallImages

/-!
# The decoder on the image of its connection

When every operation of one connection shows as the same operation of another,
the decoder returns the same on both.
-/

namespace VTRemote

attribute [local irreducible] cInt

open Call

variable {σ τ : Type}

/-- Each operation of the first connection ends as that of the second does in the
image, of which no more messages are left. -/
structure Link.Shows (f : σ -> τ) (link : Link σ) (link' : Link τ) : Prop where
  sendMsg : forall type payload,
    Call.Shows f (link.sendMsg type payload) (link'.sendMsg type payload)
  readMsg : Call.Shows f link.readMsg link'.readMsg
  malloc : Call.Shows f link.malloc link'.malloc
  left : forall fd, link'.left (f fd) ≤ link.left fd

def VTRemoteDecContext.mapFd (f : σ -> τ) (s : VTRemoteDecContext σ) :
    VTRemoteDecContext τ where
  fd := f s.fd
  wireCompression := s.wireCompression
  flushing := s.flushing
  done := s.done
  pktBuf := s.pktBuf
  compBufCap := s.compBufCap
  zstdDctx := s.zstdDctx

abbrev DecShows (f : σ -> τ) {α : Type} (m : DecCall σ α) (m' : DecCall τ α) : Prop :=
  Call.Shows (VTRemoteDecContext.mapFd f) m m'

/-!
## Fuel
-/

section Fuel

variable {link : Link σ} {libs : DecompressionLibraries} {avctx : AVCodecContext}
  {frame : AVFrame}

theorem decodeRound_lowers (hlink : link.Consumes) {s s' : VTRemoteDecContext σ}
    (h : decodeRound link libs avctx frame s = .returned (.ok none) s') :
    link.left s'.fd < link.left s.fd := by
  unfold decodeRound at h
  rcases Call.bind_eq_ok h with ⟨result, s1, hread, hnext⟩
  rcases Call.zoom_eq_returned (Call.attempt_eq_ok hread) with ⟨fd, hfd, rfl⟩
  cases result with
  | error e =>
      simp only at hnext
      split at hnext
      · cases hnext
      · cases hnext
  | ok message =>
      rcases message with ⟨hdr, payload⟩
      have hlt := hlink.readMsg hfd
      simp only [decodeMessage] at hnext
      cases htype : VTRemoteMsgType.ofCode hdr.type with
      | none =>
          rw [htype] at hnext
          cases hnext
          exact hlt
      | some type =>
          rw [htype] at hnext
          cases type with
          | ping =>
              rcases Call.bind_eq_ok hnext with ⟨result, s2, hpong, hpure⟩
              rcases Call.zoom_eq_returned (Call.attempt_eq_ok hpong) with
                ⟨fd', hsend, rfl⟩
              cases hpure
              have hmoves := hlink.moves.sendMsg .pong Payload.empty rfl
              exact Nat.lt_of_le_of_lt (hmoves.of_returned hsend) hlt
          | frame =>
              rcases Call.bind_eq_ok hnext with ⟨_, _, _, hpure⟩
              cases hpure
          | done => cases hnext
          | error => cases hnext
          | _ =>
              cases hnext
              exact hlt

end Fuel

/-!
## Frames
-/

section Decoder

variable {f : σ -> τ} {link : Link σ} {link' : Link τ}

theorem onDecLink_shows {α : Type} {m : Call AvError σ α} {m' : Call AvError τ α}
    (h : Call.Shows f m m') : DecShows f (onDecLink m) (onDecLink m') :=
  Call.Shows.zoom h (fun _ => rfl) (fun _ _ => rfl)

variable (hlink : link.Shows f link')
include hlink

theorem growDecBuf_shows (i : Fin 2) (expected : Int) :
    DecShows f (growDecBuf link i expected) (growDecBuf link' i expected) := by
  apply Shows.get_bind
  intro s
  apply Shows.when
  apply Shows.bind (onDecLink_shows hlink.malloc)
  intro _
  exact Shows.modify fun _ => rfl

theorem createDctx_shows : DecShows f (createDctx link) (createDctx link') := by
  apply Shows.get_bind
  intro s
  apply Shows.when
  apply Shows.bind (onDecLink_shows hlink.malloc)
  intro _
  exact Shows.modify fun _ => rfl

variable (libs : DecompressionLibraries)

theorem decompressPlane_shows (view : VTRemoteFrameView) (i : Fin 2) :
    DecShows f (decompressPlane link libs view i) (decompressPlane link' libs view i) := by
  unfold decompressPlane
  dsimp only
  split
  · exact Shows.fail _
  · apply Shows.bind (growDecBuf_shows hlink i _)
    intro _
    apply Shows.bind (createDctx_shows hlink)
    intro _
    apply Shows.get_bind
    intro s
    dsimp only [VTRemoteDecContext.mapFd]
    split
    · exact Shows.pure _
    · exact Shows.fail _

theorem decompressFrame_shows (view : VTRemoteFrameView) :
    DecShows f (decompressFrame link libs view) (decompressFrame link' libs view) := by
  unfold decompressFrame
  split
  · exact Shows.fail _
  · apply Shows.bind (decompressPlane_shows hlink libs view 0)
    intro plane0
    apply Shows.bind (decompressPlane_shows hlink libs view 1)
    intro plane1
    exact Shows.pure _

theorem addSideData_shows (entries : List VTRemoteSideData) :
    DecShows f (addSideData link entries) (addSideData link' entries) := by
  induction entries with
  | nil => exact Shows.pure []
  | cons sd rest ih =>
      apply Shows.bind (Shows.attempt (onDecLink_shows hlink.malloc))
      intro granted
      apply Shows.bind ih
      intro added
      cases granted with
      | ok _ => exact Shows.pure _
      | error _ => exact Shows.pure _

variable (avctx : AVCodecContext) (frame : AVFrame)

theorem fillFrameFromView_shows (view : VTRemoteFrameView) :
    DecShows f (fillFrameFromView link avctx frame view)
      (fillFrameFromView link' avctx frame view) := by
  unfold fillFrameFromView
  split
  · exact Shows.fail _
  · apply Shows.bind (onDecLink_shows hlink.malloc)
    intro _
    apply Shows.bind (addSideData_shows hlink _)
    intro added
    exact Shows.pure _

theorem decodeFrame_shows (payload : Bytes) (payloadSize : Int) :
    DecShows f (decodeFrame link libs avctx frame payload payloadSize)
      (decodeFrame link' libs avctx frame payload payloadSize) := by
  unfold decodeFrame
  split
  · exact Shows.fail _
  · apply Shows.get_bind
    intro s
    dsimp only [VTRemoteDecContext.mapFd]
    split
    · apply Shows.bind (decompressFrame_shows hlink libs _)
      intro view
      exact fillFrameFromView_shows hlink avctx frame view
    · exact fillFrameFromView_shows hlink avctx frame _

/-!
## Calls
-/

theorem decodeMessage_shows (hdr : VTRemoteMsgHeader) (payload : Bytes) :
    DecShows f (decodeMessage link libs avctx frame hdr payload)
      (decodeMessage link' libs avctx frame hdr payload) := by
  unfold decodeMessage
  split
  · apply Shows.bind (decodeFrame_shows hlink libs avctx frame _ _)
    intro frame
    exact Shows.pure _
  · refine Shows.modify_bind (fun _ => rfl) ?_
    exact Shows.fail _
  · apply Shows.bind (Shows.attempt (onDecLink_shows (hlink.sendMsg _ _)))
    intro _
    exact Shows.pure none
  · exact Shows.fail _
  · exact Shows.pure none

theorem decodeRound_shows :
    DecShows f (decodeRound link libs avctx frame)
      (decodeRound link' libs avctx frame) := by
  apply Shows.bind (Shows.attempt (onDecLink_shows hlink.readMsg))
  intro result
  cases result with
  | error e =>
      dsimp only
      split
      · exact Shows.pure _
      · exact Shows.fail _
  | ok message => exact decodeMessage_shows hlink libs avctx frame _ _

theorem decodeSend_shows (pkt : Option AVPacket) :
    DecShows f (decodeSend link pkt) (decodeSend link' pkt) := by
  cases pkt with
  | none =>
      apply Shows.get_bind
      intro s
      apply Shows.when
      refine Shows.modify_bind (fun _ => rfl) ?_
      exact onDecLink_shows (hlink.sendMsg _ _)
  | some pkt =>
      have hput : forall put : Int × VTRemoteWBuf, DecShows f
          (if h : put.1 < 0 then Call.fail ⟨put.1, h⟩
            else onDecLink (link.sendMsg .packet put.2.payload))
          (if h : put.1 < 0 then Call.fail ⟨put.1, h⟩
            else onDecLink (link'.sendMsg .packet put.2.payload)) := by
        intro put
        by_cases hneg : put.1 < 0
        · rw [dif_pos hneg, dif_pos hneg]
          exact Shows.fail _
        · rw [dif_neg hneg, dif_neg hneg]
          exact onDecLink_shows (hlink.sendMsg _ _)
      apply Shows.get_bind
      intro s
      refine Shows.modify_bind (fun _ => rfl) ?_
      exact hput (putPacket pkt (vtremoteWbufReset s.pktBuf))

def Link.SameFuel (f : σ -> τ) (link : Link σ) (link' : Link τ) : Prop :=
  link'.Consumes ∨ forall fd, link'.left (f fd) = link.left fd

variable (hfuel : link.SameFuel f link')
include hfuel

theorem decodeBody_shows (pkt : Option AVPacket) :
    DecShows f (decodeBody link libs avctx frame pkt)
      (decodeBody link' libs avctx frame pkt) := by
  apply Shows.get_bind
  intro s
  dsimp only [VTRemoteDecContext.mapFd]
  split
  · exact Shows.fail _
  · apply Shows.bind (decodeSend_shows hlink _)
    intro _ s'
    apply ShowsAt.get_bind
    have hround := decodeRound_shows hlink libs avctx frame
    rcases hfuel with hconsumes | hleft
    · apply Shows.loop_fuel hround (fun _ _ => decodeRound_lowers hconsumes)
      · exact Nat.lt_succ_of_le (hlink.left s'.fd)
      · exact Nat.lt_succ_self _
    · rw [show link'.left (s'.mapFd f).fd = link.left s'.fd from hleft s'.fd]
      exact Shows.loop hround _ s'

theorem ffVtremoteDecode_shows (pkt : Option AVPacket) :
    DecShows f (ffVtremoteDecode link libs avctx frame pkt)
      (ffVtremoteDecode link' libs avctx frame pkt) := by
  apply Shows.bind
    (Shows.attempt (decodeBody_shows hlink libs avctx frame hfuel pkt))
  intro result
  exact Shows.pure _

theorem decodeRun_shows (pkts : List (Option AVPacket)) :
    DecShows f (decodeRun link libs avctx frame pkts)
      (decodeRun link' libs avctx frame pkts) := by
  induction pkts generalizing avctx with
  | nil => exact Shows.pure []
  | cons pkt rest ih =>
      have hcall := ffVtremoteDecode_shows hlink libs (avctx.extractPacketProps pkt)
        frame hfuel pkt
      apply Shows.bind hcall
      intro result
      apply Shows.bind (ih (avctx.extractPacketProps pkt))
      intro results
      exact Shows.pure _

end Decoder
end VTRemote
