import VTRemote.Client.OfferedReads
import VTRemote.Client.SendableFrames

/-!
# Sessions with granted memory

What a call of the encoder does to a session whose memory is granted and on whose
connection messages are offered.
-/

namespace VTRemote

attribute [local irreducible] cInt

/-- The session is connected and has memory, and these are offered. -/
structure EncSession (s : VTRemoteEncContext Host) (offers : List WireOffer) :
    Prop where
  following : Following s offers
  connected : s.connected = true
  grants : s.frameBuf.grants = []

section Options

variable {s s' : VTRemoteEncContext Host} (h : s'.options = s.options)
include h

theorem inflight_of_options : s'.inflight = s.inflight := congrArg (fun o => o.1) h

theorem wireCompression_of_options : s'.wireCompression = s.wireCompression :=
  congrArg (fun o => o.2.1) h

theorem codecId_of_options : s'.codecId = s.codecId := congrArg (fun o => o.2.2.1) h

theorem connected_of_options : s'.connected = s.connected :=
  congrArg (fun o => o.2.2.2) h

end Options

/-- What decides about a session is what is offered. -/
theorem EncSession.moved {s s' : VTRemoteEncContext Host} {offers rest : List WireOffer}
    (h : EncSession s offers) (hfollowing : Following s' rest)
    (hoptions : s'.options = s.options) (hbuf : s'.frameBuf = s.frameBuf) :
    EncSession s' rest :=
  ⟨hfollowing, (connected_of_options hoptions).trans h.connected, by
    rw [hbuf]
    exact h.grants⟩

theorem OpensTo.session {d : Drainage} {s s' : VTRemoteEncContext Host}
    {offers : List WireOffer} (hopens : OpensTo d s s') (h : EncSession s offers) :
    EncSession s' d.rest :=
  h.moved hopens.following hopens.took.options hopens.took.kept.2

theorem EncSession.popPacket {s : VTRemoteEncContext Host} {offers : List WireOffer}
    (h : EncSession s offers) :
    exists s', VTRemote.popPacket hostLink s =
        .returned (.ok (.ok (s.pktQueue.slot 0))) s' ∧ EncSession s' offers ∧
      s' = { s with
        fd := { s.fd with heap := s.fd.heap.tail }
        pktQueue := s.pktQueue.pop } :=
  ⟨_, popPacket_of_packetRef h.following.granted.malloc.1,
    ⟨⟨h.following.granted.malloc.2, h.following.offers⟩, h.connected, h.grants⟩, rfl⟩

/-!
## Sending
-/

def PayloadOf (libs : CompressionLibraries) (frame : AVFrame)
    (s : VTRemoteEncContext Host) (payload : Payload) : Prop :=
  sendable libs s.codecId s.wireCompression frame = true ∧
    FrameCarries libs s.wireCompression frame payload

structure Unread (s s' : VTRemoteEncContext Host) : Prop where
  queue : s'.pktQueue = s.pktQueue
  done : s'.done = s.done
  incoming : s'.fd.incoming = s.fd.incoming
  options : s'.options = s.options

variable {libs : CompressionLibraries}

theorem FrameCarries.unique {wireCompression : Int} {frame : AVFrame}
    {payload payload' : Payload} (h : FrameCarries libs wireCompression frame payload)
    (h' : FrameCarries libs wireCompression frame payload') : payload = payload' := by
  rcases h with ⟨plane0, plane1, hplane0, hplane1, hbytes⟩
  rcases h' with ⟨plane0', plane1', hplane0', hplane1', hbytes'⟩
  rw [hplane0] at hplane0'
  rw [hplane1] at hplane1'
  cases hplane0'
  cases hplane1'
  cases payload
  cases payload'
  cases hbytes
  cases hbytes'
  rfl

inductive SendEnd (libs : CompressionLibraries) (frame : AVFrame)
    (s : VTRemoteEncContext Host) :
    Except AvError Unit -> VTRemoteEncContext Host -> Prop where
  | unsendable {e : AvError} {s' : VTRemoteEncContext Host}
      (hsendable : sendable libs s.codecId s.wireCompression frame = false)
      (heof : e ≠ averrorEof) (houtgoing : s'.fd.outgoing = s.fd.outgoing)
      (hlog : s'.fd.log = s.fd.log) (hframes : s'.inflightFrames = s.inflightFrames) :
      SendEnd libs frame s (.error e) s'
  | sent {r : Except AvError Unit} {payload : Payload} {s' : VTRemoteEncContext Host}
      (hpayload : PayloadOf libs frame s payload)
      (hresult : s.fd.outgoing.result .frame payload = r)
      (houtgoing : s'.fd.outgoing = s.fd.outgoing.behind .frame payload)
      (hlog : s'.fd.log = s.fd.log ++ s.fd.outgoing.logged .frame payload)
      (hframes : s'.inflightFrames =
        s.inflightFrames + if r = .ok () then 1 else 0) :
      SendEnd libs frame s r s'

def HeapOnly (fd fd' : Host) : Prop :=
  exists heap, fd' = { fd with heap := heap } ∧ fd'.Granted

theorem hostLink_grants (fd : Host) : forall fd1, HeapOnly fd fd1 ->
    exists fd2, hostLink.malloc fd1 = .returned (.ok ()) fd2 ∧ HeapOnly fd fd2 := by
  intro fd1 h
  rcases h with ⟨heap, rfl, hgranted⟩
  exact ⟨_, hgranted.malloc.1, _, rfl, hgranted.malloc.2⟩

/-- What `ff_vtremote_common_send_frame` does with a frame is said by the frame,
the options and the schedule of the socket. -/
theorem EncSession.sendFrame {s : VTRemoteEncContext Host} {offers : List WireOffer}
    (h : EncSession s offers) {frame : AVFrame} (hbacked : frame.Backed) :
    exists r s', ffVtremoteCommonSendFrame hostLink libs (some frame) s =
        .returned r s' ∧
      SendEnd libs frame s r s' ∧ Unread s s' ∧ s'.flushing = s.flushing ∧
      EncSession s' offers := by
  have hself : HeapOnly s.fd s.fd := ⟨s.fd.heap, rfl, h.following.granted⟩
  cases hsendable : sendable libs s.codecId s.wireCompression frame with
  | false =>
      rcases sendFrame_of_unsendable (hostLink_grants s.fd) h.connected hself h.grants
        hbacked hsendable with ⟨e, s1, hne, hs1, hcall⟩
      rcases hs1 with ⟨fd, frameBuf, compBufCap, zstdCctx, ⟨heap, rfl, hgranted⟩,
        hgrants, rfl⟩
      exact ⟨_, _, hcall, .unsendable hsendable hne rfl rfl rfl, ⟨rfl, rfl, rfl, rfl⟩,
        rfl, ⟨hgranted, h.following.offers⟩, h.connected, hgrants⟩
  | true =>
      rcases sendFrame_of_sendable (hostLink_grants s.fd) h.connected hself h.grants
        hbacked hsendable with ⟨plane0, plane1, hplanes, hle, s1, hs1, hcall⟩
      rcases hs1 with ⟨fd, frameBuf, compBufCap, zstdCctx, ⟨heap, rfl, hgranted⟩,
        hgrants, rfl⟩
      rcases sendPlanes_eq_some hplanes with ⟨hplane0, hplane1⟩
      have hpayload : PayloadOf libs frame s ⟨frameMessage frame plane0 plane1, hle⟩ :=
        ⟨hsendable, plane0, plane1, hplane0, hplane1, rfl⟩
      have hmsg := vtremoteSendMsg_schedule .frame
        ⟨frameMessage frame plane0 plane1, hle⟩ { s.fd with heap := heap }
      cases hresult : s.fd.outgoing.result .frame
          ⟨frameMessage frame plane0 plane1, hle⟩ with
      | ok _ =>
          rw [hresult] at hmsg
          rw [sendCounted_of_ok hmsg] at hcall
          exact ⟨_, _, hcall, .sent hpayload hresult rfl rfl rfl, ⟨rfl, rfl, rfl, rfl⟩,
            rfl, ⟨hgranted, h.following.offers⟩, h.connected, hgrants⟩
      | error e =>
          rw [hresult] at hmsg
          rw [sendCounted_of_error hmsg] at hcall
          exact ⟨_, _, hcall, .sent hpayload hresult rfl rfl rfl, ⟨rfl, rfl, rfl, rfl⟩,
            rfl, ⟨hgranted, h.following.offers⟩, h.connected, hgrants⟩

theorem EncSession.sendFlush {s : VTRemoteEncContext Host} {offers : List WireOffer}
    (h : EncSession s offers) :
    exists r s', ffVtremoteCommonSendFrame hostLink libs none s = .returned r s' ∧
      Unread s s' ∧ EncSession s' offers := by
  have hsend := onLink_of_returned (s := { s with flushing := true })
    (vtremoteSendMsg_schedule .flush Payload.empty s.fd)
  have hcall : ffVtremoteCommonSendFrame hostLink libs none s =
      onLink (vtremoteSendMsg .flush Payload.empty) { s with flushing := true } := by
    rw [ffVtremoteCommonSendFrame, Call.get_bind, if_neg (by simp [h.connected]),
      Call.modify_bind]
    rfl
  exact ⟨_, _, hcall.trans hsend, ⟨rfl, rfl, rfl, rfl⟩, ⟨h.following.granted, h.following.offers⟩,
    h.connected, h.grants⟩

/-!
## Whole calls
-/

def Alive (s : VTRemoteEncContext Host) : Prop :=
  0 < s.pktQueue.size ∧ exists offers, EncSession s offers

def StaysAlive (s s' : VTRemoteEncContext Host) : Prop := Alive s -> Alive s'

instance : IsPreorder (VTRemoteEncContext Host) StaysAlive where
  refl _ h := h
  trans _ _ _ h1 h2 h := h2 (h1 h)

theorem popPacket_alive : Call.Moves StaysAlive (popPacket hostLink) := by
  apply Call.Moves.of_state
  intro s h
  rcases h with ⟨hsize, offers, hsession⟩
  rcases hsession.popPacket with ⟨s', hcall, hsession', hs'⟩
  rw [hcall]
  refine ⟨?_, offers, hsession'⟩
  show 0 < s'.pktQueue.size
  rw [hs']
  simpa using hsize

theorem receivePacket_alive :
    Call.Moves StaysAlive (ffVtremoteCommonReceivePacket hostLink) := by
  intro s
  by_cases hqueued : s.done = false ∧ 0 < s.pktQueue.count
  · have htake : ffVtremoteCommonReceivePacket hostLink s = takePacket hostLink s := by
      unfold ffVtremoteCommonReceivePacket
      rw [Call.get_bind, if_neg (by simp [hqueued.1]), if_pos hqueued.2]
    rw [htake]
    have hmoves : Call.Moves StaysAlive (takePacket hostLink) := by
      apply Call.Moves.bind popPacket_alive
      intro rc
      cases rc with
      | ok pkt => exact Call.Moves.pure _
      | error e => exact Call.Moves.fail _
    exact hmoves s
  · by_cases halive : Alive s
    · rcases halive with ⟨hsize, offers, hsession⟩
      have hwaits : (ffVtremoteCommonReceivePacket hostLink s).Ends
          (fun _ s' => Alive s') Alive := by
        by_cases hdone : s.done = true
        · have hcall : ffVtremoteCommonReceivePacket hostLink s =
              .returned (.error averrorEof) s := by
            unfold ffVtremoteCommonReceivePacket
            rw [Call.get_bind, if_pos hdone]
            rfl
          rw [hcall]
          exact ⟨hsize, offers, hsession⟩
        · have hempty : s.pktQueue.count = 0 := by
            apply Nat.eq_zero_of_not_pos
            exact fun hpos => hqueued ⟨Bool.eq_false_iff.mpr hdone, hpos⟩
          apply (ffVtremoteCommonReceivePacket_offers hsession.following hempty hsize).mono
          · intro r s' hs'
            rcases hs' with ⟨rest, hfollowing, ⟨_, _, hwaited⟩ | ⟨_, _, pings, hstalled⟩⟩
            · exact ⟨hwaited.size ▸ hsize, rest,
                hsession.moved hfollowing hwaited.options hwaited.kept.2⟩
            · exact ⟨hstalled.size ▸ hsize, rest,
                hsession.moved hfollowing hstalled.took.options hstalled.took.kept.2⟩
          · intro s' hs'
            rcases hs' with ⟨_, rest, pings, hfollowing, hstalled⟩
            exact ⟨hstalled.size ▸ hsize, rest,
              hsession.moved hfollowing hstalled.took.options hstalled.took.kept.2⟩
      exact hwaits.mono (fun _ _ h _ => h) (fun _ h _ => h)
    · have htrivial : forall s', StaysAlive s s' := fun s' h => absurd h halive
      cases ffVtremoteCommonReceivePacket hostLink s with
      | returned r s' => exact htrivial s'
      | blocked s' => exact htrivial s'

theorem sendFrame_alive {frame : Option AVFrame}
    (hbacked : forall f, frame = some f -> f.Backed) :
    Call.Moves StaysAlive (ffVtremoteCommonSendFrame hostLink libs frame) := by
  apply Call.Moves.of_state
  intro s h
  rcases h with ⟨hsize, offers, hsession⟩
  cases frame with
  | none =>
      rcases @EncSession.sendFlush libs _ _ hsession with
        ⟨r, s', hcall, hunread, hsession'⟩
      rw [hcall]
      exact ⟨hunread.queue ▸ hsize, offers, hsession'⟩
  | some frame =>
      rcases @EncSession.sendFrame libs _ _ hsession _ (hbacked frame rfl) with
        ⟨r, s', hcall, _, hunread, _, hsession'⟩
      rw [hcall]
      exact ⟨hunread.queue ▸ hsize, offers, hsession'⟩

theorem ffVtremoteEncode_alive {s : VTRemoteEncContext Host} {offers : List WireOffer}
    (h : EncSession s offers) {input : EncodeInput}
    (hbacked : forall f, input.frame = some f -> f.Backed) :
    (ffVtremoteEncode hostLink libs input.frame input.draining s).Ends
      (fun _ s' => Alive s') Alive := by
  have hbody : (encodeBody hostLink libs input.frame input.draining s).Ends
      (fun _ s' => Alive s') Alive := by
    have hopens : forall {s1}, OpensTo (drained s.room offers) s s1 -> Alive s1 :=
      fun hopens => ⟨hopens.allocated, _, hopens.session h⟩
    unfold encodeBody
    apply Call.ends_bind ((openingDrain_offers h.following).mono
      (fun _ _ hs1 => hopens hs1.2) (fun _ hs1 => hopens hs1.2))
    · exact fun _ _ hs1 => hs1
    · intro _ s1 hs1
      have hrest := encodeDrained_moves libs popPacket_alive (sendFrame_alive hbacked)
        (sendFrame_alive nofun) receivePacket_alive input.draining s1
      exact (hrest s1).mono (fun _ _ hs' => hs' hs1) (fun _ hs' => hs' hs1)
  apply Call.ends_attempt_bind hbody
  exact fun _ _ hs' => hs'

end VTRemote
