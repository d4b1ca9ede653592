import VTRemote.Library.Window
import VTRemote.System.ChannelClient

/-!
# The two parties in step

The frames that the client counts as in flight are the packets that the server
owes and the slots that are lost.  Every operation of the encoder keeps that, and
says which of the two it changes.
-/

namespace VTRemote

attribute [local irreducible] cInt

open TimestampTracker

section Encoder

variable (codecs : PlaneCodecs) (configuration : SessionConfiguration)
  (codecId : AVCodecID) (limit : Nat)

/-- The client and the server agree: `last` is the timestamp of the last frame
that was sent, `owed` packets are due, and the window holds them, the lost slots
and the queued packets. -/
structure InStep (s : VTRemoteEncContext System) (last : Int64) (owed : Nat)
    (w : Window) : Prop where
  serves : Serves codecs configuration s.fd.parties last owed
  slots : s.inflightFrames = owed + w.lost
  load : w.load = s.inflightFrames + s.pktQueue.count
  within : w.load ≤ limit
  options : s.options = (limit, configuration.wireCompression, codecId, true)
  flushing : s.flushing = false
  streaming : s.done = false
  room : s.pktQueue.size ≠ 0 -> limit < s.pktQueue.size
  grants : s.frameBuf.grants = []
  waits : forall p, p ∈ s.fd.waits -> p.SomethingOwed codecs

/-- Nothing arrives before the client waits for it. -/
def Quiet (s : VTRemoteEncContext System) : Prop :=
  s.fd.Late ∧ s.pktQueue.count = 0

variable {codecs configuration codecId limit}
variable {s : VTRemoteEncContext System} {last pts : Int64} {owed : Nat}
  {w : Window}

theorem systemLink_malloc (fd : System) :
    (systemLink codecs).malloc fd = .returned (.ok ()) fd := rfl

theorem systemLink_grants (fd : System) : forall y, y = fd ->
    exists y', (systemLink codecs).malloc y = .returned (.ok ()) y' ∧ y' = fd := by
  intro y hy
  exact ⟨y, rfl, hy⟩

theorem systemLink_packetRef (fd : System) :
    (systemLink codecs).packetRef fd = .returned (.ok ()) fd := rfl

namespace InStep

theorem connected (h : InStep codecs configuration codecId limit s last owed w) :
    s.connected = true :=
  (Prod.mk.inj (Prod.mk.inj (Prod.mk.inj h.options).2).2).2

theorem codecId_eq (h : InStep codecs configuration codecId limit s last owed w) :
    s.codecId = codecId :=
  (Prod.mk.inj (Prod.mk.inj (Prod.mk.inj h.options).2).2).1

theorem wireCompression (h : InStep codecs configuration codecId limit s last owed w) :
    s.wireCompression = configuration.wireCompression :=
  (Prod.mk.inj (Prod.mk.inj h.options).2).1

theorem inflight (h : InStep codecs configuration codecId limit s last owed w) :
    s.inflight = limit :=
  (Prod.mk.inj h.options).1

theorem count_lt (h : InStep codecs configuration codecId limit s last owed w)
    (hsize : s.pktQueue.size ≠ 0) : s.pktQueue.count < s.pktQueue.size := by
  have hload := h.load
  have hwithin := h.within
  have hroom := h.room hsize
  omega

end InStep

/-!
## The opening drain
-/

section Drain

variable (hmode : configuration.mode = .encode)
include hmode

structure Drained (codecs : PlaneCodecs) (configuration : SessionConfiguration)
    (codecId : AVCodecID) (limit : Nat) (s : VTRemoteEncContext System)
    (last : Int64) (w : Window) (s' : VTRemoteEncContext System) : Prop where
  inStep : exists owed, InStep codecs configuration codecId limit s' last owed w
  size : s'.pktQueue.size ≠ 0
  quiet : Quiet s -> Quiet s'

omit hmode in
theorem ofCode_packet {message : ChannelMessage} (htype : message.type = .packet) :
    VTRemoteMsgType.ofCode message.header.type = some .packet := by
  show VTRemoteMsgType.ofCode message.type.code = _
  rw [htype]
  exact VTRemoteMsgType.ofCode_code .packet

omit hmode in
theorem enqueuePacket_room (codecs : PlaneCodecs) (fd : System)
    {message : ChannelMessage} (hmessage : QueueablePacket message)
    (hroom : s.pktQueue.count < s.pktQueue.size) :
    exists pktQueue : Ring AVPacket,
      enqueuePacket (systemLink codecs) message.body
          (cInt message.header.length.toNat) { s with fd } =
        .returned (.ok ()) { s with
          fd, pktQueue, packetsRecv := s.packetsRecv + 1 } ∧
      pktQueue.count = s.pktQueue.count + 1 ∧
      pktQueue.size = s.pktQueue.size := by
  rcases hmessage with ⟨_, view, hparse, hview⟩
  have hstored : ((s.pktQueue.store default).store view.described).count <
      ((s.pktQueue.store default).store view.described).size := by
    rw [Ring.count_store, Ring.count_store, Ring.size_store, Ring.size_store]
    exact hroom
  have henqueue : enqueuePacket (systemLink codecs) message.body
      (cInt message.header.length.toNat) { s with fd } =
        .returned (.ok ()) { s with
          fd
          pktQueue := ((s.pktQueue.store default).store view.described).grow
          packetsRecv := s.packetsRecv + 1 } :=
    enqueuePacket_of_malloc hparse hview hroom (systemLink_malloc fd)
  refine ⟨_, henqueue, ?_, ?_⟩
  · rw [Ring.count_grow hstored, Ring.count_store, Ring.count_store]
  · rw [Ring.size_grow, Ring.size_store, Ring.size_store]

omit hmode in
theorem drainMessage_inStep {message : ChannelMessage} {fd : System}
    (h : InStep codecs configuration codecId limit s last (owed + 1) w)
    (hsize : s.pktQueue.size ≠ 0) (hmessage : QueueablePacket message)
    (hserves : Serves codecs configuration fd.parties last owed)
    (hwaits : fd.waits = s.fd.waits) :
    exists s', drainMessage (systemLink codecs) message.header message.body
        { s with fd := fd } = .returned (.ok none) s' ∧
      InStep codecs configuration codecId limit s' last owed w ∧
      s'.pktQueue.size ≠ 0 := by
  rcases enqueuePacket_room codecs fd hmessage (h.count_lt hsize) with
    ⟨pktQueue, henqueue, hcount, hsame⟩
  have hslots := h.slots
  have hload := h.load
  have hdrain : drainMessage (systemLink codecs) message.header message.body
      { s with fd := fd } = .returned (.ok none) { s with
        fd := fd
        pktQueue
        inflightFrames := s.inflightFrames - 1
        packetsRecv := s.packetsRecv + 1 } := by
    unfold drainMessage
    simp only [ofCode_packet hmessage.type]
    rw [Call.bind_of_ok _ henqueue]
    rfl
  refine ⟨_, hdrain, ?_, hsame ▸ hsize⟩
  exact
    { serves := hserves
      slots := by
        show s.inflightFrames - 1 = owed + w.lost
        omega
      load := by
        show w.load = s.inflightFrames - 1 + pktQueue.count
        omega
      within := h.within
      options := h.options
      flushing := h.flushing
      streaming := h.streaming
      room := fun _ => hsame ▸ h.room hsize
      grants := h.grants
      waits := by
        rw [hwaits]
        exact h.waits }

theorem drainRound_inStep
    (h : InStep codecs configuration codecId limit s last owed w)
    (hsize : s.pktQueue.size ≠ 0) :
    exists result s', drainRound (systemLink codecs) s =
        .returned (.ok result) s' ∧
      Drained codecs configuration codecId limit s last w s' := by
  have hpolled := System.readMsgNonblock_polled hmode h.serves
  generalize hread : s.fd.readMsgNonblock codecs = outcome at hpolled
  unfold drainRound
  rw [Call.get_bind, if_pos (h.count_lt hsize)]
  cases hpolled with
  | empty hserves hwaits hlate =>
      rename_i fd
      have hlink : onLink (systemLink codecs).readMsgNonblock s =
          .returned (.error (averror eagain)) { s with fd := fd } :=
        onLink_of_returned hread
      rw [Call.bind_of_ok _ (Call.attempt_of_returned hlink)]
      refine ⟨some (), _, rfl, ⟨owed, ?_⟩, hsize, ?_⟩
      · exact { h with serves := hserves, waits := hwaits ▸ h.waits }
      · intro h
        rcases h with ⟨hquiet, hcount⟩
        exact ⟨hlate hquiet, hcount⟩
  | packet howed hmessage hserves hwaits hlate =>
      rename_i fd message owed'
      subst howed
      have hlink : onLink (systemLink codecs).readMsgNonblock s =
          .returned (.ok (message.header, message.body)) { s with fd := fd } :=
        onLink_of_returned hread
      rcases drainMessage_inStep h hsize hmessage hserves hwaits with
        ⟨s', hdrain, hstep, hsize'⟩
      rw [Call.bind_of_ok _ (Call.attempt_of_returned hlink)]
      refine ⟨none, s', hdrain, ⟨owed', hstep⟩, hsize', ?_⟩
      intro hquiet
      exact absurd hquiet.1 hlate

omit hmode in
theorem Drained.trans {s1 s2 : VTRemoteEncContext System}
    (h1 : Drained codecs configuration codecId limit s last w s1)
    (h2 : Drained codecs configuration codecId limit s1 last w s2) :
    Drained codecs configuration codecId limit s last w s2 :=
  ⟨h2.inStep, h2.size, fun hquiet => h2.quiet (h1.quiet hquiet)⟩

theorem vtremoteDrainAvailablePackets_inStep
    (h : InStep codecs configuration codecId limit s last owed w)
    (hsize : s.pktQueue.size ≠ 0) :
    exists s', vtremoteDrainAvailablePackets (systemLink codecs) s =
        .returned (.ok ()) s' ∧
      Drained codecs configuration codecId limit s last w s' := by
  have hloop : (vtremoteDrainAvailablePackets (systemLink codecs) s).Ends
      (fun r s' => r = .ok () ∧
        Drained codecs configuration codecId limit s last w s')
      (fun _ => False) := by
    rw [vtremoteDrainAvailablePackets_fuel (systemLink_consumes codecs)
      (Nat.lt_succ_self _)]
    apply Call.ends_loop_of_lt
      (fun s' => Drained codecs configuration codecId limit s last w s')
      (fun _ _ => drainRound_consumes (systemLink_consumes codecs))
    · intro s1 hs1
      rcases hs1.inStep with ⟨owed1, hstep1⟩
      rcases drainRound_inStep hmode hstep1 hs1.size with
        ⟨result, s2, hround, hs2⟩
      rw [hround]
      cases result with
      | none => exact hs1.trans hs2
      | some _ => exact ⟨rfl, hs1.trans hs2⟩
    · exact ⟨⟨owed, h⟩, hsize, fun hquiet => hquiet⟩
    · exact Nat.lt_succ_self _
  rcases hloop.returned with ⟨r, s', hdrain, rfl, hdrained⟩
  exact ⟨s', hdrain, hdrained⟩

omit hmode in
theorem allocateQueue_inStep
    (h : InStep codecs configuration codecId limit s last owed w) :
    exists s', allocateQueue (systemLink codecs) s = .returned (.ok ()) s' ∧
      Drained codecs configuration codecId limit s last w s' := by
  unfold allocateQueue
  rw [Call.get_bind]
  by_cases hsize : s.pktQueue.size = 0
  · have hcount : s.pktQueue.count = 0 :=
      Nat.le_zero.mp (hsize ▸ s.pktQueue.count_le)
    have hlink : onLink (systemLink codecs).malloc s = .returned (.ok ()) s :=
      onLink_of_returned (systemLink_malloc s.fd)
    have hnew : (Ring.new (max 4 (s.inflight * 2)) : Ring AVPacket).size =
        max 4 (limit * 2) := by
      rw [Ring.size_new, h.inflight]
    rw [if_pos hsize, Call.bind_of_ok _ hlink]
    refine ⟨_, rfl, ⟨owed, ?_⟩, ?_, fun hquiet => ⟨hquiet.1, rfl⟩⟩
    · exact { h with
        load := by
          rw [h.load, hcount]
          rfl
        room := by
          intro _
          rw [hnew]
          omega }
    · show (Ring.new (max 4 (s.inflight * 2)) : Ring AVPacket).size ≠ 0
      rw [hnew]
      omega
  · rw [if_neg hsize]
    exact ⟨s, rfl, ⟨owed, h⟩, hsize, fun hquiet => hquiet⟩

theorem openingDrain_inStep
    (h : InStep codecs configuration codecId limit s last owed w) :
    exists s', openingDrain (systemLink codecs) s = .returned (.ok ()) s' ∧
      Drained codecs configuration codecId limit s last w s' := by
  rcases allocateQueue_inStep h with ⟨s1, hallocate, hs1⟩
  rcases hs1.inStep with ⟨owed1, hstep1⟩
  rcases vtremoteDrainAvailablePackets_inStep hmode hstep1 hs1.size with
    ⟨s2, hdrain, hs2⟩
  refine ⟨s2, ?_, hs1.trans hs2⟩
  unfold openingDrain
  rw [Call.bind_of_ok _ hallocate,
    Call.bind_of_ok _ (Call.attempt_of_returned hdrain)]
  rfl

end Drain

/-!
## Waiting for a packet
-/

section Receive

variable (hmode : configuration.mode = .encode)
include hmode

theorem ffVtremoteCommonReceivePacket_inStep
    (h : InStep codecs configuration codecId limit s last (owed + 1) w)
    (hsize : s.pktQueue.size ≠ 0) (hempty : s.pktQueue.count = 0) :
    exists pkt s', ffVtremoteCommonReceivePacket (systemLink codecs) s =
        .returned (.ok pkt) s' ∧
      InStep codecs configuration codecId limit s' last owed
        ⟨w.load - 1, w.lost⟩ ∧
      s'.pktQueue.count = 0 ∧ s'.pktQueue.size ≠ 0 ∧
      (Quiet s -> Quiet s') := by
  rcases System.readMsg_owed hmode h.serves with
    ⟨message, fd, p, hread, hmessage, hserves, hwaits, howed, hlate⟩
  have hlink : onLink (systemLink codecs).readMsg s =
      .returned (.ok (message.header, message.body)) { s with fd := fd } :=
    onLink_of_returned hread
  rcases enqueuePacket_room codecs fd hmessage (h.count_lt hsize) with
    ⟨pktQueue, henqueue, hcount, hsame⟩
  rw [hempty] at hcount
  have hpop : popPacket (systemLink codecs) { s with
      fd := fd, pktQueue, packetsRecv := s.packetsRecv + 1 } =
      .returned (.ok (.ok (pktQueue.slot 0)))
        { s with
          fd := fd, pktQueue := pktQueue.pop, packetsRecv := s.packetsRecv + 1 } :=
    popPacket_of_packetRef (systemLink_packetRef fd)
  have hpos : 0 < pktQueue.count := by
    rw [hcount]
    exact Nat.one_pos
  have hround : receiveRound (systemLink codecs) s =
      .returned (.ok (some (pktQueue.slot 0))) { s with
        fd := fd
        pktQueue := pktQueue.pop
        inflightFrames := s.inflightFrames - 1
        packetsRecv := s.packetsRecv + 1 } := by
    unfold receiveRound
    rw [Call.bind_of_ok _ hlink]
    unfold receiveMessage popReceived
    simp only [ofCode_packet hmessage.type]
    rw [Call.bind_of_ok _ henqueue, Call.get_bind, if_pos hpos,
      Call.bind_of_ok _ hpop]
    rfl
  have hpopped : pktQueue.pop.count = 0 := by
    show pktQueue.count - 1 = 0
    rw [hcount]
  have hsame' : pktQueue.pop.size = s.pktQueue.size := by
    rw [Ring.size_pop, hsame]
  have hslots := h.slots
  have hload := h.load
  have hreceive : ffVtremoteCommonReceivePacket (systemLink codecs) s =
      .returned (.ok (pktQueue.slot 0)) { s with
        fd := fd
        pktQueue := pktQueue.pop
        inflightFrames := s.inflightFrames - 1
        packetsRecv := s.packetsRecv + 1 } := by
    rw [ffVtremoteCommonReceivePacket_fuel (systemLink_consumes codecs)
      h.streaming hempty (Nat.lt_succ_self _)]
    exact Call.bind_of_ok _ hround
  refine ⟨_, _, hreceive, ?_, hpopped, hsame' ▸ hsize,
    fun hquiet => ⟨hlate hquiet.1, hpopped⟩⟩
  exact
    { serves := hserves
      slots := by
        show s.inflightFrames - 1 = owed + w.lost
        omega
      load := by
        show w.load - 1 = s.inflightFrames - 1 + pktQueue.pop.count
        omega
      within := Nat.le_trans (Nat.sub_le _ _) h.within
      options := h.options
      flushing := h.flushing
      streaming := h.streaming
      room := fun _ => hsame' ▸ h.room hsize
      grants := h.grants
      waits := by
        intro q hq
        rw [hwaits] at hq
        rcases List.mem_append.mp hq with hold | hnew
        · exact h.waits q hold
        · rw [List.mem_singleton.mp hnew]
          exact howed }

/-- If none is owed, the client waits for good, and nothing is in flight. -/
theorem ffVtremoteCommonReceivePacket_unowed
    (h : InStep codecs configuration codecId limit s last 0 w)
    (hempty : s.pktQueue.count = 0) :
    exists s', ffVtremoteCommonReceivePacket (systemLink codecs) s =
        .blocked s' ∧
      exists p, p ∈ s'.fd.waits ∧ ¬ p.SomethingOwed codecs := by
  rcases System.readMsg_unowed hmode h.serves with ⟨fd, p, hread, hwaits, howed⟩
  have hlink : onLink (systemLink codecs).readMsg s =
      .blocked { s with fd := fd } :=
    onLink_of_blocked hread
  have hround : receiveRound (systemLink codecs) s =
      .blocked { s with fd := fd } :=
    Call.bind_of_blocked _ hlink
  refine ⟨{ s with fd := fd }, ?_, p, ?_, howed⟩
  · rw [ffVtremoteCommonReceivePacket_fuel (systemLink_consumes codecs)
      h.streaming hempty (Nat.lt_succ_self _)]
    exact Call.bind_of_blocked _ hround
  · show p ∈ fd.waits
    rw [hwaits]
    exact List.mem_append_right _ List.mem_cons_self

end Receive
/-!
## Sending a frame
-/

section Send

variable {libs : CompressionLibraries} {frame : AVFrame} {lost : Nat}
  (hframe : Decodable codecs libs configuration.wireCompression frame)
include hframe

theorem sendFrame_inStep {last' : Int64} {owed' : Nat}
    (h : InStep codecs configuration codecId limit s last owed w)
    (hsendable : sendable libs codecId configuration.wireCompression frame = true)
    (hload : w.load < limit)
    (hsend : forall payload : Payload,
      FrameAt codecs configuration ⟨.frame, payload.bytes⟩ frame.pts ->
        exists y', s.fd.sendMsg codecs .frame payload = .returned (.ok ()) y' ∧
          Serves codecs configuration y'.parties last' owed' ∧
          y'.waits = s.fd.waits)
    (hslots : owed' + lost = owed + w.lost + 1) :
    exists s', ffVtremoteCommonSendFrame (systemLink codecs) libs (some frame) s =
        .returned (.ok ()) s' ∧
      InStep codecs configuration codecId limit s' last' owed'
        ⟨w.load + 1, lost⟩ ∧
      s'.pktQueue = s.pktQueue ∧ (Quiet s -> Quiet s') := by
  rw [<- h.codecId_eq, <- h.wireCompression] at hsendable
  rcases sendFrame_of_sendable (systemLink_grants s.fd) h.connected rfl h.grants
    hframe.backed hsendable with ⟨plane0, plane1, hplanes, hle, s1, hs1, hcall⟩
  rw [h.wireCompression] at hplanes
  rcases hsend ⟨frameMessage frame plane0 plane1, hle⟩ (hframe.frameAt hplanes)
    with ⟨y', hmsg, hserves, hwaits⟩
  rcases hs1 with ⟨fd, frameBuf, compBufCap, zstdCctx, rfl, hgrants, rfl⟩
  have hlink : (systemLink codecs).sendMsg .frame
      ⟨frameMessage frame plane0 plane1, hle⟩ s.fd = .returned (.ok ()) y' := hmsg
  have hsent := sendCounted_of_ok (s := { s with
    frameBuf := frameBuf, compBufCap := compBufCap, zstdCctx := zstdCctx }) hlink
  have hslots' := h.slots
  have hload' := h.load
  refine ⟨_, hcall.trans hsent, ?_, rfl, ?_⟩
  · exact
      { serves := hserves
        slots := by
          show s.inflightFrames + 1 = owed' + lost
          omega
        load := by
          show w.load + 1 = s.inflightFrames + 1 + s.pktQueue.count
          omega
        within := hload
        options := h.options
        flushing := h.flushing
        streaming := h.streaming
        room := h.room
        grants := hgrants
        waits := by
          rw [hwaits]
          exact h.waits }
  · intro h
    rcases h with ⟨hlate, hcount⟩
    exact ⟨System.sendMsg_late hlate hmsg, hcount⟩

variable (hmode : configuration.mode = .encode)

include hmode in
theorem sendFrame_fresh
    (h : InStep codecs configuration codecId limit s last owed w)
    (hfresh : Fresh last frame.pts)
    (hsendable : sendable libs codecId configuration.wireCompression frame = true)
    (hload : w.load < limit) :
    exists s', ffVtremoteCommonSendFrame (systemLink codecs) libs (some frame) s =
        .returned (.ok ()) s' ∧
      InStep codecs configuration codecId limit s' frame.pts (owed + 1)
        ⟨w.load + 1, w.lost⟩ ∧
      s'.pktQueue = s.pktQueue ∧ (Quiet s -> Quiet s') :=
  sendFrame_inStep hframe h hsendable hload
    (fun _ hmessage => System.sendMsg_fresh hmode h.serves hfresh hmessage)
    (Nat.add_right_comm owed 1 w.lost)

include hmode in
/-- The second copy of a frame is counted and never answered. -/
theorem sendFrame_again
    (h : InStep codecs configuration codecId limit s frame.pts owed w)
    (hpts : frame.pts ≠ Int64.minValue)
    (hsendable : sendable libs codecId configuration.wireCompression frame = true)
    (hload : w.load < limit) :
    exists s', ffVtremoteCommonSendFrame (systemLink codecs) libs (some frame) s =
        .returned (.ok ()) s' ∧
      InStep codecs configuration codecId limit s' frame.pts owed
        ⟨w.load + 1, w.lost + 1⟩ ∧
      s'.pktQueue = s.pktQueue ∧ (Quiet s -> Quiet s') :=
  sendFrame_inStep hframe h hsendable hload
    (fun _ hmessage => System.sendMsg_again hmode h.serves hpts hmessage) rfl

theorem sendFrame_refused
    (h : InStep codecs configuration codecId limit s last owed w)
    (hsendable : sendable libs codecId configuration.wireCompression frame =
      false) :
    exists e s', ffVtremoteCommonSendFrame (systemLink codecs) libs (some frame)
        s = .returned (.error e) s' ∧
      InStep codecs configuration codecId limit s' last owed w ∧
      s'.pktQueue = s.pktQueue ∧ (Quiet s -> Quiet s') := by
  rw [<- h.codecId_eq, <- h.wireCompression] at hsendable
  rcases sendFrame_of_unsendable (systemLink_grants s.fd) h.connected rfl h.grants
    hframe.backed hsendable with ⟨e, s1, _, hs1, hcall⟩
  rcases hs1 with ⟨fd, frameBuf, compBufCap, zstdCctx, rfl, hgrants, rfl⟩
  exact ⟨e, _, hcall, { h with grants := hgrants }, rfl, fun hquiet => hquiet⟩

end Send
end Encoder
end VTRemote
