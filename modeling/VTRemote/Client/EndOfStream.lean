import VTRemote.Client.EncoderFuel
import VTRemote.Client.ServerStream

/-!
# The end of the encoded stream

Which packets a client still owes its caller, and when the packets in front of
DONE are lost.
-/

namespace VTRemote

attribute [local irreducible] cInt

variable {libs : CompressionLibraries}

inductive Ahead (s : VTRemoteEncContext Host) : List AVPacket -> Prop where
  | streaming (messages : List ServerMessage) (hdone : s.done = false)
      (hstream : s.fd.stream = serverStream messages) :
      Ahead s (ServerMessage.packets messages)
  | finished (hdone : s.done = true) (hstream : s.fd.stream = [.eof]) :
      Ahead s []

/-- The packets that the caller has yet to get: those in the queue and those that
can still be read, on a working connection. -/
structure Owes (s : VTRemoteEncContext Host) (pending : List AVPacket) :
    Prop where
  working : s.fd.Working
  connected : s.connected = true
  ahead : exists rest, Ahead s rest ∧ pending = s.pktQueue.toList ++ rest

/-- DONE has been read, packets are still queued, the queue has room, and the
end of the connection is there to be read. -/
def LosesTail (s : VTRemoteEncContext Host) : Prop :=
  s.done = true ∧ 0 < s.pktQueue.count ∧ s.pktQueue.count < s.pktQueue.size ∧
    s.fd.incoming.head? = some .close

instance (s : VTRemoteEncContext Host) : Decidable (LosesTail s) :=
  inferInstanceAs (Decidable (_ ∧ _ ∧ _ ∧ _))

theorem Owes.congr {s s' : VTRemoteEncContext Host} {pending : List AVPacket}
    (h : Owes s pending) (hworking : s'.fd.Working)
    (hstream : s'.fd.stream = s.fd.stream) (hconnected : s'.connected = s.connected)
    (hdone : s'.done = s.done) (hqueue : s'.pktQueue = s.pktQueue) :
    Owes s' pending := by
  rcases h with ⟨_, hconn, rest, hahead, hpending⟩
  refine ⟨hworking, hconnected.trans hconn, rest, ?_, ?_⟩
  · cases hahead with
    | streaming messages hdone' hstream' =>
        exact .streaming messages (hdone.trans hdone') (hstream.trans hstream')
    | finished hdone' hstream' =>
        exact .finished (hdone.trans hdone') (hstream.trans hstream')
  · rw [hqueue]
    exact hpending

theorem Owes.of_done {s : VTRemoteEncContext Host} {pending : List AVPacket}
    (h : Owes s pending) (hdone : s.done = true) :
    pending = s.pktQueue.toList ∧ s.fd.stream = [.eof] := by
  rcases h.ahead with ⟨rest, hahead, hpending⟩
  cases hahead with
  | streaming messages hdone' _ =>
      rw [hdone] at hdone'
      cases hdone'
  | finished _ hstream =>
      rw [List.append_nil] at hpending
      exact ⟨hpending, hstream⟩

/-!
## One message
-/

theorem Owes.idle {s : VTRemoteEncContext Host} {pending : List AVPacket}
    {fd : Host} (h : Owes s pending) (hidles : Idles s.fd fd) :
    Owes { s with fd := fd } pending := by
  refine h.congr (hidles.2 h.working) ?_ rfl rfl rfl
  unfold Host.stream
  rw [hidles.1]

theorem handleOther_ping {s : VTRemoteEncContext Host} (payload : Payload)
    (hworking : s.fd.Working) :
    exists fd, Idles s.fd fd ∧
      handleOther hostLink (messageHeader .ping payload) s =
        .returned (.ok ()) { s with fd := fd } := by
  rcases vtremoteSendMsg_of_working hworking .pong Payload.empty with
    ⟨fd, hsend, hidles⟩
  refine ⟨fd, hidles, ?_⟩
  have hlink : onLink (hostLink.sendMsg .pong Payload.empty) s =
      .returned (.ok ()) { s with fd := fd } := onLink_of_returned hsend
  unfold handleOther ignored
  simp only [messageHeader_type]
  rw [Call.bind_of_ok _ (Call.attempt_of_returned hlink)]
  rfl

theorem enqueuePacket_message {s : VTRemoteEncContext Host}
    (message : ServerPacket) (hworking : s.fd.Working)
    (hroom : s.pktQueue.count < s.pktQueue.size) :
    exists s', enqueuePacket hostLink message.payload.bytes
        (cInt (messageHeader .packet message.payload).length.toNat) s =
          .returned (.ok ()) s' ∧
      s'.pktQueue.toList = s.pktQueue.toList ++ [message.view.described] ∧
      s'.pktQueue.size = s.pktQueue.size ∧
      s'.done = s.done ∧ s'.connected = s.connected ∧ Idles s.fd s'.fd := by
  have hmalloc : hostLink.malloc s.fd =
      .returned (.ok ()) { s.fd with heap := s.fd.heap.tail } :=
    hworking.granted.malloc.1
  have henqueue := enqueuePacket_of_malloc message.parsed message.allocatable
    hroom hmalloc
  rw [messageHeader_payloadLength]
  refine ⟨_, henqueue, ?_, ?_, rfl, rfl, ?_⟩
  · exact Ring.toList_push_again default message.view.described hroom
  · simp
  · exact ⟨rfl, fun h => ⟨h.reliable, h.granted.malloc.2⟩⟩

inductive NextMessage (s : VTRemoteEncContext Host) (pending : List AVPacket) :
    VTRemoteMsgHeader -> Bytes -> Host -> Prop where
  | done {fd : Host} (hworking : fd.Working) (hstream : fd.stream = [.eof])
      (hpending : pending = s.pktQueue.toList) :
      NextMessage s pending (messageHeader .done Payload.empty) [] fd
  | packet {fd : Host} (message : ServerPacket) (rest : List ServerMessage)
      (hworking : fd.Working) (hstream : fd.stream = serverStream rest)
      (hpending : pending = s.pktQueue.toList ++
        message.view.described :: ServerMessage.packets rest) :
      NextMessage s pending (messageHeader .packet message.payload)
        message.payload.bytes fd
  | ping {fd : Host} (payload : Payload) (rest : List ServerMessage)
      (hworking : fd.Working) (hstream : fd.stream = serverStream rest)
      (hpending : pending = s.pktQueue.toList ++ ServerMessage.packets rest) :
      NextMessage s pending (messageHeader .ping payload) payload.bytes fd

theorem Owes.read {s : VTRemoteEncContext Host} {pending : List AVPacket}
    (h : Owes s pending) (hdone : s.done = false) :
    exists hdr payload fd, vtremoteReadMsg s.fd =
        .returned (.ok (hdr, payload)) fd ∧
      NextMessage s pending hdr payload fd := by
  rcases h.ahead with ⟨_, hahead, hpending⟩
  cases hahead with
  | finished hdone' _ =>
      rw [hdone] at hdone'
      cases hdone'
  | streaming messages _ hstream =>
      cases messages with
      | nil =>
          rcases vtremoteReadMsg_wire h.working hstream with
            ⟨fd, hread, hrest, hworking⟩
          refine ⟨_, _, fd, hread, .done hworking hrest ?_⟩
          rw [hpending]
          exact List.append_nil _
      | cons message rest =>
          cases message with
          | packet message =>
              rcases vtremoteReadMsg_wire h.working hstream with
                ⟨fd, hread, hrest, hworking⟩
              exact ⟨_, _, fd, hread, .packet message rest hworking hrest hpending⟩
          | ping payload =>
              rcases vtremoteReadMsg_wire h.working hstream with
                ⟨fd, hread, hrest, hworking⟩
              exact ⟨_, _, fd, hread, .ping payload rest hworking hrest hpending⟩

/-!
## The drain
-/

theorem drainMessage_owes {s : VTRemoteEncContext Host}
    {pending : List AVPacket} {hdr : VTRemoteMsgHeader} {payload : Bytes}
    {fd : Host} (hnext : NextMessage s pending hdr payload fd)
    (hconnected : s.connected = true) (hdone : s.done = false)
    (hroom : s.pktQueue.count < s.pktQueue.size) :
    exists result s', drainMessage hostLink hdr payload { s with fd := fd } =
        .returned (.ok result) s' ∧ Owes s' pending ∧
      s'.pktQueue.size = s.pktQueue.size ∧
      (result = none -> s'.done = false) := by
  cases hnext with
  | done hworking hstream hpending =>
      refine ⟨some (), { s with fd := fd, done := true }, ?_, ?_, rfl, ?_⟩
      · unfold drainMessage
        simp only [messageHeader_type]
        rfl
      · refine ⟨hworking, hconnected, [], .finished rfl hstream, ?_⟩
        rw [List.append_nil]
        exact hpending
      · intro h
        cases h
  | packet message rest hworking hstream hpending =>
      have hroom' : ({ s with fd := fd } : VTRemoteEncContext Host).pktQueue.count <
          ({ s with fd := fd } : VTRemoteEncContext Host).pktQueue.size := hroom
      rcases enqueuePacket_message message hworking hroom' with
        ⟨s1, henqueue, hqueue, hsize, hdone', hconnected', hidles⟩
      refine ⟨none, { s1 with inflightFrames := s1.inflightFrames - 1 }, ?_, ?_,
        hsize, fun _ => hdone'.trans hdone⟩
      · unfold drainMessage
        simp only [messageHeader_type]
        rw [Call.bind_of_ok _ henqueue]
        rfl
      · refine ⟨hidles.2 hworking, hconnected'.trans hconnected,
          ServerMessage.packets rest,
          .streaming rest (hdone'.trans hdone) ?_, ?_⟩
        · show atoms eintr s1.fd.incoming = _
          rw [hidles.1]
          exact hstream
        · show pending = s1.pktQueue.toList ++ _
          rw [hqueue, hpending, List.append_assoc]
          rfl
  | ping payload rest hworking hstream hpending =>
      rcases handleOther_ping (s := { s with fd := fd }) payload hworking with ⟨fd', hidles, hother⟩
      have howes : Owes { s with fd := fd } pending :=
        ⟨hworking, hconnected, _, .streaming rest hdone hstream, hpending⟩
      refine ⟨none, { s with fd := fd' }, ?_, howes.idle hidles, rfl,
        fun _ => hdone⟩
      unfold drainMessage
      simp only [messageHeader_type]
      rw [Call.bind_of_ok _ hother]
      rfl

def DrainFails (s : VTRemoteEncContext Host) : Prop :=
  s.done = true ∧ s.pktQueue.count < s.pktQueue.size ∧
    s.fd.incoming.head? = some .close

theorem Owes.stream_cases {s : VTRemoteEncContext Host}
    {pending : List AVPacket} (h : Owes s pending) :
    .fail eagain ∉ s.fd.stream ∧ s.fd.stream ≠ [] := by
  rcases h.ahead with ⟨_, hahead, _⟩
  cases hahead with
  | streaming messages _ hstream =>
      rw [hstream]
      exact ⟨fail_not_mem_serverStream eagain messages,
        serverStream_ne_nil messages⟩
  | finished _ hstream =>
      rw [hstream]
      exact ⟨by simp, by simp⟩

theorem drainRound_owes {s : VTRemoteEncContext Host} {pending : List AVPacket}
    (h : Owes s pending) (hfails : DrainFails s -> pending = []) :
    (drainRound hostLink s).Ends
      (fun r s' => Owes s' pending ∧ s'.pktQueue.size = s.pktQueue.size ∧
        match r with
        | .ok none => s'.done = false
        | .ok (some _) => True
        | .error _ => pending = [])
      (fun _ => False) := by
  unfold drainRound
  rw [Call.get_bind]
  by_cases hroom : s.pktQueue.count < s.pktQueue.size
  · rw [if_pos hroom]
    rcases vtremoteReadMsgNonblock_cases s.fd h.stream_cases.1
      h.stream_cases.2 with ⟨incoming, hread, hstream, _⟩ | ⟨hread, hclose⟩
    · have hlink : onLink hostLink.readMsgNonblock s =
          .returned (.error (averror eagain))
            { s with fd := { s.fd with incoming } } := onLink_of_returned hread
      rw [Call.bind_of_ok _ (Call.attempt_of_returned hlink)]
      simp only [if_pos]
      refine ⟨?_, rfl, trivial⟩
      exact h.congr ⟨h.working.reliable, h.working.granted⟩ hstream rfl rfl rfl
    · cases hdone : s.done with
      | true =>
          have heof := (h.of_done hdone).2
          have hnil := hfails ⟨hdone, hroom, hclose heof⟩
          rcases vtremoteReadMsg_eof heof h.working with
            ⟨fd, hread', hstream, hworking⟩
          have hlink : onLink hostLink.readMsgNonblock s =
              .returned (.error averrorEof) { s with fd := fd } :=
            onLink_of_returned (hread.trans hread')
          rw [Call.bind_of_ok _ (Call.attempt_of_returned hlink)]
          simp only [if_neg averrorEof_ne_eagain]
          refine ⟨?_, rfl, hnil⟩
          exact h.congr hworking (hstream.trans heof.symm) rfl rfl rfl
      | false =>
          rcases h.read hdone with ⟨hdr, payload, fd, hread', hnext⟩
          have hlink : onLink hostLink.readMsgNonblock s =
              .returned (.ok (hdr, payload)) { s with fd := fd } :=
            onLink_of_returned (hread.trans hread')
          rw [Call.bind_of_ok _ (Call.attempt_of_returned hlink)]
          rcases drainMessage_owes hnext h.connected hdone hroom with
            ⟨result, s', hcall, howes, hsize, hgo⟩
          simp only [hcall]
          refine ⟨howes, hsize, ?_⟩
          cases result with
          | none => exact hgo rfl
          | some _ => exact trivial
  · rw [if_neg hroom]
    exact ⟨h, rfl, trivial⟩

/-- The drain keeps what is owed, and it fails only when nothing is. -/
theorem vtremoteDrainAvailablePackets_owes {s : VTRemoteEncContext Host}
    {pending : List AVPacket} (h : Owes s pending)
    (hfails : DrainFails s -> pending = []) :
    (vtremoteDrainAvailablePackets hostLink s).Ends
      (fun r s' => (Owes s' pending ∧ s'.pktQueue.size = s.pktQueue.size) ∧
        (r = .ok () ∨ pending = []))
      (fun _ => False) := by
  unfold vtremoteDrainAvailablePackets
  rw [Call.get_bind]
  apply Call.ends_loop_of_lt
    (fun s' => (Owes s' pending ∧ s'.pktQueue.size = s.pktQueue.size) ∧
      (DrainFails s' -> pending = []))
    (fun _ _ => drainRound_consumes hostLink_consumes)
  · intro s1 h
    rcases h with ⟨⟨howes, hsize⟩, hfails⟩
    apply (drainRound_owes howes hfails).mono
    · intro r s' h
      rcases h with ⟨howes', hsize', hr⟩
      have hkeeps := And.intro howes' (hsize'.trans hsize)
      cases r with
      | error e => exact ⟨hkeeps, Or.inr hr⟩
      | ok result =>
          cases result with
          | some a => exact ⟨hkeeps, Or.inl rfl⟩
          | none =>
              refine ⟨hkeeps, ?_⟩
              intro h
              rcases h with ⟨hdone, _⟩
              rw [hr] at hdone
              cases hdone
    · exact fun _ h => h
  · exact ⟨⟨h, rfl⟩, hfails⟩
  · exact Nat.lt_succ_self _

/-- With packets in the queue, the drain of an ended stream fails at once. -/
theorem vtremoteDrainAvailablePackets_fails {s : VTRemoteEncContext Host}
    {pending : List AVPacket} (h : Owes s pending) (hfails : DrainFails s) :
    exists s', vtremoteDrainAvailablePackets hostLink s =
      .returned (.error averrorEof) s' := by
  rcases hfails with ⟨hdone, hroom, hclose⟩
  have heof := (h.of_done hdone).2
  rcases vtremoteReadMsg_eof heof h.working with ⟨fd, hread, _, _⟩
  have hnonblock : vtremoteReadMsgNonblock s.fd = vtremoteReadMsg s.fd := by
    rcases vtremoteReadMsgNonblock_cases s.fd h.stream_cases.1
      h.stream_cases.2 with ⟨_, _, _, hne⟩ | ⟨heq, _⟩
    · exact absurd hclose hne
    · exact heq
  have hlink : onLink hostLink.readMsgNonblock s =
      .returned (.error averrorEof) { s with fd := fd } :=
    onLink_of_returned (hnonblock.trans hread)
  have hround : drainRound hostLink s =
      .returned (.error averrorEof) { s with fd := fd } := by
    unfold drainRound
    rw [Call.get_bind, if_pos hroom,
      Call.bind_of_ok _ (Call.attempt_of_returned hlink)]
    simp only [if_neg averrorEof_ne_eagain]
    rfl
  unfold vtremoteDrainAvailablePackets
  rw [Call.get_bind]
  exact ⟨_, Call.bind_of_error _ hround⟩

end VTRemote
