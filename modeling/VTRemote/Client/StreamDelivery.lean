import VTRemote.Client.EndOfStream

/-!
# What one call delivers

A call of the encoder delivers the first of the packets that are owed, or none;
it fails while packets are owed only if it loses the tail of the stream or does
not take the frame.
-/

namespace VTRemote

attribute [local irreducible] cInt

variable {libs : CompressionLibraries}

/-!
## Receiving and sending
-/

def Receives (pending : List AVPacket) :
    Except AvError AVPacket -> VTRemoteEncContext Host -> Prop
  | .ok pkt, s' => exists rest, pending = pkt :: rest ∧ Owes s' rest
  | .error _, s' => pending = [] ∧ Owes s' []

theorem popPacket_owes {s : VTRemoteEncContext Host} {pending : List AVPacket}
    (h : Owes s pending) (hcount : 0 < s.pktQueue.count) :
    exists pkt rest s', popPacket hostLink s = .returned (.ok (.ok pkt)) s' ∧
      pending = pkt :: rest ∧ Owes s' rest ∧ s'.pktQueue = s.pktQueue.pop := by
  rcases h with ⟨hworking, hconnected, ahead, hahead, hpending⟩
  have hmalloc := hworking.granted.malloc
  refine ⟨_, s.pktQueue.pop.toList ++ ahead, _, popPacket_of_packetRef hmalloc.1,
    ?_, ?_, rfl⟩
  · rw [hpending, Ring.toList_eq_cons hcount, List.cons_append]
  · refine ⟨⟨hworking.reliable, hmalloc.2⟩, hconnected, ahead, ?_, rfl⟩
    cases hahead with
    | streaming messages hdone hstream => exact .streaming messages hdone hstream
    | finished hdone hstream => exact .finished hdone hstream

structure Awaits (s : VTRemoteEncContext Host) (pending : List AVPacket) :
    Prop where
  owes : Owes s pending
  streaming : s.done = false
  allocated : 0 < s.pktQueue.size
  empty : s.pktQueue.count = 0

theorem receivePacket_owes {s : VTRemoteEncContext Host}
    (message : ServerPacket) (rest : List ServerMessage)
    (hworking : s.fd.Working) (hstream : s.fd.stream = serverStream rest)
    (hconnected : s.connected = true) (hdone : s.done = false)
    (hempty : s.pktQueue.count = 0) (hsize : 0 < s.pktQueue.size) :
    exists s', receiveMessage hostLink (messageHeader .packet message.payload)
        message.payload.bytes s =
          .returned (.ok (some message.view.described)) s' ∧
      Owes s' (ServerMessage.packets rest) := by
  have hroom : s.pktQueue.count < s.pktQueue.size := by
    rw [hempty]
    exact hsize
  rcases enqueuePacket_message message hworking hroom with
    ⟨s1, henqueue, hqueue, _, hdone1, hconnected1, hidles⟩
  have hnil : s.pktQueue.toList = [] := by
    apply List.eq_nil_of_length_eq_zero
    rw [Ring.length_toList, hempty]
  rw [hnil, List.nil_append] at hqueue
  have hcount : 0 < s1.pktQueue.count := by
    rw [<- Ring.length_toList, hqueue]
    exact Nat.one_pos
  have howes1 : Owes s1
      (message.view.described :: ServerMessage.packets rest) := by
    refine ⟨hidles.2 hworking, hconnected1.trans hconnected, _,
      .streaming rest (hdone1.trans hdone) ?_, ?_⟩
    · show atoms eintr s1.fd.incoming = _
      rw [hidles.1]
      exact hstream
    · rw [hqueue]
      rfl
  rcases popPacket_owes howes1 hcount with ⟨pkt, rest', s2, hpop, hcons, howes2, _⟩
  injection hcons with hpkt hrest
  refine ⟨{ s2 with inflightFrames := s2.inflightFrames - 1 }, ?_, ?_⟩
  · unfold receiveMessage popReceived
    simp only [messageHeader_type]
    rw [Call.bind_of_ok _ henqueue, Call.get_bind, if_pos hcount,
      Call.bind_of_ok _ hpop, hpkt]
    rfl
  · rw [hrest]
    exact howes2.congr howes2.working rfl rfl rfl rfl

theorem receiveRound_owes {s : VTRemoteEncContext Host}
    {pending : List AVPacket} (h : Awaits s pending) :
    (receiveRound hostLink s).Ends
      (fun r s' =>
        match r with
        | .ok none => Awaits s' pending
        | .ok (some pkt) => Receives pending (.ok pkt) s'
        | .error e => Receives pending (.error e) s')
      (fun _ => False) := by
  rcases h with ⟨howes, hdone, hsize, hempty⟩
  have hnil : s.pktQueue.toList = [] := by
    apply List.eq_nil_of_length_eq_zero
    rw [Ring.length_toList, hempty]
  rcases howes.read hdone with ⟨hdr, payload, fd, hread, hnext⟩
  have hlink : onLink hostLink.readMsg s =
      .returned (.ok (hdr, payload)) { s with fd := fd } :=
    onLink_of_returned hread
  unfold receiveRound
  rw [Call.bind_of_ok _ hlink]
  cases hnext with
  | done hworking hstream hpending =>
      simp only [receiveMessage, messageHeader_type, Call.modify_bind]
      refine ⟨hpending.trans hnil, hworking, howes.connected, [],
        .finished rfl hstream, ?_⟩
      show [] = s.pktQueue.toList ++ []
      rw [hnil]
      rfl
  | packet message rest hworking hstream hpending =>
      rcases receivePacket_owes (s := { s with fd := fd }) message rest hworking
        hstream howes.connected hdone hempty hsize with ⟨s', hreceive, howes'⟩
      simp only [hreceive]
      rw [hnil] at hpending
      exact ⟨_, hpending, howes'⟩
  | ping payload rest hworking hstream hpending =>
      rcases handleOther_ping (s := { s with fd := fd }) payload hworking with
        ⟨fd', hidles, hother⟩
      have howes' : Owes { s with fd := fd } pending :=
        ⟨hworking, howes.connected, _, .streaming rest hdone hstream, hpending⟩
      simp only [receiveMessage, messageHeader_type]
      rw [Call.bind_of_ok _ hother]
      exact ⟨howes'.idle hidles, hdone, hsize, hempty⟩

theorem ffVtremoteCommonReceivePacket_owes {s : VTRemoteEncContext Host}
    {pending : List AVPacket} (h : Owes s pending)
    (hsize : 0 < s.pktQueue.size) (hempty : s.pktQueue.count = 0) :
    (ffVtremoteCommonReceivePacket hostLink s).Ends (Receives pending)
      (fun _ => False) := by
  unfold ffVtremoteCommonReceivePacket
  rw [Call.get_bind]
  cases hdone : s.done with
  | true =>
      rw [if_pos rfl]
      have hnil : pending = [] := by
        rw [(h.of_done hdone).1]
        apply List.eq_nil_of_length_eq_zero
        rw [Ring.length_toList, hempty]
      refine ⟨hnil, ?_⟩
      rw [<- hnil]
      exact h
  | false =>
      rw [if_neg Bool.false_ne_true, if_neg (by rw [hempty]; exact Nat.lt_irrefl 0)]
      apply Call.ends_loop_of_lt (fun s' => Awaits s' pending)
        (fun _ _ => receiveRound_consumes hostLink_consumes)
      · intro s1 hs1
        apply (receiveRound_owes hs1).mono
        · intro r s' hr
          cases r with
          | error e => exact hr
          | ok result =>
              cases result with
              | none => exact hr
              | some pkt => exact hr
        · exact fun _ h => h
      · exact ⟨h, hdone, hsize, hempty⟩
      · exact Nat.lt_succ_self _

theorem ffVtremoteCommonSendFrame_owes {s : VTRemoteEncContext Host}
    {pending : List AVPacket} (h : Owes s pending) (frame : Option AVFrame) :
    (ffVtremoteCommonSendFrame hostLink libs frame s).Ends
      (fun r s' => Owes s' pending ∧ s'.pktQueue = s.pktQueue ∧
        (frame = none -> r = .ok ()))
      (fun _ => False) := by
  cases frame with
  | none =>
      rcases vtremoteSendMsg_of_working h.working .flush Payload.empty with
        ⟨fd, hsend, hidles⟩
      have hlink : onLink (hostLink.sendMsg .flush Payload.empty)
          { s with flushing := true } =
            .returned (.ok ()) { s with flushing := true, fd := fd } :=
        onLink_of_returned hsend
      rw [ffVtremoteCommonSendFrame, Call.get_bind,
        if_neg (by rw [h.connected]; simp), Call.modify_bind, hlink]
      have howes := h.idle hidles
      exact ⟨howes.congr howes.working rfl rfl rfl rfl, rfl, fun _ => rfl⟩
  | some frame =>
      have hsend : (ffVtremoteCommonSendFrame hostLink libs (some frame) s).Ends
          (FrameSend hostLink Idles s) (fun _ => False) := by
        apply sendFrame_ends_of
        · intro s1 payload fd hprepares hblocked
          rcases vtremoteSendMsg_of_working (hprepares.1.2 h.working) .frame
            payload with ⟨_, hreturned, _⟩
          have hmsg : vtremoteSendMsg .frame payload s1.fd = .blocked fd := hblocked
          rw [hreturned] at hmsg
          cases hmsg
        · intro i s1 _
          have hreturns : Call.Returns hostLink.malloc := by
            intro h
            show (avMalloc h).Ends _ _
            rw [avMalloc_eq]
            exact trivial
          exact (prepareCompression_returns hreturns libs frame i).moves
            (prepareCompression_prepares avMalloc_idles libs frame i) s1
      have hprepared : forall {s1 : VTRemoteEncContext Host},
          Prepares Idles s s1 ->
            Owes s1 pending ∧ s1.pktQueue = s.pktQueue := by
        intro s1 h
        rcases h with ⟨hidles, _, _, _, _, rfl⟩
        have howes := h.idle hidles
        exact ⟨howes.congr howes.working rfl rfl rfl rfl, rfl⟩
      have hmessage : forall {s1 : VTRemoteEncContext Host}
          {r : Except AvError Unit} {payload : Payload} {fd : Host},
          Prepares Idles s s1 ->
          vtremoteSendMsg .frame payload s1.fd = .returned r fd ->
            Owes { s1 with fd := fd } pending := by
        intro s1 r payload fd hprepares hmsg
        have hidles := vtremoteSendMsg_idles .frame payload s1.fd
        rw [hmsg] at hidles
        exact (hprepared hprepares).1.idle hidles
      apply hsend.mono
      · intro r s' hframe
        cases hframe with
        | unsent hprepares =>
            have howes := hprepared hprepares
            exact ⟨howes.1, howes.2,
              fun hnone => absurd hnone (Option.some_ne_none frame)⟩
        | failed hprepares hmsg =>
            exact ⟨hmessage hprepares hmsg, (hprepared hprepares).2,
              fun hnone => absurd hnone (Option.some_ne_none frame)⟩
        | sent hprepares hmsg =>
            have howes := hmessage hprepares hmsg
            exact ⟨howes.congr howes.working rfl rfl rfl rfl,
              (hprepared hprepares).2,
              fun hnone => absurd hnone (Option.some_ne_none frame)⟩
      · exact fun _ h => h

theorem ignoredSend_owes {s : VTRemoteEncContext Host}
    {pending : List AVPacket} (h : Owes s pending) (frame : Option AVFrame) :
    (ignored (ffVtremoteCommonSendFrame hostLink libs frame) s).Ends
      (fun r s' => r = .ok () ∧ Owes s' pending) (fun _ => False) := by
  unfold ignored
  apply Call.ends_attempt_bind (ffVtremoteCommonSendFrame_owes h frame)
  intro r s' h
  rcases h with ⟨howes, _⟩
  exact ⟨rfl, howes⟩

/-!
## The opening drain
-/

theorem allocateQueue_owes {s : VTRemoteEncContext Host}
    {pending : List AVPacket} (h : Owes s pending) :
    exists s1, allocateQueue hostLink s = .returned (.ok ()) s1 ∧
      Owes s1 pending ∧ 0 < s1.pktQueue.size ∧
      (¬ LosesTail s -> DrainFails s1 -> pending = []) := by
  have hfails : forall {s1 : VTRemoteEncContext Host}, Owes s1 pending ->
      s1.pktQueue.count = 0 -> DrainFails s1 -> pending = [] := by
    intro s1 howes hcount h
    rcases h with ⟨hdone, _, _⟩
    rw [(howes.of_done hdone).1]
    apply List.eq_nil_of_length_eq_zero
    rw [Ring.length_toList, hcount]
  unfold allocateQueue
  rw [Call.get_bind]
  by_cases hsize : s.pktQueue.size = 0
  · rw [if_pos hsize]
    have hcount : s.pktQueue.count = 0 :=
      Nat.le_zero.mp (hsize ▸ s.pktQueue.count_le)
    have hmalloc := h.working.granted.malloc
    have hlink : onLink hostLink.malloc s = .returned (.ok ())
        { s with fd := { s.fd with heap := s.fd.heap.tail } } :=
      onLink_of_returned hmalloc.1
    rw [Call.bind_of_ok _ hlink]
    have howes : Owes { s with
        fd := { s.fd with heap := s.fd.heap.tail }
        pktQueue := Ring.new (max 4 (s.inflight * 2)) } pending := by
      rcases h with ⟨hworking, hconnected, ahead, hahead, hpending⟩
      refine ⟨⟨hworking.reliable, hmalloc.2⟩, hconnected, ahead, ?_, ?_⟩
      · cases hahead with
        | streaming messages hdone hstream =>
            exact .streaming messages hdone hstream
        | finished hdone hstream => exact .finished hdone hstream
      · have hnil : s.pktQueue.toList = [] := by
          apply List.eq_nil_of_length_eq_zero
          rw [Ring.length_toList, hcount]
        rw [hpending, hnil]
        rfl
    refine ⟨_, rfl, howes, ?_, fun _ => hfails howes rfl⟩
    show 0 < (Ring.new _ : Ring AVPacket).size
    rw [Ring.size_new]
    exact Nat.lt_of_lt_of_le (Nat.succ_pos 3) (Nat.le_max_left _ _)
  · rw [if_neg hsize]
    refine ⟨s, rfl, h, Nat.pos_of_ne_zero hsize, ?_⟩
    intro hlose hdrain
    by_cases hcount : 0 < s.pktQueue.count
    · exact absurd ⟨hdrain.1, hcount, hdrain.2.1, hdrain.2.2⟩ hlose
    · exact hfails h (Nat.eq_zero_of_not_pos hcount) hdrain

theorem openingDrain_owes {s : VTRemoteEncContext Host}
    {pending : List AVPacket} (h : Owes s pending) (hlose : ¬ LosesTail s) :
    (openingDrain hostLink s).Ends
      (fun r s' => (Owes s' pending ∧ 0 < s'.pktQueue.size) ∧
        (r = .ok () ∨ pending = []))
      (fun _ => False) := by
  rcases allocateQueue_owes h with ⟨s1, hallocate, howes, hsize, hfails⟩
  unfold openingDrain
  rw [Call.bind_of_ok _ hallocate]
  apply Call.ends_attempt_bind
    (vtremoteDrainAvailablePackets_owes howes (hfails hlose))
  intro result s' h
  rcases h with ⟨⟨howes', hsize'⟩, hr⟩
  rw [<- hsize'] at hsize
  cases result with
  | ok _ => exact ⟨⟨howes', hsize⟩, Or.inl rfl⟩
  | error e =>
      have hnil : pending = [] := by
        rcases hr with hr | hr
        · cases hr
        · exact hr
      simp only
      split
      · exact ⟨⟨howes', hsize⟩, Or.inr hnil⟩
      · exact ⟨⟨howes', hsize⟩, Or.inr hnil⟩

/-- A call that starts by losing the tail fails. -/
theorem openingDrain_losesTail {s : VTRemoteEncContext Host}
    {pending : List AVPacket} (h : Owes s pending) (hlose : LosesTail s) :
    exists s', openingDrain hostLink s = .returned (.error averrorEof) s' := by
  rcases hlose with ⟨hdone, hcount, hroom, hclose⟩
  have hsize : ¬ s.pktQueue.size = 0 :=
    Nat.ne_of_gt (Nat.lt_of_le_of_lt (Nat.zero_le _) hroom)
  have hallocate : allocateQueue hostLink s = .returned (.ok ()) s := by
    unfold allocateQueue
    rw [Call.get_bind, if_neg hsize]
    rfl
  rcases vtremoteDrainAvailablePackets_fails h ⟨hdone, hroom, hclose⟩ with
    ⟨s', hdrain⟩
  refine ⟨s', ?_⟩
  unfold openingDrain
  rw [Call.bind_of_ok _ hallocate,
    Call.bind_of_ok _ (Call.attempt_of_returned hdrain)]
  simp only [if_neg averrorEof_ne_eagain]
  rfl

end VTRemote
