import VTRemote.Client.QueueSteps

/-!
# Every run is a sequence of steps

The functions of the encoder client one by one: from any state, each of them
takes steps until it returns, or until it stays for good in a call of its
connection.
-/

namespace VTRemote

attribute [local irreducible] cInt

section Runs

variable {σ : Type} {link : Link σ} {libs : CompressionLibraries}
  {s s1 s' : VTRemoteEncContext (Watched σ)}

/-!
## Calls that leave the queue and the window alone
-/

theorem onLink_rests {α : Type} {m : Call AvError (Watched σ) α}
    (h : Call.Moves Lingers m) : Call.Moves Rests (onLink m) := by
  intro s
  apply Call.ends_zoom
  exact (h s.fd).mono
    (fun _ fd hfd => ⟨hfd, fd, s.flushing, s.done, s.frameBuf, s.compBufCap,
      s.zstdCctx, rfl⟩)
    (fun fd hfd => ⟨hfd, fd, s.flushing, s.done, s.frameBuf, s.compBufCap,
      s.zstdCctx, rfl⟩)

theorem modify_done_rests : Call.Moves Rests (Call.modify (fun s =>
    { s with done := true }) : EncCall (Watched σ) Unit) := by
  apply Call.Moves.modify
  intro s
  exact ⟨refl_of Lingers s.fd, s.fd, s.flushing, true, s.frameBuf, s.compBufCap,
    s.zstdCctx, rfl⟩

theorem handleOther_rests (hdr : VTRemoteMsgHeader) :
    Call.Moves Rests (handleOther (watchedLink link) hdr) := by
  unfold handleOther
  split
  · have htype : VTRemoteMsgType.pong ≠ .frame := nofun
    apply Call.Moves.bind (Call.Moves.attempt
      (onLink_rests (watchedLink_sendMsg htype Payload.empty)))
    intro _
    exact Call.Moves.pure ()
  · exact Call.Moves.fail _
  · exact Call.Moves.pure ()

theorem Prepares.rests (h : Prepares Lingers s s') : Rests s s' := by
  rcases h with ⟨hfd, fd, frameBuf, compBufCap, zstdCctx, rfl⟩
  exact ⟨hfd, fd, s.flushing, s.done, frameBuf, compBufCap, zstdCctx, rfl⟩

/-!
## Allocating and storing
-/

theorem onLink_watch {α : Type} (m : Call AvError σ α)
    (events : Except AvError α -> List Exchange)
    (s : VTRemoteEncContext (Watched σ)) :
    (onLink (Watched.watch m events) s).Ends
      (fun r s' => exists fd : Watched σ,
        fd.events = s.fd.events ++ events r ∧ s' = { s with fd := fd })
      (fun s' => exists fd : Watched σ,
        fd.events = s.fd.events ∧ s' = { s with fd := fd }) := by
  apply Call.ends_zoom
  exact (watch_ends m events s.fd).mono (fun _ fd h => ⟨fd, h, rfl⟩)
    (fun fd h => ⟨fd, h, rfl⟩)

theorem allocateQueue_run (s : VTRemoteEncContext (Watched σ)) :
    (allocateQueue (watchedLink link) s).Ends
      (fun r s' => ClientRun s [] s' ∧ (r = .ok () -> 0 < s'.pktQueue.size))
      (Stays s) := by
  have hmalloc : Call.Moves Rests (onLink (watchedLink link).malloc) :=
    onLink_rests watchedLink_malloc
  unfold allocateQueue
  rw [Call.get_bind]
  by_cases hsize : s.pktQueue.size = 0
  · rw [if_pos hsize]
    apply Call.ends_bind (((onLink_watch link.malloc
      (fun r => [.allocated r.isOk]) s).and (hmalloc s)).mono (fun _ _ h => h)
        (fun _ h => Rests.stays h.2))
    · intro e s' h
      rcases h with ⟨_, hrests⟩
      exact ⟨hrests.run, nofun⟩
    · intro _ s' h
      rcases h with ⟨⟨fd, hevents, rfl⟩, _⟩
      refine ⟨(ClientStep.allocates hsize hevents).run, fun _ => ?_⟩
      show 0 < (Ring.new _ : Ring AVPacket).size
      rw [Ring.size_new]
      exact Nat.lt_of_lt_of_le (Nat.succ_pos 3) (Nat.le_max_left _ _)
  · rw [if_neg hsize]
    exact ⟨.refl, fun _ => Nat.pos_of_ne_zero hsize⟩

theorem incomingPacket_of_packet {hdr : VTRemoteMsgHeader} (payload : Bytes)
    (htype : VTRemoteMsgType.ofCode hdr.type = some .packet) :
    incomingPacket hdr payload =
      (vtremoteParsePacket payload (cInt hdr.length.toNat)).toOption.bind
        VTRemotePacketView.incoming := by
  unfold incomingPacket
  rw [if_pos htype]

theorem avNewPacket_of_allocatable {view : VTRemotePacketView}
    (h : view.Allocatable) :
    avNewPacket link (cInt view.dataLen.toNat) = onLink link.malloc := by
  unfold avNewPacket
  rw [if_neg]
  intro h
  rcases h with hneg | hbig
  · exact Int.not_lt.mpr h.1 hneg
  · exact Int.not_le.mpr h.2 hbig

theorem avNewPacket_of_not_allocatable {view : VTRemotePacketView}
    (h : ¬ view.Allocatable) :
    avNewPacket link (cInt view.dataLen.toNat) = Call.fail (averror einval) := by
  unfold avNewPacket
  rw [if_pos]
  rcases Decidable.not_and_iff_not_or_not.mp h with hneg | hbig
  · exact .inl (Int.not_le.mp hneg)
  · exact .inr (Int.not_lt.mp hbig)

/-- A PACKET was read while the queue had room: its packet is queued, or the call
fails. -/
theorem enqueuePacket_run {hdr : VTRemoteMsgHeader} {payload : Bytes}
    {payloadSize : Int} {fd : Watched σ}
    (hroom : s.pktQueue.count < s.pktQueue.size)
    (htype : VTRemoteMsgType.ofCode hdr.type = some .packet)
    (hincoming : incomingPacket hdr payload =
      (vtremoteParsePacket payload payloadSize).toOption.bind
        VTRemotePacketView.incoming)
    (hevents : fd.events = s.fd.events ++ [.read hdr payload]) :
    (enqueuePacket (watchedLink link) payload payloadSize
      { s with fd := fd }).Ends
      (fun r s' =>
        match r with
        | .ok _ => Enqueues s s'
        | .error _ => ClientRun s [] s')
      (Halts s) := by
  unfold enqueuePacket
  cases hparse : vtremoteParsePacket payload payloadSize with
  | error e =>
      rw [hparse] at hincoming
      exact (ClientStep.refuses hroom htype (.inl ⟨rfl, hincoming⟩) (.inl rfl)
        hevents).run
  | ok view =>
      have hsize : ¬ s.pktQueue.size = 0 :=
        Nat.ne_of_gt (Nat.lt_of_le_of_lt (Nat.zero_le _) hroom)
      have hsome : (Except.ok view :
          Except (AccessError AvError) VTRemotePacketView).toOption = some view := rfl
      rw [hparse, hsome, Option.bind_some] at hincoming
      unfold VTRemotePacketView.incoming at hincoming
      rw [<- view.toAVPacket_eq] at hincoming
      dsimp only
      rw [Call.get_bind, if_neg hsize, Call.modify_bind]
      by_cases hview : view.Allocatable
      · rw [if_pos hview] at hincoming
        rw [avNewPacket_of_allocatable hview]
        apply Call.ends_bind ((onLink_watch link.malloc
          (fun r => [.allocated r.isOk]) _).mono (fun _ _ h => h) _)
        · intro e s' h
          rcases h with ⟨fd', hevents', rfl⟩
          rw [hevents, List.append_assoc] at hevents'
          exact (ClientStep.refuses hroom htype (.inr rfl) (.inr rfl)
            hevents').run
        · intro _ s' h
          rcases h with ⟨fd', hevents', rfl⟩
          rw [hevents, List.append_assoc] at hevents'
          have hroom' : ((s.pktQueue.store default).store view.toAVPacket).count <
              ((s.pktQueue.store default).store view.toAVPacket).size := by
            rw [Ring.count_store, Ring.count_store, Ring.size_store,
              Ring.size_store]
            exact hroom
          rw [Call.modify_bind, Call.get_bind]
          dsimp only
          rw [if_pos hroom']
          exact Enqueues.stored hroom hincoming hevents'
        · intro s' h
          rcases h with ⟨fd', hevents', rfl⟩
          exact .storing hroom htype (hevents'.trans hevents)
      · rw [if_neg hview] at hincoming
        rw [avNewPacket_of_not_allocatable hview]
        exact (ClientStep.refuses hroom htype (.inl ⟨rfl, hincoming⟩) (.inr rfl)
          hevents).run

theorem popPacket_run (hqueued : 0 < s.pktQueue.count) :
    (popPacket (watchedLink link) s).Ends
      (fun r s' => exists rc : Except AvError AVPacket, r = .ok rc ∧
        rc.toOption.toList = s.taken rc.isOk ∧ Takes s rc.isOk s')
      (fun s' => exists fd : Watched σ,
        fd.events = s.fd.events ∧ s' = { s with fd := fd }) := by
  unfold popPacket
  rw [Call.get_bind]
  apply Call.ends_attempt_bind (onLink_watch link.packetRef
    (fun r => [.referenced r.isOk]) s)
  intro r s' h
  rcases h with ⟨fd, hevents, rfl⟩
  rw [Call.modify_bind]
  cases r with
  | ok _ => exact ⟨_, rfl, rfl, .popped hqueued hevents⟩
  | error e => exact ⟨_, rfl, rfl, .popped hqueued hevents⟩

/-!
## The drain
-/

theorem rests_of_lingers {fd : Watched σ} (h : Lingers s.fd fd) :
    Rests s { s with fd := fd } :=
  ⟨h, fd, s.flushing, s.done, s.frameBuf, s.compBufCap, s.zstdCctx, rfl⟩

theorem rests_of_same {fd : Watched σ} (h : fd.events = s.fd.events) :
    Rests s { s with fd := fd } :=
  rests_of_lingers (lingers_of_same h)

theorem rests_of_read {hdr : VTRemoteMsgHeader} {payload : Bytes} {fd : Watched σ}
    (htype : VTRemoteMsgType.ofCode hdr.type ≠ some .packet)
    (hevents : fd.events = s.fd.events ++ [.read hdr payload]) :
    Rests s { s with fd := fd } := by
  have hidle : (Exchange.read hdr payload).Idle := htype
  exact rests_of_lingers (lingers_of_idle hidle hevents)

theorem drainMessage_run {hdr : VTRemoteMsgHeader} {payload : Bytes}
    {fd : Watched σ} (hroom : s.pktQueue.count < s.pktQueue.size)
    (hevents : fd.events = s.fd.events ++ [.read hdr payload]) :
    (drainMessage (watchedLink link) hdr payload { s with fd := fd }).Ends
      (fun _ s' => ClientRun s [] s') (Stays s) := by
  by_cases htype : VTRemoteMsgType.ofCode hdr.type = some .packet
  · unfold drainMessage
    simp only [htype]
    apply Call.ends_bind ((enqueuePacket_run hroom htype
      (incomingPacket_of_packet payload htype) hevents).mono (fun _ _ h => h)
        (fun _ => Halts.stays))
    · exact fun _ _ hrefuses => hrefuses
    · intro _ s' henqueues
      exact (ClientStep.accepts henqueues).run
  · have hrests := rests_of_read htype hevents
    have hother : Call.Moves Rests (drainMessage (watchedLink link) hdr payload) := by
      unfold drainMessage
      split
      · exact absurd ‹_› htype
      · apply Call.Moves.bind modify_done_rests
        intro _
        exact Call.Moves.pure _
      · apply Call.Moves.bind (handleOther_rests hdr)
        intro _
        exact Call.Moves.pure _
    exact (hother _).mono (fun _ _ h => (trans_of Rests hrests h).run)
      (fun _ h => (trans_of Rests hrests h).stays)

theorem drainRound_run (s : VTRemoteEncContext (Watched σ)) :
    (drainRound (watchedLink link) s).Ends (fun _ s' => ClientRun s [] s')
      (Stays s) := by
  unfold drainRound
  rw [Call.get_bind]
  by_cases hroom : s.pktQueue.count < s.pktQueue.size
  · rw [if_pos hroom]
    apply Call.ends_attempt_bind ((onLink_watch link.readMsgNonblock
      Watched.readEvents s).mono (fun _ _ h => h) _)
    · intro r s' h
      rcases h with ⟨fd, hevents, rfl⟩
      cases r with
      | error e =>
          have hrests := rests_of_same (hevents.trans (List.append_nil _))
          dsimp only
          split
          · exact hrests.run
          · exact hrests.run
      | ok message => exact drainMessage_run hroom hevents
    · intro s' h
      rcases h with ⟨fd, hevents, rfl⟩
      exact (rests_of_same hevents).stays
  · rw [if_neg hroom]
    exact .refl

theorem vtremoteDrainAvailablePackets_run
    (s : VTRemoteEncContext (Watched σ)) :
    (vtremoteDrainAvailablePackets (watchedLink link) s).Ends
      (fun _ s' => ClientRun s [] s') (Stays s) := by
  unfold vtremoteDrainAvailablePackets
  rw [Call.get_bind]
  apply Call.ends_loop (R := fun s _ s' => ClientRun s [] s')
    (C := fun s s' => ClientRun s [] s') stays_refl
  · exact fun _ _ _ _ hrun hrun' => hrun.trans hrun'
  · exact fun _ _ _ => ClientRun.stays
  · intro s1
    apply (drainRound_run s1).mono
    · intro r s' hrun
      cases r with
      | error e => exact hrun
      | ok result =>
          cases result with
          | none => exact hrun
          | some _ => exact hrun
    · exact fun _ h => h

theorem openingDrain_run (s : VTRemoteEncContext (Watched σ)) :
    (openingDrain (watchedLink link) s).Ends
      (fun r s' => ClientRun s [] s' ∧ (r = .ok () -> 0 < s'.pktQueue.size))
      (Stays s) := by
  unfold openingDrain
  apply Call.ends_bind (allocateQueue_run s)
  · intro e s1 h
    rcases h with ⟨hrun, _⟩
    exact ⟨hrun, nofun⟩
  · intro _ s1 h
    rcases h with ⟨hrun, hsize⟩
    apply Call.ends_attempt_bind ((vtremoteDrainAvailablePackets_run s1).mono
      (fun _ _ h => h) (fun _ => hrun.stays))
    intro r s' hrun'
    have hkeeps : ClientRun s [] s' ∧ 0 < s'.pktQueue.size :=
      ⟨hrun.trans hrun', hrun'.size_pos (hsize rfl)⟩
    cases r with
    | ok _ => exact ⟨hkeeps.1, fun _ => hkeeps.2⟩
    | error e =>
        dsimp only
        split
        · exact ⟨hkeeps.1, fun _ => hkeeps.2⟩
        · exact ⟨hkeeps.1, fun _ => hkeeps.2⟩

/-!
## Waiting for a packet
-/

/-- A PACKET was waited for and its packet passed on, or the call failed. -/
def Obtains (s : VTRemoteEncContext (Watched σ)) :
    Except AvError AVPacket -> VTRemoteEncContext (Watched σ) -> Prop
  | .ok pkt, s' => exists s1 s2, Rests s s1 ∧ Enqueues s1 s2 ∧
      Takes (released s2) true s' ∧ [pkt] = (released s2).taken true
  | .error _, s' => ClientRun s [] s'

theorem Obtains.run {r : Except AvError AVPacket} (h : Obtains s r s') :
    ClientRun s r.toOption.toList s' := by
  cases r with
  | error e => exact h
  | ok pkt =>
      rcases h with ⟨s1, s2, hrests, henqueues, htakes, hpkt⟩
      have haccepts := (ClientStep.accepts henqueues).run
      show ClientRun s [pkt] s'
      rw [hpkt]
      exact hrests.run.trans (haccepts.trans (ClientStep.takes htakes).run)

theorem Takes.released {granted : Bool} (h : Takes s granted s') :
    Takes (released s) granted (released s') := by
  cases h with
  | popped hqueued hevents =>
      exact .popped (s := VTRemote.released s) hqueued hevents

theorem popReceived_run (henqueues : Enqueues s s1) :
    (popReceived (watchedLink link) s1).Ends
      (fun r s' =>
        match r with
        | .ok none => Rests s s'
        | .ok (some pkt) => Obtains s (.ok pkt) s'
        | .error e => Obtains s (.error e) s')
      (Stays s) := by
  have hqueued : 0 < s1.pktQueue.count := by
    rw [henqueues.count]
    exact Nat.succ_pos _
  unfold popReceived
  rw [Call.get_bind, if_pos hqueued]
  apply Call.ends_bind_ok ((popPacket_run hqueued).mono (fun _ _ h => h) _)
  · intro rc s2 h
    rcases h with ⟨hout, htakes⟩
    unfold releaseSlot
    rw [Call.modify_bind]
    cases rc with
    | ok pkt =>
        exact ⟨s, s1, refl_of Rests s, henqueues, htakes.released, hout⟩
    | error e =>
        have haccepts := (ClientStep.accepts henqueues).run
        exact haccepts.trans (ClientStep.takes htakes.released).run
  · intro s2 h
    rcases h with ⟨fd, hevents, rfl⟩
    exact (Halts.taking henqueues hevents).stays

theorem receiveMessage_of_other {hdr : VTRemoteMsgHeader} (payload : Bytes)
    (hpacket : VTRemoteMsgType.ofCode hdr.type ≠ some .packet)
    (hdone : VTRemoteMsgType.ofCode hdr.type ≠ some .done) :
    receiveMessage (watchedLink link) hdr payload =
      handleOther (watchedLink link) hdr >>= fun _ => pure none := by
  unfold receiveMessage
  split
  · exact absurd ‹_› hpacket
  · exact absurd ‹_› hdone
  · rfl

theorem receiveMessage_run {hdr : VTRemoteMsgHeader} {payload : Bytes}
    {fd : Watched σ} (hroom : s.pktQueue.count < s.pktQueue.size)
    (hevents : fd.events = s.fd.events ++ [.read hdr payload]) :
    (receiveMessage (watchedLink link) hdr payload { s with fd := fd }).Ends
      (fun r s' =>
        match r with
        | .ok none => Rests s s'
        | .ok (some pkt) => Obtains s (.ok pkt) s'
        | .error e => Obtains s (.error e) s')
      (Stays s) := by
  by_cases htype : VTRemoteMsgType.ofCode hdr.type = some .packet
  · unfold receiveMessage
    simp only [htype]
    apply Call.ends_bind ((enqueuePacket_run hroom htype
      (incomingPacket_of_packet payload htype) hevents).mono (fun _ _ h => h)
        (fun _ => Halts.stays))
    · exact fun _ _ hrefuses => hrefuses
    · intro _ s' henqueues
      exact popReceived_run henqueues
  · have hrests := rests_of_read htype hevents
    by_cases hdone : VTRemoteMsgType.ofCode hdr.type = some .done
    · unfold receiveMessage
      simp only [hdone]
      exact (trans_of Rests hrests (modify_done_rests.state _)).run
    · rw [receiveMessage_of_other payload htype hdone]
      apply Call.ends_bind ((handleOther_rests hdr _).mono (fun _ _ h => h)
        (fun _ h => (trans_of Rests hrests h).stays))
      · exact fun _ _ h => (trans_of Rests hrests h).run
      · exact fun _ _ h => trans_of Rests hrests h

theorem receiveRound_run (hroom : s.pktQueue.count < s.pktQueue.size) :
    (receiveRound (watchedLink link) s).Ends
      (fun r s' =>
        match r with
        | .ok none => Rests s s'
        | .ok (some pkt) => Obtains s (.ok pkt) s'
        | .error e => Obtains s (.error e) s')
      (Stays s) := by
  unfold receiveRound
  apply Call.ends_bind ((onLink_watch link.readMsg Watched.readEvents s).mono
    (fun _ _ h => h) _)
  · intro e s' h
    rcases h with ⟨fd, hevents, rfl⟩
    exact (rests_of_same (hevents.trans (List.append_nil _))).run
  · intro message s' h
    rcases message with ⟨hdr, payload⟩
    rcases h with ⟨fd, hevents, rfl⟩
    exact receiveMessage_run hroom hevents
  · intro s' h
    rcases h with ⟨fd, hevents, rfl⟩
    exact (rests_of_same hevents).stays

theorem Obtains.of_rests {r : Except AvError AVPacket} (h : Rests s s1)
    (h' : Obtains s1 r s') : Obtains s r s' := by
  cases r with
  | ok pkt =>
      rcases h' with ⟨s2, s3, hrests, hobtains⟩
      exact ⟨s2, s3, trans_of Rests h hrests, hobtains⟩
  | error e =>
      have hrun : ClientRun s1 [] s' := h'
      exact h.run.trans hrun

theorem ffVtremoteCommonReceivePacket_run (hempty : s.pktQueue.count = 0)
    (hsize : 0 < s.pktQueue.size) :
    (ffVtremoteCommonReceivePacket (watchedLink link) s).Ends (Obtains s)
      (Stays s) := by
  have hloop : forall fuel s1, Rests s s1 ->
      (Call.loop (receiveRound (watchedLink link)) fuel s1).Ends (Obtains s1)
        (Stays s1) := by
    intro fuel
    induction fuel with
    | zero => exact fun s1 _ => stays_refl s1
    | succ fuel ih =>
        intro s1 hrests
        have hroom : s1.pktQueue.count < s1.pktQueue.size := by
          rw [hrests.queue, hempty]
          exact hsize
        apply Call.ends_bind (receiveRound_run hroom)
        · exact fun _ _ hobtains => hobtains
        · intro result s2 hresult
          cases result with
          | some pkt => exact hresult
          | none =>
              have hon := trans_of Rests hrests hresult
              exact (ih s2 hon).mono (fun _ _ => Obtains.of_rests hresult)
                (fun _ => (Rests.run hresult).stays)
  unfold ffVtremoteCommonReceivePacket
  rw [Call.get_bind]
  split
  · exact .refl
  · rw [if_neg (by rw [hempty]; exact Nat.lt_irrefl 0)]
    exact hloop _ s (refl_of Rests s)

/-!
## Sending
-/

/-- A frame that is sent whole is submitted; otherwise nothing changes. -/
def Offers (s : VTRemoteEncContext (Watched σ)) (frame : Option AVFrame)
    (r : Except AvError Unit) (s' : VTRemoteEncContext (Watched σ)) : Prop :=
  Rests s s' ∨ frame.isSome ∧ r = .ok () ∧
    exists s1, Rests s s1 ∧ Dispatches s1 s'

theorem sendMsg_rests {payload : Payload} {r : Except AvError Unit} {fd : Watched σ}
    (hsend : (watchedLink link).sendMsg .frame payload s.fd = .returned r fd) :
    fd.events = s.fd.events ++ Watched.sentEvents .frame r := by
  have hends := watch_ends (link.sendMsg .frame payload)
    (Watched.sentEvents .frame) s.fd
  have hsend' : Watched.watch (link.sendMsg .frame payload)
      (Watched.sentEvents .frame) s.fd = .returned r fd := hsend
  rw [hsend'] at hends
  exact hends

theorem ffVtremoteCommonSendFrame_run (frame : Option AVFrame)
    (s : VTRemoteEncContext (Watched σ)) :
    (ffVtremoteCommonSendFrame (watchedLink link) libs frame s).Ends
      (Offers s frame) (Rests s) := by
  cases frame with
  | none =>
      have hflush : Call.Moves Rests
          (ffVtremoteCommonSendFrame (watchedLink link) libs none) := by
        apply Call.Moves.bind Call.Moves.get
        intro s
        split
        · exact Call.Moves.fail _
        · apply Call.Moves.bind
          · apply Call.Moves.modify
            intro s
            exact ⟨refl_of Lingers s.fd, s.fd, true, s.done, s.frameBuf,
              s.compBufCap, s.zstdCctx, rfl⟩
          · intro _
            have htype : VTRemoteMsgType.flush ≠ .frame := nofun
            exact onLink_rests (watchedLink_sendMsg htype Payload.empty)
      exact (hflush s).mono (fun _ _ => .inl) (fun _ h => h)
  | some frame =>
      have hsend : (ffVtremoteCommonSendFrame (watchedLink link) libs (some frame)
          s).Ends (FrameSend (watchedLink link) Lingers s) (Rests s) := by
        apply sendFrame_ends_of
        · intro s1 payload fd hprepares hblocked
          have hends := watch_ends (link.sendMsg .frame payload)
            (Watched.sentEvents .frame) s1.fd
          have hblocked' : Watched.watch (link.sendMsg .frame payload)
              (Watched.sentEvents .frame) s1.fd = .blocked fd := hblocked
          rw [hblocked'] at hends
          exact trans_of Rests hprepares.rests (rests_of_same hends)
        · intro i s1 hprepares
          exact (prepareCompression_prepares watchedLink_malloc libs frame i s1).mono
            (fun _ _ h => h) (fun _ h => trans_of Rests hprepares.rests h.rests)
      apply hsend.mono
      · intro r s' hframe
        cases hframe with
        | unsent hprepares => exact .inl hprepares.rests
        | failed hprepares hsend =>
            have hevents := sendMsg_rests hsend
            have hrests := rests_of_same (hevents.trans (List.append_nil _))
            exact .inl (trans_of Rests hprepares.rests hrests)
        | sent hprepares hsend =>
            exact .inr ⟨rfl, rfl, _, hprepares.rests, .sent (sendMsg_rests hsend)⟩
      · exact fun _ h => h

theorem ignoredSend_run {packets : List AVPacket} (frame : Option AVFrame)
    (h : ClientRun s packets s1) :
    (ignored (ffVtremoteCommonSendFrame (watchedLink link) libs frame) s1).Ends
      (fun r s' => r = .ok () ∧ exists r', Offers s1 frame r' s') (Stays s) := by
  unfold ignored
  apply Call.ends_attempt_bind ((ffVtremoteCommonSendFrame_run frame s1).mono
    (fun _ _ h => h) (fun _ hrests => h.stays hrests.stays))
  exact fun r s' hoffers => ⟨rfl, r, hoffers⟩

/-!
## The encode callback
-/

def Performs (s : VTRemoteEncContext (Watched σ)) :
    Except AvError EncodeReturn -> VTRemoteEncContext (Watched σ) -> Prop
  | .ok ret, s' => ClientRun s ret.delivered s'
  | .error _, s' => ClientRun s [] s'

theorem Performs.of_run {r : Except AvError EncodeReturn} (h : ClientRun s [] s1)
    (h' : Performs s1 r s') : Performs s r s' := by
  cases r with
  | ok ret => exact h.trans h'
  | error e =>
      have hrun : ClientRun s1 [] s' := h'
      exact h.trans hrun

theorem returnQueued_run (frame : Option AVFrame) (hqueued : 0 < s.pktQueue.count) :
    (returnQueued (watchedLink link) libs frame s).Ends (Performs s) (Stays s) := by
  unfold returnQueued
  apply Call.ends_bind_ok ((popPacket_run hqueued).mono (fun _ _ h => h) _)
  · intro rc s1 h
    rcases h with ⟨hout, htakes⟩
    have htaken := (ClientStep.takes htakes).run
    rw [Call.get_bind]
    by_cases hopen : frame.isSome ∧ s1.inflightFrames < s1.inflight
    · have hopen' : s.inflightFrames < s.inflight := by
        cases htakes with
        | popped => exact hopen.2
      unfold Call.when
      rw [if_pos hopen]
      apply Call.ends_bind_value (ignoredSend_run frame htaken)
      intro s2 h
      rcases h with ⟨_, hoffers⟩
      show ClientRun s rc.toOption.toList s2
      rw [hout]
      rcases hoffers with hrests | ⟨_, _, s3, hrests, hdispatches⟩
      · exact htaken.rest hrests
      · exact (ClientStep.exchanges hopen' htakes hrests hdispatches).run
    · unfold Call.when
      rw [if_neg hopen]
      show ClientRun s rc.toOption.toList s1
      rw [hout]
      exact htaken
  · intro s1 h
    rcases h with ⟨fd, hevents, rfl⟩
    exact (rests_of_same hevents).stays

theorem waitForPacket_run (frame : Option AVFrame) (hempty : s.pktQueue.count = 0)
    (hsize : 0 < s.pktQueue.size) :
    (waitForPacket (watchedLink link) libs frame s).Ends (Performs s) (Stays s) := by
  unfold waitForPacket
  apply Call.ends_attempt_bind (ffVtremoteCommonReceivePacket_run hempty hsize)
  intro r s1 hobtains
  cases r with
  | error e => exact hobtains
  | ok pkt =>
      have htaken : ClientRun s [pkt] s1 := hobtains.run
      rcases hobtains with ⟨s2, s3, hrests, henqueues, htakes, hpkt⟩
      have hempty2 : s2.pktQueue.count = 0 := by
        rw [hrests.queue]
        exact hempty
      apply Call.ends_bind_value (ignoredSend_run frame htaken)
      intro s4 h
      rcases h with ⟨_, hoffers⟩
      show ClientRun s [pkt] s4
      rcases hoffers with hrests' | ⟨_, _, s5, hrests', hdispatches⟩
      · exact htaken.rest hrests'
      · have hstep := ClientStep.awaits hempty2 henqueues htakes hrests'
          hdispatches
        rw [hpkt]
        exact hrests.run.trans hstep.run

theorem finishCall_run (frame : Option AVFrame) (hempty : s.pktQueue.count = 0)
    (hsize : 0 < s.pktQueue.size) :
    (finishCall (watchedLink link) frame s).Ends (Performs s) (Stays s) := by
  unfold finishCall
  rw [Call.get_bind]
  by_cases hreceive : frame.isNone ∨ s.flushing
  · rw [if_pos hreceive]
    apply Call.ends_attempt_bind (ffVtremoteCommonReceivePacket_run hempty hsize)
    intro r s1 hobtains
    cases r with
    | error e => exact hobtains
    | ok pkt => exact hobtains.run
  · rw [if_neg hreceive]
    exact .refl

theorem unlessEof_run {frame : Option AVFrame} (s : VTRemoteEncContext (Watched σ)) :
    (unlessEof (ffVtremoteCommonSendFrame (watchedLink link) libs frame) s).Ends
      (fun _ s' => exists r', Offers s frame r' s') (Stays s) := by
  unfold unlessEof
  apply Call.ends_attempt_bind ((ffVtremoteCommonSendFrame_run frame s).mono
    (fun _ _ h => h) (fun _ => Rests.stays))
  intro r s' hoffers
  cases r with
  | ok _ => exact ⟨_, hoffers⟩
  | error e =>
      dsimp only
      split
      · exact ⟨_, hoffers⟩
      · exact ⟨_, hoffers⟩

/-- A frame is submitted only in a state in which the window has room. -/
theorem Offers.run {frame : Option AVFrame} {r : Except AvError Unit}
    (h : Offers s frame r s') (hempty : s.pktQueue.count = 0)
    (hopen : frame.isSome -> s.inflightFrames < s.inflight) :
    ClientRun s [] s' ∧ s'.pktQueue = s.pktQueue := by
  rcases h with hrests | ⟨hsome, _, s1, hrests, hdispatches⟩
  · exact ⟨hrests.run, hrests.queue⟩
  · refine ⟨(ClientStep.submits hempty (hopen hsome) hrests hdispatches).run, ?_⟩
    rw [hdispatches.queue, hrests.queue]

theorem encodeSubmitted_run (frame : Option AVFrame) (draining : Bool)
    (hempty : s.pktQueue.count = 0) (hsize : 0 < s.pktQueue.size) :
    (encodeSubmitted (watchedLink link) libs frame draining s).Ends (Performs s)
      (Stays s) := by
  unfold encodeSubmitted
  rw [Call.get_bind]
  by_cases hfull : frame.isSome ∧ s.inflight ≤ s.inflightFrames
  · rw [if_pos hfull]
    exact waitForPacket_run frame hempty hsize
  · rw [if_neg hfull]
    unfold Call.when
    split
    · apply Call.ends_bind (unlessEof_run s)
      · intro e s1 h
        rcases h with ⟨_, hoffers⟩
        exact (hoffers.run hempty nofun).1
      · intro _ s1 h
        rcases h with ⟨_, hoffers⟩
        rcases hoffers.run hempty nofun with ⟨hrun, hqueue⟩
        rw [<- hqueue] at hempty hsize
        exact (finishCall_run frame hempty hsize).mono
          (fun _ _ => Performs.of_run hrun) (fun _ => hrun.stays)
    · exact finishCall_run frame hempty hsize

theorem encodeUnqueued_run (frame : Option AVFrame) (draining : Bool)
    (hempty : s.pktQueue.count = 0) (hsize : 0 < s.pktQueue.size) :
    (encodeUnqueued (watchedLink link) libs frame draining s).Ends (Performs s)
      (Stays s) := by
  unfold encodeUnqueued
  rw [Call.get_bind]
  unfold Call.when
  by_cases hopen : frame.isSome ∧ s.inflightFrames < s.inflight
  · rw [if_pos hopen]
    apply Call.ends_bind (unlessEof_run s)
    · intro e s1 h
      rcases h with ⟨_, hoffers⟩
      exact (hoffers.run hempty fun _ => hopen.2).1
    · intro _ s1 h
      rcases h with ⟨_, hoffers⟩
      rcases hoffers.run hempty (fun _ => hopen.2) with ⟨hrun, hqueue⟩
      rw [<- hqueue] at hempty hsize
      exact (encodeSubmitted_run frame draining hempty hsize).mono
        (fun _ _ => Performs.of_run hrun) (fun _ => hrun.stays)
  · rw [if_neg hopen]
    exact encodeSubmitted_run frame draining hempty hsize

theorem encodeBody_run (frame : Option AVFrame) (draining : Bool)
    (s : VTRemoteEncContext (Watched σ)) :
    (encodeBody (watchedLink link) libs frame draining s).Ends (Performs s)
      (Stays s) := by
  unfold encodeBody
  apply Call.ends_bind (openingDrain_run s)
  · exact fun _ _ h => h.1
  · intro _ s1 h
    rcases h with ⟨hrun, hsize⟩
    rw [Call.get_bind]
    split
    · rename_i hqueued
      exact (returnQueued_run frame hqueued).mono
        (fun _ _ => Performs.of_run hrun) (fun _ => hrun.stays)
    · rename_i hnone
      exact (encodeUnqueued_run frame draining (Nat.eq_zero_of_not_pos hnone)
        (hsize rfl)).mono (fun _ _ => Performs.of_run hrun) (fun _ => hrun.stays)

theorem ffVtremoteEncode_run (frame : Option AVFrame) (draining : Bool)
    (s : VTRemoteEncContext (Watched σ)) :
    (ffVtremoteEncode (watchedLink link) libs frame draining s).Ends
      (fun r s' => exists ret, r = .ok ret ∧ ClientRun s ret.delivered s')
      (Stays s) := by
  unfold ffVtremoteEncode
  apply Call.ends_attempt_bind (encodeBody_run frame draining s)
  intro r s' hperforms
  cases r with
  | ok ret => exact ⟨ret, rfl, hperforms⟩
  | error e => exact ⟨_, rfl, hperforms⟩

/-- A run takes steps, and passes on the packets that its calls deliver. -/
theorem encodeRun_run (inputs : List EncodeInput)
    (s : VTRemoteEncContext (Watched σ)) :
    (encodeRun (watchedLink link) libs inputs s).Ends
      (fun r s' => exists results, r = .ok results ∧
        ClientRun s (results.flatMap EncodeReturn.delivered) s')
      (Stays s) := by
  induction inputs generalizing s with
  | nil => exact ⟨[], rfl, .refl⟩
  | cons input rest ih =>
      apply Call.ends_bind_ok (ffVtremoteEncode_run input.frame input.draining s)
      intro ret s1 hrun
      apply Call.ends_bind_ok ((ih s1).mono (fun _ _ h => h) (fun _ => hrun.stays))
      intro results s2 hrun'
      exact ⟨ret :: results, rfl, hrun.trans hrun'⟩

end Runs
end VTRemote
