import VTRemote.Client.QueueRuns

/-!
# The window of frames on their way

A client has at most `inflight` frames without an answer, whatever its server
does.  While the server only answers, the queued packets are within that limit,
too.
-/

namespace VTRemote

attribute [local irreducible] cInt

/-!
## Servers that only answer
-/

/-- At all times, the PACKETs that were read are no more than the FRAMEs that
were sent.  This is so while the server has sent no more PACKETs than it has
received FRAMEs: what is read was sent before, and what the server has received
was sent whole. -/
def Answering (events : List Exchange) : Prop :=
  forall past, past <+: events ->
    past.countP Exchange.isPacket ≤ past.count (.sent .frame)

theorem Answering.of_append {events more : List Exchange}
    (h : Answering (events ++ more)) : Answering events :=
  fun past hpast => h past (hpast.trans (List.prefix_append events more))

theorem Answering.le {events : List Exchange} (h : Answering events) :
    events.countP Exchange.isPacket ≤ events.count (.sent .frame) :=
  h events List.prefix_rfl

theorem Exchange.Idle.ne_frame {e : Exchange} (h : e.Idle) : e ≠ .sent .frame := by
  intro h
  subst h
  exact h rfl

section Window

variable {σ : Type} {s s1 s' : VTRemoteEncContext (Watched σ)}

theorem Lingers.answering {w w' : Watched σ} (h : Lingers w w')
    (hafter : Answering w'.events) : Answering w.events := by
  rcases h with ⟨more, _, hevents⟩
  rw [hevents] at hafter
  exact hafter.of_append

/-!
## The invariant
-/

/-- The limit on the frames without an answer, and what the counters count. -/
structure InWindow (s : VTRemoteEncContext (Watched σ)) : Prop where
  limit : 0 < s.inflight
  frames : s.inflightFrames ≤ s.inflight
  unanswered : s.framesSent ≤ s.packetsRecv + s.inflightFrames
  sent : s.fd.events.count (.sent .frame) = s.framesSent
  received : s.packetsRecv ≤ s.fd.events.countP Exchange.isPacket
  awaited : Answering s.fd.events ->
    s.inflightFrames + s.packetsRecv = s.framesSent
  queued : Answering s.fd.events ->
    s.inflightFrames + s.pktQueue.count ≤ s.inflight

theorem InWindow.quiet {fd : Watched σ} {more : List Exchange} {flushing done : Bool}
    {pktQueue : Ring AVPacket} {frameBuf : VTRemoteWBuf} {compBufCap : Fin 2 -> Int}
    {zstdCctx : Bool} (h : InWindow s) (hevents : fd.events = s.fd.events ++ more)
    (hmore : .sent .frame ∉ more) (hcount : pktQueue.count ≤ s.pktQueue.count) :
    InWindow { s with
      fd, flushing, done, pktQueue, frameBuf, compBufCap, zstdCctx } := by
  have hbefore : Answering fd.events -> Answering s.fd.events := by
    rw [hevents]
    exact Answering.of_append
  exact
    { limit := h.limit
      frames := h.frames
      unanswered := h.unanswered
      sent := by
        show fd.events.count (.sent .frame) = s.framesSent
        rw [hevents, List.count_append, List.count_eq_zero.mpr hmore]
        exact h.sent
      received := by
        show s.packetsRecv ≤ fd.events.countP Exchange.isPacket
        rw [hevents, List.countP_append]
        exact Nat.le_trans h.received (Nat.le_add_right _ _)
      awaited := fun hafter => h.awaited (hbefore hafter)
      queued := fun hafter =>
        Nat.le_trans (Nat.add_le_add_left hcount _) (h.queued (hbefore hafter)) }

theorem InWindow.rests (h : InWindow s) (hrests : Rests s s') : InWindow s' := by
  rcases hrests with ⟨⟨more, hidle, hevents⟩, fd, _, _, _, _, _, rfl⟩
  exact h.quiet hevents (fun hmem => (hidle _ hmem).ne_frame rfl) (Nat.le_refl _)

/-- A frame is awaited for every packet of a server that only answers. -/
theorem InWindow.accepts (h : InWindow s) (henqueues : Enqueues s s1) :
    InWindow (released s1) := by
  have hcount := henqueues.count
  cases henqueues with
  | @stored hdr payload pkt fd hroom hpacket hevents =>
      have htype : (Exchange.read hdr payload).isPacket = true := by
        unfold incomingPacket at hpacket
        split at hpacket
        · exact decide_eq_true ‹_›
        · cases hpacket
      have hframes : fd.events.count (.sent .frame) = s.framesSent := by
        rw [hevents, List.count_append, h.sent]
        rfl
      have hpackets : fd.events.countP Exchange.isPacket =
          s.fd.events.countP Exchange.isPacket + 1 := by
        rw [hevents, List.countP_append, List.countP_cons_of_pos htype]
        rfl
      have hbefore : Answering fd.events -> Answering s.fd.events := by
        rw [hevents]
        exact Answering.of_append
      have hpos : Answering fd.events -> 0 < s.inflightFrames := by
        intro hafter
        have hle := hafter.le
        have hawaited := h.awaited (hbefore hafter)
        have hreceived := h.received
        rw [hframes, hpackets] at hle
        omega
      have hframes' := h.frames
      have hunanswered := h.unanswered
      have hreceived := h.received
      exact
        { limit := h.limit
          frames := Nat.le_trans (Nat.sub_le _ _) h.frames
          unanswered := by
            show s.framesSent ≤ s.packetsRecv + 1 + (s.inflightFrames - 1)
            omega
          sent := hframes
          received := by
            show s.packetsRecv + 1 ≤ fd.events.countP Exchange.isPacket
            rw [hpackets]
            exact Nat.succ_le_succ h.received
          awaited := by
            intro hafter
            have hawaited := h.awaited (hbefore hafter)
            have hpos := hpos hafter
            show s.inflightFrames - 1 + (s.packetsRecv + 1) = s.framesSent
            omega
          queued := by
            intro hafter
            have hqueued := h.queued (hbefore hafter)
            have hpos := hpos hafter
            have hstored : ((s.pktQueue.store default).store pkt).grow.count =
                s.pktQueue.count + 1 := hcount
            show s.inflightFrames - 1 +
              ((s.pktQueue.store default).store pkt).grow.count ≤ s.inflight
            omega }

theorem InWindow.takes {granted : Bool} (h : InWindow s)
    (htakes : Takes s granted s') : InWindow s' := by
  cases htakes with
  | popped hqueued hevents =>
      apply h.quiet hevents
      · exact fun hmem => nomatch List.mem_singleton.mp hmem
      · exact Nat.sub_le _ _

def HasRoom (s : VTRemoteEncContext (Watched σ)) : Prop :=
  s.inflightFrames < s.inflight ∧
    (Answering s.fd.events -> s.inflightFrames + s.pktQueue.count < s.inflight)

theorem HasRoom.rests (h : HasRoom s) (hrests : Rests s s') : HasRoom s' := by
  rcases hrests with ⟨hlingers, fd, _, _, _, _, _, rfl⟩
  exact ⟨h.1, fun hafter => h.2 (hlingers.answering hafter)⟩

theorem InWindow.hasRoom {granted : Bool} (h : InWindow s)
    (hopen : s.inflightFrames < s.inflight) (htakes : Takes s granted s') :
    HasRoom s' := by
  have hcount := htakes.count
  cases htakes with
  | @popped fd hqueued hevents =>
      refine ⟨hopen, ?_⟩
      intro hafter
      have hbefore : Answering s.fd.events := by
        have hafter' : Answering fd.events := hafter
        rw [hevents] at hafter'
        exact hafter'.of_append
      have hqueued := h.queued hbefore
      have hpopped : s.pktQueue.pop.count + 1 = s.pktQueue.count := hcount
      show s.inflightFrames + s.pktQueue.pop.count < s.inflight
      omega

theorem InWindow.dispatches (h : InWindow s) (hroom : HasRoom s)
    (hdispatches : Dispatches s s') : InWindow s' := by
  cases hdispatches with
  | @sent fd hevents =>
      have hframes : fd.events.count (.sent .frame) = s.framesSent + 1 := by
        rw [hevents, List.count_append, h.sent]
        rfl
      have hpackets : fd.events.countP Exchange.isPacket =
          s.fd.events.countP Exchange.isPacket := by
        rw [hevents, List.countP_append]
        rfl
      have hbefore : Answering fd.events -> Answering s.fd.events := by
        rw [hevents]
        exact Answering.of_append
      have hunanswered := h.unanswered
      exact
        { limit := h.limit
          frames := hroom.1
          unanswered := by
            show s.framesSent + 1 ≤ s.packetsRecv + (s.inflightFrames + 1)
            omega
          sent := hframes
          received := h.received.trans (Nat.le_of_eq hpackets.symm)
          awaited := by
            intro hafter
            have hawaited := h.awaited (hbefore hafter)
            show s.inflightFrames + 1 + s.packetsRecv = s.framesSent + 1
            omega
          queued := by
            intro hafter
            have hqueued := hroom.2 (hbefore hafter)
            show s.inflightFrames + 1 + s.pktQueue.count ≤ s.inflight
            omega }

/-!
## Runs
-/

theorem InWindow.step {packets : List AVPacket} (h : InWindow s)
    (hstep : ClientStep s packets s') : InWindow s' := by
  cases hstep with
  | rests hrests => exact h.rests hrests
  | allocates _ hevents =>
      apply h.quiet hevents
      · exact fun hmem => nomatch List.mem_singleton.mp hmem
      · exact Nat.zero_le _
  | refuses _ _ hmore hqueue hevents =>
      apply h.quiet hevents
      · intro hmem
        rcases hmore with ⟨rfl, _⟩ | rfl
        · cases List.mem_singleton.mp hmem
        · rcases List.mem_cons.mp hmem with hread | hmem
          · cases hread
          · cases List.mem_singleton.mp hmem
      · rcases hqueue with rfl | rfl
        · exact Nat.le_refl _
        · exact Nat.le_refl _
  | accepts henqueues => exact h.accepts henqueues
  | takes htakes => exact h.takes htakes
  | submits hempty hopen hrests hdispatches =>
      have hroom : HasRoom s := by
        refine ⟨hopen, fun _ => ?_⟩
        rw [hempty]
        exact hopen
      exact (h.rests hrests).dispatches (hroom.rests hrests) hdispatches
  | exchanges hopen htakes hrests hdispatches =>
      have hroom := h.hasRoom hopen htakes
      exact ((h.takes htakes).rests hrests).dispatches (hroom.rests hrests)
        hdispatches
  | @awaits _ s1 _ _ _ hempty henqueues htakes hrests hdispatches =>
      -- The limit was kept, so that the frame of the packet leaves room.
      have hopen : (released s1).inflightFrames < (released s1).inflight := by
        have hlimit := h.limit
        have hframes := h.frames
        cases henqueues with
        | stored =>
            show s.inflightFrames - 1 < s.inflight
            omega
      have haccepted := h.accepts henqueues
      have hroom := haccepted.hasRoom hopen htakes
      exact ((haccepted.takes htakes).rests hrests).dispatches (hroom.rests hrests)
        hdispatches

theorem ClientRun.inWindow {packets : List AVPacket} (hrun : ClientRun s packets s')
    (h : InWindow s) : InWindow s' := by
  induction hrun with
  | refl => exact h
  | step _ hstep ih => exact ih.step hstep

theorem inWindow_afterInit (fd : σ) {inflight : Nat} (h : 1 ≤ inflight)
    (wireCompression : Int) (codecId : AVCodecID) :
    InWindow (VTRemoteEncContext.afterInit ({ fd, events := [] } : Watched σ)
      inflight wireCompression codecId) where
  limit := h
  frames := Nat.zero_le _
  unanswered := Nat.le_refl _
  sent := rfl
  received := Nat.le_refl _
  awaited _ := rfl
  queued _ := Nat.zero_le _

/-- The frames without an answer are within the limit, and all the FRAMEs that
were sent without a PACKET for them are among them. -/
structure WithinLimit (inflight : Nat) (s : VTRemoteEncContext (Watched σ)) :
    Prop where
  frames : 0 ≤ (s.inflightFrames : Int) ∧ s.inflightFrames ≤ inflight
  unanswered : (s.framesSent : Int) - s.packetsRecv ≤ s.inflightFrames

theorem InWindow.withinLimit (h : InWindow s) : WithinLimit s.inflight s where
  frames := ⟨Int.natCast_nonneg _, h.frames⟩
  unanswered := by
    have hunanswered := h.unanswered
    omega

/-- The limit holds wherever a call can stay for good. -/
theorem InWindow.halts (h : InWindow s) (hhalts : Halts s s') :
    WithinLimit s.inflight s' := by
  have hwithin := h.withinLimit
  cases hhalts with
  | between => exact hwithin
  | storing => exact ⟨hwithin.frames, hwithin.unanswered⟩
  | taking henqueues =>
      cases henqueues with
      | stored =>
          refine ⟨hwithin.frames, ?_⟩
          have hunanswered := hwithin.unanswered
          show (s.framesSent : Int) - (s.packetsRecv + 1 : Nat) ≤ s.inflightFrames
          omega

/-- With any server, behind every call, at most `inflight` FRAMEs are without an
answer.  While the server has sent no more PACKETs than it has received FRAMEs,
the queued packets are within that limit, too. -/
theorem encodeRun_withinLimit (link : Link σ) (libs : CompressionLibraries)
    (inputs : List EncodeInput) (fd : σ) {inflight : Nat} (h : 1 ≤ inflight)
    (wireCompression : Int) (codecId : AVCodecID) :
    (encodeRun (watchedLink link) libs inputs
      (VTRemoteEncContext.afterInit { fd, events := [] } inflight wireCompression
        codecId)).Ends
      (fun _ s => WithinLimit inflight s ∧ (Answering s.fd.events ->
        s.inflightFrames + s.pktQueue.count ≤ inflight))
      (WithinLimit inflight) := by
  have hinit := inWindow_afterInit fd h wireCompression codecId
  apply (encodeRun_run inputs _).mono
  · intro r s h
    rcases h with ⟨results, _, hrun⟩
    have hinflight : s.inflight = inflight := hrun.inflight
    have hwindow := hrun.inWindow hinit
    rw [<- hinflight]
    exact ⟨hwindow.withinLimit, hwindow.queued⟩
  · intro s h
    rcases h with ⟨packets, s1, hrun, hhalts⟩
    have hinflight : s1.inflight = inflight := hrun.inflight
    rw [<- hinflight]
    exact (hrun.inWindow hinit).halts hhalts

end Window

def quietHost : Host where
  incoming := [.quiet, .quiet]
  outgoing := { next := [], broken := none }
  heap := []
  log := []

/-- The second frame waits for a packet. -/
theorem encodeRun_withinLimit_quiet :
    (encodeRun (watchedLink hostLink) noCompression
      [⟨some smallFrame, false⟩, ⟨some smallFrame, false⟩]
      (VTRemoteEncContext.afterInit { fd := quietHost, events := [] } 1 0 .hevc)).Ends
      (fun _ s => WithinLimit 1 s ∧ (Answering s.fd.events ->
        s.inflightFrames + s.pktQueue.count ≤ 1))
      (WithinLimit 1) :=
  encodeRun_withinLimit hostLink noCompression _ quietHost (Nat.le_refl 1) 0 .hevc

end VTRemote
