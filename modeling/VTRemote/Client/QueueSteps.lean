import VTRemote.Client.Exchanges

/-!
# How a call moves the queue and the window

The steps of which every call of the encoder consists, whatever its server does.
They say when a PACKET is read, when a packet leaves the queue and when a frame is
sent, and in which states.
-/

namespace VTRemote

attribute [local irreducible] cInt

section Steps

variable {σ : Type}

/-!
## The steps
-/

/-- Only the connection, the flags and the buffers for payloads have changed. -/
def Rests (s s' : VTRemoteEncContext (Watched σ)) : Prop :=
  Lingers s.fd s'.fd ∧ exists fd flushing done frameBuf compBufCap zstdCctx,
    s' = { s with fd, flushing, done, frameBuf, compBufCap, zstdCctx }

inductive Enqueues (s : VTRemoteEncContext (Watched σ)) :
    VTRemoteEncContext (Watched σ) -> Prop where
  | stored {hdr : VTRemoteMsgHeader} {payload : Bytes} {pkt : AVPacket}
      {fd : Watched σ} (hroom : s.pktQueue.count < s.pktQueue.size)
      (hpacket : incomingPacket hdr payload = some pkt)
      (hevents : fd.events =
        s.fd.events ++ [.read hdr payload, .allocated true]) :
      Enqueues s { s with
        fd := fd
        pktQueue := ((s.pktQueue.store default).store pkt).grow
        packetsRecv := s.packetsRecv + 1 }

def released (s : VTRemoteEncContext (Watched σ)) :
    VTRemoteEncContext (Watched σ) :=
  { s with inflightFrames := s.inflightFrames - 1 }

/-- The first packet leaves the queue; the caller gets it if its reference is
granted. -/
inductive Takes (s : VTRemoteEncContext (Watched σ)) (granted : Bool) :
    VTRemoteEncContext (Watched σ) -> Prop where
  | popped {fd : Watched σ} (hqueued : 0 < s.pktQueue.count)
      (hevents : fd.events = s.fd.events ++ [.referenced granted]) :
      Takes s granted { s with fd := fd, pktQueue := s.pktQueue.pop }

inductive Dispatches (s : VTRemoteEncContext (Watched σ)) :
    VTRemoteEncContext (Watched σ) -> Prop where
  | sent {fd : Watched σ} (hevents : fd.events = s.fd.events ++ [.sent .frame]) :
      Dispatches s { s with
        fd := fd
        inflightFrames := s.inflightFrames + 1
        framesSent := s.framesSent + 1 }

def VTRemoteEncContext.taken (s : VTRemoteEncContext (Watched σ))
    (granted : Bool) : List AVPacket :=
  if granted then [s.pktQueue.slot 0] else []

/-- One step, with the packets that it passes on. -/
inductive ClientStep (s : VTRemoteEncContext (Watched σ)) :
    List AVPacket -> VTRemoteEncContext (Watched σ) -> Prop where
  | rests {s' : VTRemoteEncContext (Watched σ)} (hrests : Rests s s') :
      ClientStep s [] s'
  | allocates {fd : Watched σ} (hsize : s.pktQueue.size = 0)
      (hevents : fd.events = s.fd.events ++ [.allocated true]) :
      ClientStep s [] { s with
        fd := fd, pktQueue := Ring.new (max 4 (s.inflight * 2)) }
  | refuses {hdr : VTRemoteMsgHeader} {payload : Bytes} {more : List Exchange}
      {fd : Watched σ} {pktQueue : Ring AVPacket}
      (hroom : s.pktQueue.count < s.pktQueue.size)
      (htype : VTRemoteMsgType.ofCode hdr.type = some .packet)
      (hmore : more = [] ∧ incomingPacket hdr payload = none ∨
        more = [.allocated false])
      (hqueue : pktQueue = s.pktQueue ∨ pktQueue = s.pktQueue.store default)
      (hevents : fd.events = s.fd.events ++ .read hdr payload :: more) :
      ClientStep s [] { s with fd := fd, pktQueue := pktQueue }
  | accepts {s1 : VTRemoteEncContext (Watched σ)} (henqueues : Enqueues s s1) :
      ClientStep s [] (released s1)
  | takes {granted : Bool} {s' : VTRemoteEncContext (Watched σ)}
      (htakes : Takes s granted s') : ClientStep s (s.taken granted) s'
  /-- The window has room, and no packet is queued. -/
  | submits {s1 s' : VTRemoteEncContext (Watched σ)}
      (hempty : s.pktQueue.count = 0) (hopen : s.inflightFrames < s.inflight)
      (hrests : Rests s s1) (hdispatches : Dispatches s1 s') : ClientStep s [] s'
  /-- The window has room, and a queued packet makes way for the frame. -/
  | exchanges {granted : Bool} {s1 s2 s' : VTRemoteEncContext (Watched σ)}
      (hopen : s.inflightFrames < s.inflight) (htakes : Takes s granted s1)
      (hrests : Rests s1 s2) (hdispatches : Dispatches s2 s') :
      ClientStep s (s.taken granted) s'
  /-- No packet is queued.  The limit is not looked at again behind the packet
  that was waited for. -/
  | awaits {granted : Bool} {s1 s2 s3 s' : VTRemoteEncContext (Watched σ)}
      (hempty : s.pktQueue.count = 0) (henqueues : Enqueues s s1)
      (htakes : Takes (released s1) granted s2) (hrests : Rests s2 s3)
      (hdispatches : Dispatches s3 s') :
      ClientStep s ((released s1).taken granted) s'

inductive ClientRun (s : VTRemoteEncContext (Watched σ)) :
    List AVPacket -> VTRemoteEncContext (Watched σ) -> Prop where
  | refl : ClientRun s [] s
  | step {s1 s' : VTRemoteEncContext (Watched σ)}
      {packets more : List AVPacket} (hrun : ClientRun s packets s1)
      (hstep : ClientStep s1 more s') : ClientRun s (packets ++ more) s'

/-- Where a call can stay for good: between two steps, or while memory is asked
for a packet that was read, or for the reference to one that was queued. -/
inductive Halts (s : VTRemoteEncContext (Watched σ)) :
    VTRemoteEncContext (Watched σ) -> Prop where
  | between : Halts s s
  | storing {hdr : VTRemoteMsgHeader} {payload : Bytes} {fd : Watched σ}
      (hroom : s.pktQueue.count < s.pktQueue.size)
      (htype : VTRemoteMsgType.ofCode hdr.type = some .packet)
      (hevents : fd.events = s.fd.events ++ [.read hdr payload]) :
      Halts s { s with fd := fd, pktQueue := s.pktQueue.store default }
  | taking {s1 : VTRemoteEncContext (Watched σ)} {fd : Watched σ}
      (henqueues : Enqueues s s1) (hevents : fd.events = s1.fd.events) :
      Halts s { s1 with fd := fd }

def Stays (s s' : VTRemoteEncContext (Watched σ)) : Prop :=
  exists packets s1, ClientRun s packets s1 ∧ Halts s1 s'

/-!
## Composition
-/

variable {s s1 s2 s' : VTRemoteEncContext (Watched σ)}

instance : IsPreorder (VTRemoteEncContext (Watched σ)) Rests where
  refl s := ⟨refl_of Lingers s.fd, s.fd, s.flushing, s.done, s.frameBuf,
    s.compBufCap, s.zstdCctx, rfl⟩
  trans _ _ _ := by
    intro hfirst hsecond
    rcases hfirst with ⟨h1, _, _, _, _, _, _, rfl⟩
    rcases hsecond with
      ⟨h2, fd, flushing, done, frameBuf, compBufCap, zstdCctx, rfl⟩
    exact ⟨trans_of Lingers h1 h2, fd, flushing, done, frameBuf, compBufCap,
      zstdCctx, rfl⟩

theorem ClientStep.run {packets : List AVPacket} (h : ClientStep s packets s') :
    ClientRun s packets s' :=
  .step .refl h

theorem Rests.run (h : Rests s s') : ClientRun s [] s' :=
  (ClientStep.rests h).run

theorem ClientRun.trans {packets more : List AVPacket}
    (h : ClientRun s packets s1) (h' : ClientRun s1 more s') :
    ClientRun s (packets ++ more) s' := by
  induction h' with
  | refl =>
      rw [List.append_nil]
      exact h
  | step _ hstep ih =>
      rw [<- List.append_assoc]
      exact .step ih hstep

theorem ClientRun.rest {packets : List AVPacket} (h : ClientRun s packets s1)
    (hrests : Rests s1 s') : ClientRun s packets s' := by
  have hrun := h.trans hrests.run
  rw [List.append_nil] at hrun
  exact hrun

theorem ClientRun.stays {packets : List AVPacket} (h : ClientRun s packets s1)
    (h' : Stays s1 s') : Stays s s' := by
  rcases h' with ⟨more, s2, hrun, hhalts⟩
  exact ⟨packets ++ more, s2, h.trans hrun, hhalts⟩

theorem stays_refl (s : VTRemoteEncContext (Watched σ)) : Stays s s :=
  ⟨[], s, .refl, .between⟩

theorem Rests.stays (h : Rests s s') : Stays s s' :=
  h.run.stays (stays_refl s')

theorem Halts.stays (h : Halts s s') : Stays s s' :=
  ⟨[], s, .refl, h⟩

/-!
## The queue
-/

theorem Rests.queue (h : Rests s s') : s'.pktQueue = s.pktQueue := by
  rcases h with ⟨_, _, _, _, _, _, _, rfl⟩
  rfl

theorem Enqueues.size (h : Enqueues s s') : s'.pktQueue.size = s.pktQueue.size := by
  cases h with
  | stored =>
      show (Ring.grow _).size = _
      rw [Ring.size_grow, Ring.size_store, Ring.size_store]

theorem Enqueues.count (h : Enqueues s s') :
    s'.pktQueue.count = s.pktQueue.count + 1 := by
  cases h with
  | stored hroom =>
      apply Ring.count_grow
      rw [Ring.count_store, Ring.count_store, Ring.size_store, Ring.size_store]
      exact hroom

theorem Takes.size {granted : Bool} (h : Takes s granted s') :
    s'.pktQueue.size = s.pktQueue.size := by
  cases h with
  | popped => exact Ring.size_pop _

theorem Takes.count {granted : Bool} (h : Takes s granted s') :
    s'.pktQueue.count + 1 = s.pktQueue.count := by
  cases h with
  | popped hqueued => exact Nat.sub_add_cancel hqueued

theorem Dispatches.queue (h : Dispatches s s') : s'.pktQueue = s.pktQueue := by
  cases h with
  | sent => rfl

theorem ClientStep.size_pos {packets : List AVPacket}
    (h : ClientStep s packets s') (hsize : 0 < s.pktQueue.size) :
    0 < s'.pktQueue.size := by
  cases h with
  | rests hrests => exact hrests.queue ▸ hsize
  | allocates hzero => exact absurd hzero (Nat.ne_of_gt hsize)
  | refuses _ _ _ hqueue =>
      rcases hqueue with rfl | rfl
      · exact hsize
      · exact (Ring.size_store _ _).symm ▸ hsize
  | accepts henqueues => exact henqueues.size.symm ▸ hsize
  | takes htakes => exact htakes.size.symm ▸ hsize
  | submits _ _ hrests hdispatches =>
      rw [hdispatches.queue, hrests.queue]
      exact hsize
  | exchanges _ htakes hrests hdispatches =>
      rw [hdispatches.queue, hrests.queue, htakes.size]
      exact hsize
  | awaits _ henqueues htakes hrests hdispatches =>
      rw [hdispatches.queue, hrests.queue, htakes.size]
      exact henqueues.size.symm ▸ hsize

theorem ClientRun.size_pos {packets : List AVPacket} (h : ClientRun s packets s')
    (hsize : 0 < s.pktQueue.size) : 0 < s'.pktQueue.size := by
  induction h with
  | refl => exact hsize
  | step _ hstep ih => exact hstep.size_pos ih

/-!
## The limit
-/

theorem Rests.inflight (h : Rests s s') : s'.inflight = s.inflight := by
  rcases h with ⟨_, _, _, _, _, _, _, rfl⟩
  rfl

theorem Enqueues.inflight (h : Enqueues s s') : s'.inflight = s.inflight := by
  cases h with
  | stored => rfl

theorem Takes.inflight {granted : Bool} (h : Takes s granted s') :
    s'.inflight = s.inflight := by
  cases h with
  | popped => rfl

theorem Dispatches.inflight (h : Dispatches s s') : s'.inflight = s.inflight := by
  cases h with
  | sent => rfl

theorem ClientStep.inflight {packets : List AVPacket}
    (h : ClientStep s packets s') : s'.inflight = s.inflight := by
  cases h with
  | rests hrests => exact hrests.inflight
  | allocates => rfl
  | refuses => rfl
  | accepts henqueues => exact henqueues.inflight
  | takes htakes => exact htakes.inflight
  | submits _ _ hrests hdispatches =>
      exact hdispatches.inflight.trans hrests.inflight
  | exchanges _ htakes hrests hdispatches =>
      exact (hdispatches.inflight.trans hrests.inflight).trans htakes.inflight
  | awaits _ henqueues htakes hrests hdispatches =>
      exact ((hdispatches.inflight.trans hrests.inflight).trans htakes.inflight).trans
        henqueues.inflight

theorem ClientRun.inflight {packets : List AVPacket} (h : ClientRun s packets s') :
    s'.inflight = s.inflight := by
  induction h with
  | refl => rfl
  | step _ hstep ih => exact hstep.inflight.trans ih

end Steps
end VTRemote
