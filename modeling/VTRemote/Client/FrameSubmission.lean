import VTRemote.Client.Sessions

/-!
# Frame submission

Which calls of `ff_vtremote_encode` write their frame exactly once if they
succeed and not at all if they fail, by the state before the call, the messages
that are offered and the schedule of the socket.
-/

namespace VTRemote

attribute [local irreducible] cInt

def frameMessages (log : List SendRecord) : List Payload :=
  (log.filter fun r => r.type = .frame ∧ r.Complete).map SendRecord.payload

theorem frameMessages_append (log log' : List SendRecord) :
    frameMessages (log ++ log') = frameMessages log ++ frameMessages log' := by
  unfold frameMessages
  rw [List.filter_append, List.map_append]

theorem frameMessages_of_frame {r : SendRecord} (htype : r.type = .frame)
    (hcomplete : r.Complete) : frameMessages [r] = [r.payload] := by
  unfold frameMessages
  rw [List.filter_cons_of_pos (by simp [htype, hcomplete])]
  rfl

theorem frameMessages_of_other {r : SendRecord}
    (h : ¬ (r.type = .frame ∧ r.Complete)) : frameMessages [r] = [] := by
  unfold frameMessages
  rw [List.filter_cons_of_neg (by simpa using h)]
  rfl

/-!
## What the socket logs
-/

theorem Schedule.logged_complete (out : Schedule Errno) (type : VTRemoteMsgType)
    (payload : Payload) :
    exists r, out.logged type payload = [r] ∧ r.type = type ∧ r.payload = payload ∧
      (r.Complete <-> out.Takes type payload) := by
  rcases vtremoteSendMsg_sent type payload out.host with ⟨r, result, hsent, hcall⟩
  have hlogged : out.logged type payload = [r] := by
    unfold Schedule.logged
    rw [hcall]
    rfl
  have hresult : out.result type payload = result := by
    unfold Schedule.result
    rw [hcall]
  refine ⟨r, hlogged, hsent.type_eq, hsent.payload_eq, ?_⟩
  unfold Schedule.Takes
  rw [hresult]
  rcases hsent.result with ⟨hok, hcomplete⟩ | ⟨⟨e, herror⟩, hless⟩
  · exact iff_of_true hcomplete hok
  · apply iff_of_false
    · intro hcomplete
      unfold SendRecord.Complete at hcomplete
      omega
    · rw [herror]
      exact fun h => by cases h

theorem frameMessages_taken {out : Schedule Errno} {payload : Payload}
    (htakes : out.Takes .frame payload) :
    frameMessages (out.logged .frame payload) = [payload] := by
  rcases out.logged_complete .frame payload with ⟨r, hlogged, htype, hpayload, hcomplete⟩
  rw [hlogged, frameMessages_of_frame htype (hcomplete.mpr htakes), hpayload]

theorem frameMessages_untaken {out : Schedule Errno} {payload : Payload}
    (htakes : ¬ out.Takes .frame payload) :
    frameMessages (out.logged .frame payload) = [] := by
  rcases out.logged_complete .frame payload with ⟨r, hlogged, _, _, hcomplete⟩
  rw [hlogged]
  exact frameMessages_of_other fun h => htakes (hcomplete.mp h.2)

theorem frameMessages_pongs (n : Nat) (out : Schedule Errno) :
    frameMessages (Schedule.loggedPongs n out) = [] := by
  induction n generalizing out with
  | zero => rfl
  | succ n ih =>
      rcases out.logged_complete .pong Payload.empty with ⟨r, hlogged, htype, _, _⟩
      have hother : ¬ (r.type = .frame ∧ r.Complete) := by
        intro h
        rw [htype] at h
        cases h.1
      unfold Schedule.loggedPongs
      rw [frameMessages_append, ih, hlogged, frameMessages_of_other hother]
      rfl

/-!
## What a call writes
-/

variable {libs : CompressionLibraries}

def Wrote (libs : CompressionLibraries) (frame : AVFrame) (n : Nat)
    (s s' : VTRemoteEncContext Host) : Prop :=
  s'.options = s.options ∧ exists written,
    frameMessages s'.fd.log = frameMessages s.fd.log ++ written ∧
    written.length = n ∧
    forall payload, payload ∈ written ->
      FrameCarries libs s.wireCompression frame payload

theorem Wrote.nothing {frame : AVFrame} {s s' : VTRemoteEncContext Host}
    (hoptions : s'.options = s.options)
    (hlog : frameMessages s'.fd.log = frameMessages s.fd.log) :
    Wrote libs frame 0 s s' := by
  refine ⟨hoptions, [], ?_, rfl, ?_⟩
  · rw [List.append_nil]
    exact hlog
  · intro payload hpayload
    cases hpayload

theorem Wrote.trans {frame : AVFrame} {m n : Nat}
    {s s' s'' : VTRemoteEncContext Host} (h : Wrote libs frame m s s')
    (h' : Wrote libs frame n s' s'') : Wrote libs frame (m + n) s s'' := by
  rcases h with ⟨hoptions, first, hfirst, hlen, hcarries⟩
  rcases h' with ⟨hoptions', second, hsecond, hlen', hcarries'⟩
  refine ⟨hoptions'.trans hoptions, first ++ second, ?_, ?_, ?_⟩
  · rw [hsecond, hfirst, List.append_assoc]
  · rw [List.length_append, hlen, hlen']
  · intro payload hpayload
    rcases List.mem_append.mp hpayload with hmem | hmem
    · exact hcarries payload hmem
    · rw [<- wireCompression_of_options hoptions]
      exact hcarries' payload hmem

theorem Took.wrote {packets pings : Nat} {s s' : VTRemoteEncContext Host}
    (h : Took packets pings s s') (frame : AVFrame) : Wrote libs frame 0 s s' := by
  apply Wrote.nothing h.options
  rw [h.log, frameMessages_append, frameMessages_pongs, List.append_nil]

theorem Waited.wrote {pings : Nat} {s s' : VTRemoteEncContext Host}
    (h : Waited pings s s') (frame : AVFrame) : Wrote libs frame 0 s s' := by
  apply Wrote.nothing h.options
  rw [h.log, frameMessages_append, frameMessages_pongs, List.append_nil]

theorem Wrote.unique {frame : AVFrame} {m n : Nat} {s s' : VTRemoteEncContext Host}
    (h : Wrote libs frame m s s') (h' : Wrote libs frame n s s') : m = n := by
  rcases h with ⟨_, written, hwritten, hlen, _⟩
  rcases h' with ⟨_, written', hwritten', hlen', _⟩
  rw [hwritten] at hwritten'
  rw [<- hlen, <- hlen', List.append_cancel_left hwritten']

/-!
## Sending the frame
-/

def TakesFrame (libs : CompressionLibraries) (frame : AVFrame)
    (s : VTRemoteEncContext Host) (out : Schedule Errno) : Prop :=
  exists payload, PayloadOf libs frame s payload ∧ out.Takes .frame payload

theorem payloadOf_of_options {s s' : VTRemoteEncContext Host}
    (h : s'.options = s.options) (frame : AVFrame) (payload : Payload) :
    PayloadOf libs frame s' payload <-> PayloadOf libs frame s payload := by
  unfold PayloadOf
  rw [codecId_of_options h, wireCompression_of_options h]

theorem takesFrame_of_options {s s' : VTRemoteEncContext Host}
    (h : s'.options = s.options) (frame : AVFrame) (out : Schedule Errno) :
    TakesFrame libs frame s' out <-> TakesFrame libs frame s out := by
  unfold TakesFrame
  simp only [payloadOf_of_options h]

structure FrameSession (s : VTRemoteEncContext Host) (offers : List WireOffer) :
    Prop extends EncSession s offers where
  flushing : s.flushing = false

theorem SendEnd.wrote {frame : AVFrame} {s s' : VTRemoteEncContext Host}
    {r : Except AvError Unit} (h : SendEnd libs frame s r s')
    (hoptions : s'.options = s.options) :
    (TakesFrame libs frame s s.fd.outgoing ∧ r = .ok () ∧ Wrote libs frame 1 s s') ∨
      (¬ TakesFrame libs frame s s.fd.outgoing ∧ (exists e, r = .error e) ∧
        Wrote libs frame 0 s s') := by
  cases h with
  | unsendable hsendable _ _ hlog _ =>
      right
      refine ⟨?_, ⟨_, rfl⟩, Wrote.nothing hoptions (congrArg frameMessages hlog)⟩
      intro htakes
      rcases htakes with ⟨payload, hpayload, _⟩
      rw [hpayload.1] at hsendable
      cases hsendable
  | @sent _ payload _ hpayload hresult _ hlog _ =>
      by_cases htakes : s.fd.outgoing.Takes .frame payload
      · left
        refine ⟨⟨payload, hpayload, htakes⟩, hresult.symm.trans htakes, hoptions,
          [payload], ?_, rfl, ?_⟩
        · rw [hlog, frameMessages_append, frameMessages_taken htakes]
        · intro payload' hmem
          rw [List.mem_singleton.mp hmem]
          exact hpayload.2
      · right
        refine ⟨?_, ?_, Wrote.nothing hoptions ?_⟩
        · intro htaken
          rcases htaken with ⟨payload', hpayload', htaken⟩
          rw [hpayload'.2.unique hpayload.2] at htaken
          exact htakes htaken
        · cases r with
          | ok _ => exact absurd hresult htakes
          | error e => exact ⟨e, rfl⟩
        · rw [hlog, frameMessages_append, frameMessages_untaken htakes, List.append_nil]

theorem SendEnd.eof_iff {frame : AVFrame} {s s' : VTRemoteEncContext Host}
    {r : Except AvError Unit} (h : SendEnd libs frame s r s') :
    r = .error averrorEof <-> exists payload, PayloadOf libs frame s payload ∧
      s.fd.outgoing.result .frame payload = .error averrorEof := by
  cases h with
  | unsendable hsendable heof _ _ _ =>
      apply iff_of_false
      · exact fun h => heof (Except.error.inj h)
      · intro h
        rcases h with ⟨payload, hpayload, _⟩
        rw [hpayload.1] at hsendable
        cases hsendable
  | @sent _ payload _ hpayload hresult _ _ _ =>
      constructor
      · intro hr
        exact ⟨payload, hpayload, hresult.trans hr⟩
      · intro h
        rcases h with ⟨payload', hpayload', heof⟩
        rw [hpayload'.2.unique hpayload.2, hresult] at heof
        exact heof

/-- The frame is written if the socket takes it, whatever becomes of the result
code. -/
theorem ignoredSend_wrote {s : VTRemoteEncContext Host} {offers : List WireOffer}
    (h : FrameSession s offers) {frame : AVFrame} (hbacked : frame.Backed) :
    exists s', ignored (ffVtremoteCommonSendFrame hostLink libs (some frame)) s =
        .returned (.ok ()) s' ∧ FrameSession s' offers ∧
      ((TakesFrame libs frame s s.fd.outgoing ∧ Wrote libs frame 1 s s') ∨
        (¬ TakesFrame libs frame s s.fd.outgoing ∧ Wrote libs frame 0 s s')) := by
  rcases h.toEncSession.sendFrame hbacked with
    ⟨r, s', hcall, hend, hunread, hflushing, hsession⟩
  refine ⟨s', ignored_of_returned hcall, ⟨hsession, hflushing.trans h.flushing⟩, ?_⟩
  rcases hend.wrote hunread.options with ⟨htakes, _, hwrote⟩ | ⟨htakes, _, hwrote⟩
  · exact Or.inl ⟨htakes, hwrote⟩
  · exact Or.inr ⟨htakes, hwrote⟩

/-!
## When a call is right
-/

/-- How often the caller expects the frame on the wire. -/
def EncodeReturn.expected (r : EncodeReturn) : Nat :=
  if r.accepted then 1 else 0

/-- The window is open: the send does not fail with the code of the end of the
stream, and behind a frame that fills the window, a packet comes and the frame is
not taken a second time. -/
structure CleanOpen (libs : CompressionLibraries) (frame : AVFrame)
    (s : VTRemoteEncContext Host) (m : Moment) : Prop where
  reported : forall payload, PayloadOf libs frame s payload ->
    m.outgoing.result .frame payload ≠ .error averrorEof
  once : forall payload, PayloadOf libs frame s payload ->
    m.outgoing.Takes .frame payload -> s.inflight ≤ m.inflightFrames + 1 ->
    m.waitEnd = .packet ∧
      ¬ TakesFrame libs frame s
        { m with outgoing := m.outgoing.behind .frame payload }.outgoingBehindWait

/-- What has to hold behind the opening drain: with a packet queued, with an open
window, and with a full one. -/
def CleanMoment (libs : CompressionLibraries) (frame : AVFrame)
    (s : VTRemoteEncContext Host) (m : Moment) : Prop :=
  if 0 < m.queued then
    m.inflightFrames < s.inflight ∧ TakesFrame libs frame s m.outgoing
  else if m.inflightFrames < s.inflight then CleanOpen libs frame s m
  else m.waitEnd = .packet -> TakesFrame libs frame s m.outgoingBehindWait

/-- The call is right, by its frame, the context that it begins with, the messages
that are offered and the schedule of the socket. -/
def CleanCall (libs : CompressionLibraries) (frame : AVFrame)
    (s : VTRemoteEncContext Host) : Prop :=
  forall offers, WireOffers s.fd.incoming offers ->
    (drained s.room offers).last.Succeeds ->
    CleanMoment libs frame s (s.behindDrain (drained s.room offers))

theorem cleanMoment_of_options {s s' : VTRemoteEncContext Host}
    (h : s'.options = s.options) (frame : AVFrame) (m : Moment) :
    CleanMoment libs frame s' m <-> CleanMoment libs frame s m := by
  have hopen : CleanOpen libs frame s' m <-> CleanOpen libs frame s m := by
    constructor
    · intro hclean
      have hreported := hclean.reported
      have honce := hclean.once
      simp only [payloadOf_of_options h, takesFrame_of_options h, inflight_of_options h]
        at hreported honce
      exact ⟨hreported, honce⟩
    · intro hclean
      constructor
      · simp only [payloadOf_of_options h]
        exact hclean.reported
      · simp only [payloadOf_of_options h, takesFrame_of_options h, inflight_of_options h]
        exact hclean.once
  unfold CleanMoment
  rw [hopen, inflight_of_options h]
  simp only [takesFrame_of_options h]

/-- The frame was written some number of times, which is what the result code says
if and only if `clean`, and the session goes on. -/
structure Submits (libs : CompressionLibraries) (frame : AVFrame) (clean : Prop)
    (s : VTRemoteEncContext Host) (r : Except AvError EncodeReturn)
    (s' : VTRemoteEncContext Host) : Prop where
  wrote : exists n, Wrote libs frame n s s' ∧
    (n = (EncodeReturn.ofResult r).expected <-> clean)
  session : exists offers, FrameSession s' offers

theorem Submits.behind {frame : AVFrame} {clean clean' : Prop}
    {s s1 s' : VTRemoteEncContext Host} {r : Except AvError EncodeReturn}
    (hwrote : Wrote libs frame 0 s s1) (hclean : clean <-> clean')
    (h : Submits libs frame clean s1 r s') : Submits libs frame clean' s r s' := by
  rcases h with ⟨⟨n, hwrote', hret⟩, hsession⟩
  have htotal := hwrote.trans hwrote'
  rw [Nat.zero_add] at htotal
  exact ⟨⟨n, htotal, hret.trans hclean⟩, hsession⟩

/-!
## The branches of a call
-/

section Branches

variable {frame : AVFrame} {s s1 : VTRemoteEncContext Host} {offers : List WireOffer}

theorem returnQueued_submits (h : FrameSession s offers) (hbacked : frame.Backed)
    (hqueued : 0 < s.pktQueue.count) :
    (returnQueued hostLink libs (some frame) s).Ends
      (Submits libs frame (CleanMoment libs frame s (s.moment offers)) s)
      (fun _ => True) := by
  rcases h.toEncSession.popPacket with ⟨s1, hpop, hsession1, hs1⟩
  have hsession : FrameSession s1 offers := by
    refine ⟨hsession1, ?_⟩
    rw [hs1]
    exact h.flushing
  have hclean : CleanMoment libs frame s (s.moment offers) <->
      s1.inflightFrames < s1.inflight ∧ TakesFrame libs frame s1 s1.fd.outgoing := by
    unfold CleanMoment
    rw [if_pos (show 0 < (s.moment offers).queued from hqueued), hs1]
    rfl
  have hpopped : Wrote libs frame 0 s s1 := by
    rw [hs1]
    exact Wrote.nothing rfl rfl
  unfold returnQueued
  rw [Call.bind_of_ok _ hpop, Call.get_bind]
  show (((Call.when ((some frame).isSome ∧ s1.inflightFrames < s1.inflight) _) >>= _)
    s1).Ends _ _
  by_cases hopen : s1.inflightFrames < s1.inflight
  · unfold Call.when
    rw [if_pos ⟨rfl, hopen⟩]
    rcases @ignoredSend_wrote libs _ _ hsession _ hbacked with
      ⟨s2, hsend, hsession2, ⟨htakes, hwrote⟩ | ⟨htakes, hwrote⟩⟩
    · rw [Call.bind_of_ok _ hsend]
      refine ⟨⟨1, hpopped.trans hwrote, ?_⟩, _, hsession2⟩
      exact iff_of_true rfl (hclean.mpr ⟨hopen, htakes⟩)
    · rw [Call.bind_of_ok _ hsend]
      refine ⟨⟨0, hpopped.trans hwrote, ?_⟩, _, hsession2⟩
      exact iff_of_false (fun h => by cases h) fun h => htakes (hclean.mp h).2
  · unfold Call.when
    rw [if_neg fun h => hopen h.2]
    refine ⟨⟨0, hpopped, ?_⟩, _, hsession⟩
    exact iff_of_false (fun h => by cases h) fun h => hopen (hclean.mp h).1

theorem receivePacket_wrote (h : FrameSession s offers) (hempty : s.pktQueue.count = 0)
    (hsize : 0 < s.pktQueue.size) (frame : AVFrame) :
    (ffVtremoteCommonReceivePacket hostLink s).Ends
      (fun r s' => (exists rest, FrameSession s' rest) ∧ Wrote libs frame 0 s s' ∧
        (((s.moment offers).waitEnd = .packet ∧ (exists pkt, r = .ok pkt) ∧
            s'.fd.outgoing = (s.moment offers).outgoingBehindWait) ∨
          ((s.moment offers).waitEnd = .fails ∧ exists e, r = .error e)))
      (fun _ => True) := by
  apply (ffVtremoteCommonReceivePacket_offers h.following hempty hsize).mono
  · intro r s' hs'
    rcases hs' with ⟨rest, hfollowing, ⟨hend, hr, hwaited⟩ | ⟨hend, hr, pings, hstalled⟩⟩
    · have hsession := h.moved hfollowing hwaited.options hwaited.kept.2
      exact ⟨⟨rest, hsession, hwaited.kept.1.trans h.flushing⟩,
        hwaited.wrote frame, Or.inl ⟨hend, hr, hwaited.outgoing⟩⟩
    · have hsession := h.moved hfollowing hstalled.took.options hstalled.took.kept.2
      exact ⟨⟨rest, hsession, hstalled.took.kept.1.trans h.flushing⟩,
        hstalled.took.wrote frame, Or.inr ⟨hend, hr⟩⟩
  · exact fun _ _ => trivial

theorem waitForPacket_wrote (h : FrameSession s offers) (hbacked : frame.Backed)
    (hempty : s.pktQueue.count = 0) (hsize : 0 < s.pktQueue.size) :
    (waitForPacket hostLink libs (some frame) s).Ends
      (fun r s' => (exists rest, FrameSession s' rest) ∧
        (((s.moment offers).waitEnd = .packet ∧
            (EncodeReturn.ofResult r).expected = 1 ∧
            ((TakesFrame libs frame s (s.moment offers).outgoingBehindWait ∧
                Wrote libs frame 1 s s') ∨
              (¬ TakesFrame libs frame s (s.moment offers).outgoingBehindWait ∧
                Wrote libs frame 0 s s'))) ∨
          ((s.moment offers).waitEnd = .fails ∧
            (EncodeReturn.ofResult r).expected = 0 ∧ Wrote libs frame 0 s s')))
      (fun _ => True) := by
  have hreceive := @receivePacket_wrote libs _ _ h hempty hsize frame
  unfold waitForPacket
  apply Call.ends_attempt_bind hreceive
  intro r s1 hs1
  rcases hs1 with ⟨⟨rest, hsession⟩, hwrote,
    ⟨hend, ⟨pkt, rfl⟩, houtgoing⟩ | ⟨hend, e, rfl⟩⟩
  · rcases @ignoredSend_wrote libs _ _ hsession _ hbacked with
      ⟨s2, hsend, hsession2, hsent⟩
    simp only
    rw [Call.bind_of_ok _ hsend]
    rw [takesFrame_of_options hwrote.1, houtgoing] at hsent
    refine ⟨⟨rest, hsession2⟩, Or.inl ⟨hend, rfl, ?_⟩⟩
    rcases hsent with ⟨htakes, hwrote2⟩ | ⟨htakes, hwrote2⟩
    · exact Or.inl ⟨htakes, hwrote.trans hwrote2⟩
    · exact Or.inr ⟨htakes, hwrote.trans hwrote2⟩
  · exact ⟨⟨rest, hsession⟩, Or.inr ⟨hend, rfl, hwrote⟩⟩

theorem encodeUnqueued_full_submits (h : FrameSession s offers) (hbacked : frame.Backed)
    (hempty : s.pktQueue.count = 0) (hsize : 0 < s.pktQueue.size)
    (hfull : s.inflight ≤ s.inflightFrames) (draining : Bool) :
    (encodeUnqueued hostLink libs (some frame) draining s).Ends
      (Submits libs frame (CleanMoment libs frame s (s.moment offers)) s)
      (fun _ => True) := by
  have hclean : CleanMoment libs frame s (s.moment offers) <->
      ((s.moment offers).waitEnd = .packet ->
        TakesFrame libs frame s (s.moment offers).outgoingBehindWait) := by
    unfold CleanMoment
    rw [if_neg (show ¬ 0 < (s.moment offers).queued from
        hempty ▸ Nat.lt_irrefl 0),
      if_neg (show ¬ (s.moment offers).inflightFrames < s.inflight from
        Nat.not_lt.mpr hfull)]
  rw [encodeUnqueued_full hfull]
  apply (waitForPacket_wrote h hbacked hempty hsize).mono
  · intro r s' hs'
    rcases hs' with ⟨hsession,
      ⟨hend, hret, ⟨htakes, hwrote⟩ | ⟨htakes, hwrote⟩⟩ | ⟨hend, hret, hwrote⟩⟩
    · exact ⟨⟨1, hwrote, iff_of_true hret.symm (hclean.mpr fun _ => htakes)⟩, hsession⟩
    · refine ⟨⟨0, hwrote, iff_of_false ?_ ?_⟩, hsession⟩
      · rw [hret]
        exact Nat.zero_ne_one
      · exact fun h => htakes (hclean.mp h hend)
    · refine ⟨⟨0, hwrote, iff_of_true hret.symm (hclean.mpr ?_)⟩, hsession⟩
      intro hpacket
      rw [hend] at hpacket
      cases hpacket
  · exact fun _ h => h

theorem encodeUnqueued_taken_submits (hbacked : frame.Backed)
    (hempty : s.pktQueue.count = 0) (hsize : 0 < s.pktQueue.size)
    (hopen : s.inflightFrames < s.inflight) {payload : Payload}
    (hsend : ffVtremoteCommonSendFrame hostLink libs (some frame) s =
      .returned (.ok ()) s1)
    (hcarried : PayloadOf libs frame s payload)
    (htakes : s.fd.outgoing.Takes .frame payload) (hwrote : Wrote libs frame 1 s s1)
    (hframes : s1.inflightFrames = s.inflightFrames + 1)
    (houtgoing : s1.fd.outgoing = s.fd.outgoing.behind .frame payload)
    (hunread : Unread s s1) (hsession : FrameSession s1 offers) (draining : Bool) :
    (encodeUnqueued hostLink libs (some frame) draining s).Ends
      (Submits libs frame (CleanOpen libs frame s (s.moment offers)) s)
      (fun _ => True) := by
  have hmoment : s1.moment offers = { s.moment offers with
      inflightFrames := s.inflightFrames + 1
      outgoing := s.fd.outgoing.behind .frame payload } := by
    unfold VTRemoteEncContext.moment
    rw [hunread.queue, hframes, hunread.done, houtgoing]
  have hreported : forall payload', PayloadOf libs frame s payload' ->
      s.fd.outgoing.result .frame payload' ≠ .error averrorEof := by
    intro payload' hcarried' heof
    rw [hcarried'.2.unique hcarried.2] at heof
    unfold Schedule.Takes at htakes
    rw [htakes] at heof
    cases heof
  have hinflight := inflight_of_options hunread.options
  rw [encodeUnqueued_of_send hopen hsend]
  by_cases hfull : s1.inflight ≤ s1.inflightFrames
  · have hfilled : s.inflight ≤ s.inflightFrames + 1 := by
      rw [<- hinflight, <- hframes]
      exact hfull
    have hclean : CleanOpen libs frame s (s.moment offers) <->
        (s1.moment offers).waitEnd = .packet ∧
          ¬ TakesFrame libs frame s1 (s1.moment offers).outgoingBehindWait := by
      rw [takesFrame_of_options hunread.options, hmoment]
      constructor
      · exact fun hopen => hopen.once payload hcarried htakes hfilled
      · intro hwait
        refine ⟨hreported, ?_⟩
        intro payload' hcarried' _ _
        rw [hcarried'.2.unique hcarried.2]
        exact hwait
    rw [encodeSubmitted_full hfull]
    apply (waitForPacket_wrote hsession hbacked (hunread.queue ▸ hempty)
      (hunread.queue ▸ hsize)).mono
    · intro r s' hs'
      rcases hs' with ⟨hsession',
        ⟨hend, hret, ⟨htakes', hwrote'⟩ | ⟨htakes', hwrote'⟩⟩ | ⟨hend, hret, hwrote'⟩⟩
      · refine ⟨⟨2, hwrote.trans hwrote', iff_of_false ?_ ?_⟩, hsession'⟩
        · rw [hret]
          exact fun h => by cases h
        · exact fun h => (hclean.mp h).2 htakes'
      · exact ⟨⟨1, hwrote.trans hwrote',
          iff_of_true hret.symm (hclean.mpr ⟨hend, htakes'⟩)⟩, hsession'⟩
      · refine ⟨⟨1, hwrote.trans hwrote', iff_of_false ?_ ?_⟩, hsession'⟩
        · rw [hret]
          exact Nat.one_ne_zero
        · intro h
          have hpacket := (hclean.mp h).1
          rw [hend] at hpacket
          cases hpacket
    · exact fun _ h => h
  · rw [encodeSubmitted_open (Nat.not_le.mp hfull) hsession.flushing]
    refine ⟨⟨1, hwrote, iff_of_true rfl ⟨hreported, ?_⟩⟩, _, hsession⟩
    intro payload' _ _ hfilled
    apply absurd _ hfull
    rw [hinflight, hframes]
    exact hfilled

theorem encodeUnqueued_untaken_submits (hopen : s.inflightFrames < s.inflight)
    {e : AvError}
    (hsend : ffVtremoteCommonSendFrame hostLink libs (some frame) s =
      .returned (.error e) s1)
    (hend : SendEnd libs frame s (.error e) s1)
    (hframes : s1.inflightFrames = s.inflightFrames)
    (hunread : Unread s s1) (hsession : FrameSession s1 offers) (draining : Bool) :
    (encodeUnqueued hostLink libs (some frame) draining s).Ends
      (Submits libs frame (CleanOpen libs frame s (s.moment offers)) s)
      (fun _ => True) := by
  have hopen1 : s1.inflightFrames < s1.inflight := by
    rw [inflight_of_options hunread.options, hframes]
    exact hopen
  rcases hend.wrote hunread.options with ⟨_, hok, _⟩ | ⟨htakes, _, hwrote⟩
  · cases hok
  have hclean : CleanOpen libs frame s (s.moment offers) <-> e ≠ averrorEof := by
    constructor
    · intro hclean he
      rcases hend.eof_iff.mp (congrArg Except.error he) with ⟨payload, hpayload, heof⟩
      exact hclean.reported payload hpayload heof
    · intro hne
      refine ⟨?_, ?_⟩
      · intro payload hpayload heof
        exact hne (Except.error.inj (hend.eof_iff.mpr ⟨payload, hpayload, heof⟩))
      · exact fun payload hpayload htaken => absurd ⟨payload, hpayload, htaken⟩ htakes
  have hunless := unlessEof_of_error hsend
  unfold encodeUnqueued Call.when
  rw [Call.get_bind, if_pos ⟨rfl, hopen⟩]
  by_cases he : e = averrorEof
  · rw [if_pos he] at hunless
    rw [Call.bind_of_ok _ hunless, encodeSubmitted_open hopen1 hsession.flushing]
    refine ⟨⟨0, hwrote, iff_of_false ?_ ?_⟩, _, hsession⟩
    · exact fun h => by cases h
    · exact fun h => hclean.mp h he
  · rw [if_neg he] at hunless
    rw [Call.bind_of_error _ hunless]
    exact ⟨⟨0, hwrote, iff_of_true rfl (hclean.mpr he)⟩, _, hsession⟩

theorem encodeUnqueued_open_submits (h : FrameSession s offers) (hbacked : frame.Backed)
    (hempty : s.pktQueue.count = 0) (hsize : 0 < s.pktQueue.size)
    (hopen : s.inflightFrames < s.inflight) (draining : Bool) :
    (encodeUnqueued hostLink libs (some frame) draining s).Ends
      (Submits libs frame (CleanMoment libs frame s (s.moment offers)) s)
      (fun _ => True) := by
  have hclean : CleanMoment libs frame s (s.moment offers) =
      CleanOpen libs frame s (s.moment offers) := by
    unfold CleanMoment
    rw [if_neg (show ¬ 0 < (s.moment offers).queued from
        hempty ▸ Nat.lt_irrefl 0),
      if_pos (show (s.moment offers).inflightFrames < s.inflight from hopen)]
  rw [hclean]
  rcases @EncSession.sendFrame libs _ _ h.toEncSession _ hbacked with
    ⟨r, s1, hsend, hend, hunread, hflushing, hsession1⟩
  have hsession : FrameSession s1 offers := ⟨hsession1, hflushing.trans h.flushing⟩
  cases r with
  | error e =>
      have hframes : s1.inflightFrames = s.inflightFrames := by
        cases hend with
        | unsendable _ _ _ _ hframes => exact hframes
        | sent _ _ _ _ hframes => exact hframes
      exact encodeUnqueued_untaken_submits hopen hsend hend hframes hunread hsession
        draining
  | ok _ =>
      have hwrote : Wrote libs frame 1 s s1 := by
        rcases hend.wrote hunread.options with ⟨_, _, hwrote⟩ | ⟨_, ⟨e, he⟩, _⟩
        · exact hwrote
        · cases he
      cases hend with
      | sent hpayload hresult houtgoing _ hframes =>
          exact encodeUnqueued_taken_submits hbacked hempty hsize hopen hsend hpayload
            hresult hwrote hframes houtgoing hunread hsession draining

end Branches

/-!
## A call
-/

theorem encodeBody_submits {frame : AVFrame} {s : VTRemoteEncContext Host}
    {offers : List WireOffer} (h : FrameSession s offers) (hbacked : frame.Backed)
    (draining : Bool) :
    (encodeBody hostLink libs (some frame) draining s).Ends
      (Submits libs frame ((drained s.room offers).last.Succeeds ->
        CleanMoment libs frame s (s.behindDrain (drained s.room offers))) s)
      (fun _ => True) := by
  unfold encodeBody
  have hdrain := openingDrain_offers h.following
  apply Call.ends_bind (hdrain.mono (fun _ _ h => h) (fun _ _ => trivial))
  · intro e s1 hs1
    rcases hs1 with ⟨hresult, hopens⟩
    have hfails := hresult.not_succeeds
    exact ⟨⟨0, hopens.took.wrote frame, iff_of_true rfl (absurd · hfails)⟩, _,
      hopens.session h.toEncSession, hopens.took.kept.1.trans h.flushing⟩
  · intro _ s1 hs1
    rcases hs1 with ⟨hresult, hopens⟩
    have hsucceeds := hresult.succeeds
    have hclean : CleanMoment libs frame s1 (s1.moment (drained s.room offers).rest) <->
        ((drained s.room offers).last.Succeeds ->
          CleanMoment libs frame s (s.behindDrain (drained s.room offers))) := by
      rw [hopens.moment, cleanMoment_of_options hopens.took.options]
      exact ⟨fun h _ => h, fun h => h hsucceeds⟩
    have hsession : FrameSession s1 (drained s.room offers).rest :=
      ⟨hopens.session h.toEncSession, hopens.took.kept.1.trans h.flushing⟩
    rw [Call.get_bind]
    have hbehind : forall {o : Outcome AvError (VTRemoteEncContext Host) EncodeReturn},
        o.Ends (Submits libs frame
          (CleanMoment libs frame s1 (s1.moment (drained s.room offers).rest)) s1)
          (fun _ => True) -> o.Ends (Submits libs frame _ s) (fun _ => True) :=
      fun ho => ho.mono
        (fun _ _ hr => hr.behind (hopens.took.wrote frame) hclean) (fun _ h => h)
    by_cases hqueued : 0 < s1.pktQueue.count
    · rw [if_pos hqueued]
      exact hbehind (returnQueued_submits hsession hbacked hqueued)
    · have hempty : s1.pktQueue.count = 0 := Nat.eq_zero_of_not_pos hqueued
      rw [if_neg hqueued]
      by_cases hopen : s1.inflightFrames < s1.inflight
      · exact hbehind (encodeUnqueued_open_submits hsession hbacked hempty
          hopens.allocated hopen draining)
      · exact hbehind (encodeUnqueued_full_submits hsession hbacked hempty
          hopens.allocated (Nat.not_lt.mp hopen) draining)

/-- One call writes its frame as often as its result code says if and only if
the call is clean. -/
theorem ffVtremoteEncode_submits {frame : AVFrame} {s : VTRemoteEncContext Host}
    (h : exists offers, FrameSession s offers) (hbacked : frame.Backed) (draining : Bool) :
    (ffVtremoteEncode hostLink libs (some frame) draining s).Ends
      (fun r s' => exists ret, r = .ok ret ∧ (exists offers, FrameSession s' offers) ∧
        exists n, Wrote libs frame n s s' ∧
          (n = ret.expected <-> CleanCall libs frame s))
      (fun _ => True) := by
  rcases h with ⟨offers, h⟩
  have hbody : forall offers, FrameSession s offers ->
      (encodeBody hostLink libs (some frame) draining s).Ends
        (Submits libs frame ((drained s.room offers).last.Succeeds ->
          CleanMoment libs frame s (s.behindDrain (drained s.room offers))) s)
        (fun _ => True) :=
    fun _ h => encodeBody_submits h hbacked draining
  cases hcall : encodeBody hostLink libs (some frame) draining s with
  | blocked s' =>
      rw [ffVtremoteEncode_of_blocked hcall]
      exact trivial
  | returned r s' =>
      rw [ffVtremoteEncode_of_returned hcall]
      rw [hcall] at hbody
      rcases hbody offers h with ⟨⟨n, hwrote, hret⟩, hsession⟩
      refine ⟨_, rfl, hsession, n, hwrote, ?_⟩
      constructor
      · intro hn offers' hoffers' hsucceeds
        have h' : FrameSession s offers' :=
          ⟨⟨⟨h.following.granted, hoffers'⟩, h.connected, h.grants⟩, h.flushing⟩
        rcases hbody offers' h' with ⟨⟨n', hwrote', hret'⟩, _⟩
        have hsame := hwrote.unique hwrote'
        rw [hsame] at hn
        exact hret'.mp hn hsucceeds
      · exact fun hclean => hret.mpr fun hsucceeds => hclean offers h.following.offers
          hsucceeds

end VTRemote
