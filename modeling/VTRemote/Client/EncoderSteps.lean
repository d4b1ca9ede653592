import VTRemote.Client.EncoderMoves

/-!
# What sending a frame and taking a packet do

The ways in which the two operations of the encoder on a frame and on its queue
can end, whatever they are called from.
-/

namespace VTRemote

attribute [local irreducible] cInt

section Steps

variable {σ : Type} {link : Link σ} {libs : CompressionLibraries}

/-- How `ff_vtremote_common_send_frame` ends for a frame.  `M` relates the
connections before and after an allocation. -/
inductive FrameSend (link : Link σ) (M : σ -> σ -> Prop)
    (s : VTRemoteEncContext σ) :
    Except AvError Unit -> VTRemoteEncContext σ -> Prop where
  | unsent {e : AvError} {s' : VTRemoteEncContext σ} (hprepares : Prepares M s s') :
      FrameSend link M s (.error e) s'
  | failed {e : AvError} {s' : VTRemoteEncContext σ} {fd : σ} {payload : Payload}
      (hprepares : Prepares M s s')
      (hsend : link.sendMsg .frame payload s'.fd = .returned (.error e) fd) :
      FrameSend link M s (.error e) { s' with fd := fd }
  | sent {s' : VTRemoteEncContext σ} {fd : σ} {payload : Payload}
      (hprepares : Prepares M s s')
      (hsend : link.sendMsg .frame payload s'.fd = .returned (.ok ()) fd) :
      FrameSend link M s (.ok ())
        { s' with
          fd := fd
          inflightFrames := s'.inflightFrames + 1
          framesSent := s'.framesSent + 1 }

theorem onLink_of_returned {α : Type} {m : Call AvError σ α}
    {s : VTRemoteEncContext σ} {r : Except AvError α} {fd : σ}
    (h : m s.fd = .returned r fd) :
    onLink m s = .returned r { s with fd := fd } :=
  Call.zoom_of_returned h

theorem onLink_of_blocked {α : Type} {m : Call AvError σ α}
    {s : VTRemoteEncContext σ} {fd : σ} (h : m s.fd = .blocked fd) :
    onLink m s = .blocked { s with fd := fd } :=
  Call.zoom_of_blocked h

section Send

variable {M : σ -> σ -> Prop} {B : VTRemoteEncContext σ -> Prop}
  {s s1 : VTRemoteEncContext σ} {frame : AVFrame}
  (hblocked : forall {s1 payload fd}, Prepares M s s1 ->
    link.sendMsg .frame payload s1.fd = .blocked fd -> B { s1 with fd := fd })
include hblocked

theorem sendMsg_ends {payload : Payload} (hs1 : Prepares M s s1) :
    ((onLink (link.sendMsg .frame payload) >>= fun _ => Call.modify fun s =>
        { s with
          inflightFrames := s.inflightFrames + 1
          framesSent := s.framesSent + 1 }) s1).Ends
      (FrameSend link M s) B := by
  cases hsend : link.sendMsg .frame payload s1.fd with
  | blocked fd =>
      rw [Call.bind_of_blocked _ (onLink_of_blocked hsend)]
      exact hblocked hs1 hsend
  | returned result fd =>
      cases result with
      | error e =>
          rw [Call.bind_of_error _ (onLink_of_returned hsend)]
          exact .failed hs1 hsend
      | ok _ =>
          rw [Call.bind_of_ok _ (onLink_of_returned hsend)]
          have hsent := FrameSend.sent hs1 hsend
          exact hsent

theorem sendPayload_ends [IsPreorder σ M] {plane0 plane1 : FramePlane}
    (hs1 : Prepares M s s1) :
    (sendPayload link frame [plane0, plane1] s1).Ends
      (FrameSend link M s) B := by
  have hput : Prepares M s { s1 with
      frameBuf := (putFrame frame [plane0, plane1]
        (vtremoteWbufReset s1.frameBuf)).2 } := by
    apply trans_of (Prepares M) hs1
    exact ⟨refl_of M s1.fd, s1.fd, _, s1.compBufCap, s1.zstdCctx, rfl⟩
  by_cases hneg : (putFrame frame [plane0, plane1]
      (vtremoteWbufReset s1.frameBuf)).1 < 0
  · simp only [sendPayload, Call.get_bind, Call.modify_bind, dif_pos hneg]
    exact .unsent hput
  · simp only [sendPayload, Call.get_bind, Call.modify_bind, dif_neg hneg]
    exact sendMsg_ends hblocked hput

/-- The frame is sent or not, and the call blocks only where its allocations or
its message do. -/
theorem sendFrame_ends_of [IsPreorder σ M]
    (hprepare : forall i {s1}, Prepares M s s1 ->
      (prepareCompression link libs frame i s1).Ends
        (fun _ s2 => Prepares M s1 s2) B) :
    (ffVtremoteCommonSendFrame link libs (some frame) s).Ends
      (FrameSend link M s) B := by
  have hprepare' : forall i s1, Prepares M s s1 ->
      (prepareCompression link libs frame i s1).Ends
        (fun _ s2 => Prepares M s s2) B := by
    intro i s1 hs1
    exact (hprepare i hs1).mono
      (fun _ s2 hs2 => trans_of (Prepares M) hs1 hs2) (fun _ h => h)
  have hrefl : Prepares M s s := refl_of (Prepares M) s
  rw [ffVtremoteCommonSendFrame, Call.get_bind]
  split
  · exact .unsent hrefl
  split
  · exact .unsent hrefl
  apply Call.ends_bind (hprepare' 0 s hrefl)
  · exact fun _ _ => .unsent
  intro _ s1 hs1
  cases hplane0 : sendPlane libs s.wireCompression frame 0 with
  | error e => exact .unsent hs1
  | ok plane0 =>
      apply Call.ends_bind (hprepare' 1 s1 hs1)
      · exact fun _ _ => .unsent
      intro _ s2 hs2
      cases hplane1 : sendPlane libs s.wireCompression frame 1 with
      | error e => exact .unsent hs2
      | ok plane1 =>
          exact sendPayload_ends hblocked hs2

end Send

theorem unlessEof_of_ok {m : EncCall σ Unit} {s s' : VTRemoteEncContext σ}
    (h : m s = .returned (.ok ()) s') :
    unlessEof m s = .returned (.ok ()) s' := by
  unfold unlessEof
  rw [Call.bind_of_ok _ (Call.attempt_of_returned h)]
  rfl

theorem unlessEof_of_error {m : EncCall σ Unit} {s s' : VTRemoteEncContext σ}
    {e : AvError} (h : m s = .returned (.error e) s') :
    unlessEof m s =
      .returned (if e = averrorEof then .ok () else .error e) s' := by
  unfold unlessEof
  rw [Call.bind_of_ok _ (Call.attempt_of_returned h)]
  by_cases heof : e = averrorEof
  · simp only [if_pos heof]
    rfl
  · simp only [if_neg heof]
    rfl

/-!
## The queue when memory is granted
-/

theorem popPacket_of_packetRef {s : VTRemoteEncContext σ} {fd : σ}
    (href : link.packetRef s.fd = .returned (.ok ()) fd) :
    popPacket link s = .returned (.ok (.ok (s.pktQueue.slot 0)))
      { s with fd := fd, pktQueue := s.pktQueue.pop } := by
  unfold popPacket
  rw [Call.get_bind, Call.bind_of_ok _
    (Call.attempt_of_returned (onLink_of_returned href)), Call.modify_bind]
  rfl

def VTRemotePacketView.Allocatable (view : VTRemotePacketView) : Prop :=
  0 ≤ cInt view.dataLen.toNat ∧
    cInt view.dataLen.toNat < intMax - avInputBufferPaddingSize

instance (view : VTRemotePacketView) : Decidable view.Allocatable :=
  inferInstanceAs (Decidable (_ ∧ _))

/-- The packet that the fields of a message describe.  The lowest of its flags marks
a key packet. -/
def VTRemotePacketView.described (view : VTRemotePacketView) : AVPacket where
  data := view.data
  pts := view.pts
  dts := view.dts
  duration := view.duration
  flags := view.flags.toNat % 2

theorem VTRemotePacketView.toAVPacket_eq (view : VTRemotePacketView) :
    view.toAVPacket = view.described := by
  have hlow : (view.flags &&& 1).toNat = view.flags.toNat % 2 := by
    rw [UInt32.toNat_and]
    exact Nat.and_one_is_mod view.flags.toNat
  have hflags : (if view.flags &&& 1 != 0 then avPktFlagKey else 0) =
      view.flags.toNat % 2 := by
    rw [<- hlow]
    by_cases hzero : view.flags &&& 1 = 0
    · rw [hzero]
      rfl
    · rw [if_pos (bne_iff_ne.mpr hzero)]
      have hne : (view.flags &&& 1).toNat ≠ 0 := fun h =>
        hzero (UInt32.toNat_inj.mp h)
      unfold avPktFlagKey
      omega
  unfold VTRemotePacketView.toAVPacket described
  rw [hflags]

theorem enqueuePacket_of_malloc {payload : Bytes} {payloadSize : Int}
    {view : VTRemotePacketView} {s : VTRemoteEncContext σ} {fd : σ}
    (hparse : vtremoteParsePacket payload payloadSize = .ok view)
    (hview : view.Allocatable) (hroom : s.pktQueue.count < s.pktQueue.size)
    (hmalloc : link.malloc s.fd = .returned (.ok ()) fd) :
    enqueuePacket link payload payloadSize s = .returned (.ok ())
      { s with
        fd := fd
        pktQueue :=
          ((s.pktQueue.store default).store view.described).grow
        packetsRecv := s.packetsRecv + 1 } := by
  rw [<- view.toAVPacket_eq]
  have hsize : ¬ s.pktQueue.size = 0 := by
    intro hzero
    rw [hzero] at hroom
    exact Nat.not_lt_zero _ hroom
  have hnew : avNewPacket link (cInt view.dataLen.toNat)
      { s with pktQueue := s.pktQueue.store default } =
        .returned (.ok ())
          { s with fd := fd, pktQueue := s.pktQueue.store default } := by
    unfold avNewPacket
    rw [if_neg]
    · exact onLink_of_returned hmalloc
    · intro h
      rcases h with hneg | hbig
      · exact Int.not_lt.mpr hview.1 hneg
      · exact Int.not_le.mpr hview.2 hbig
  unfold enqueuePacket
  simp only [hparse]
  rw [Call.get_bind, if_neg hsize, Call.modify_bind, Call.bind_of_ok _ hnew,
    Call.modify_bind, Call.get_bind, if_pos]
  · rfl
  · simp only [Ring.count_store, Ring.size_store]
    exact hroom

/-!
## The branches of a call
-/

theorem ignored_of_returned {α : Type} {m : EncCall σ α}
    {s s' : VTRemoteEncContext σ} {r : Except AvError α}
    (h : m s = .returned r s') : ignored m s = .returned (.ok ()) s' := by
  unfold ignored
  rw [Call.bind_of_ok _ (Call.attempt_of_returned h)]
  rfl

section Branches

variable {frame : AVFrame} {s s' s1 s2 : VTRemoteEncContext σ}

theorem returnQueued_of_send {pkt : Except AvError AVPacket}
    {r : Except AvError Unit}
    (hpop : popPacket link s = .returned (.ok pkt) s1)
    (hopen : s1.inflightFrames < s1.inflight)
    (hsend : ffVtremoteCommonSendFrame link libs (some frame) s1 =
      .returned r s2) :
    returnQueued link libs (some frame) s = .returned (.ok
      { ret := pkt.map fun _ => (), gotPacket := true, pkt := pkt.toOption })
      s2 := by
  unfold returnQueued Call.when
  rw [Call.bind_of_ok _ hpop, Call.get_bind, if_pos ⟨rfl, hopen⟩,
    Call.bind_of_ok _ (ignored_of_returned hsend)]
  rfl

theorem waitForPacket_of_send {pkt : AVPacket} {r : Except AvError Unit}
    (hreceive : ffVtremoteCommonReceivePacket link s = .returned (.ok pkt) s1)
    (hsend : ffVtremoteCommonSendFrame link libs (some frame) s1 =
      .returned r s2) :
    waitForPacket link libs (some frame) s = .returned (.ok
      { ret := .ok (), gotPacket := true, pkt := some pkt }) s2 := by
  unfold waitForPacket
  rw [Call.bind_of_ok _ (Call.attempt_of_returned hreceive)]
  simp only
  rw [Call.bind_of_ok _ (ignored_of_returned hsend)]
  rfl

theorem waitForPacket_of_blocked
    (hreceive : ffVtremoteCommonReceivePacket link s = .blocked s1) :
    waitForPacket link libs (some frame) s = .blocked s1 := by
  unfold waitForPacket
  rw [Call.bind_of_blocked _ (Call.attempt_of_blocked hreceive)]

theorem encodeSubmitted_full (hfull : s.inflight ≤ s.inflightFrames)
    (draining : Bool) :
    encodeSubmitted link libs (some frame) draining s =
      waitForPacket link libs (some frame) s := by
  unfold encodeSubmitted
  rw [Call.get_bind, if_pos ⟨rfl, hfull⟩]

theorem encodeSubmitted_open (hopen : s.inflightFrames < s.inflight)
    (hflushing : s.flushing = false) (draining : Bool) :
    encodeSubmitted link libs (some frame) draining s = .returned (.ok
      { ret := .ok (), gotPacket := false, pkt := none }) s := by
  have hwhen : Call.when ((some frame).isNone ∧ draining)
      (unlessEof (ffVtremoteCommonSendFrame link libs none)) s =
        .returned (.ok ()) s := by
    unfold Call.when
    rw [if_neg (by simp)]
    rfl
  unfold encodeSubmitted
  rw [Call.get_bind, if_neg fun h => Nat.not_le.mpr hopen h.2,
    Call.bind_of_ok _ hwhen]
  unfold finishCall
  rw [Call.get_bind, if_neg (by simp [hflushing])]
  rfl

theorem encodeUnqueued_of_send (hopen : s.inflightFrames < s.inflight)
    (hsend : ffVtremoteCommonSendFrame link libs (some frame) s =
      .returned (.ok ()) s1) (draining : Bool) :
    encodeUnqueued link libs (some frame) draining s =
      encodeSubmitted link libs (some frame) draining s1 := by
  unfold encodeUnqueued Call.when
  rw [Call.get_bind, if_pos ⟨rfl, hopen⟩,
    Call.bind_of_ok _ (unlessEof_of_ok hsend)]

theorem encodeUnqueued_of_error {e : AvError}
    (hopen : s.inflightFrames < s.inflight)
    (hsend : ffVtremoteCommonSendFrame link libs (some frame) s =
      .returned (.error e) s1) (hopen1 : s1.inflightFrames < s1.inflight)
    (hflushing : s1.flushing = false) (draining : Bool) :
    exists r, encodeUnqueued link libs (some frame) draining s =
      .returned r s1 := by
  have hunless := unlessEof_of_error hsend
  unfold encodeUnqueued Call.when
  rw [Call.get_bind, if_pos ⟨rfl, hopen⟩]
  by_cases heof : e = averrorEof
  · rw [if_pos heof] at hunless
    rw [Call.bind_of_ok _ hunless]
    exact ⟨_, encodeSubmitted_open hopen1 hflushing draining⟩
  · rw [if_neg heof] at hunless
    exact ⟨_, Call.bind_of_error _ hunless⟩

theorem encodeUnqueued_full (hfull : s.inflight ≤ s.inflightFrames)
    (draining : Bool) :
    encodeUnqueued link libs (some frame) draining s =
      waitForPacket link libs (some frame) s := by
  rw [<- encodeSubmitted_full hfull draining]
  unfold encodeUnqueued Call.when
  rw [Call.get_bind, if_neg fun h => Nat.not_lt.mpr hfull h.2]
  rfl

theorem encodeBody_queued (hdrain : openingDrain link s = .returned (.ok ()) s1)
    (hcount : 0 < s1.pktQueue.count) (draining : Bool) :
    encodeBody link libs (some frame) draining s =
      returnQueued link libs (some frame) s1 := by
  unfold encodeBody
  rw [Call.bind_of_ok _ hdrain, Call.get_bind, if_pos hcount]

theorem encodeBody_unqueued
    (hdrain : openingDrain link s = .returned (.ok ()) s1)
    (hempty : s1.pktQueue.count = 0) (draining : Bool) :
    encodeBody link libs (some frame) draining s =
      encodeUnqueued link libs (some frame) draining s1 := by
  unfold encodeBody
  rw [Call.bind_of_ok _ hdrain, Call.get_bind,
    if_neg (by rw [hempty]; exact Nat.lt_irrefl 0)]

theorem ffVtremoteEncode_of_returned {draining : Bool}
    {r : Except AvError EncodeReturn}
    (h : encodeBody link libs (some frame) draining s = .returned r s') :
    ffVtremoteEncode link libs (some frame) draining s =
      .returned (.ok (EncodeReturn.ofResult r)) s' := by
  unfold ffVtremoteEncode
  rw [Call.bind_of_ok _ (Call.attempt_of_returned h)]
  rfl

theorem ffVtremoteEncode_of_blocked {draining : Bool}
    (h : encodeBody link libs (some frame) draining s = .blocked s') :
    ffVtremoteEncode link libs (some frame) draining s = .blocked s' := by
  unfold ffVtremoteEncode
  rw [Call.bind_of_blocked _ (Call.attempt_of_blocked h)]

end Branches

/-!
## A call and the calls behind it
-/

theorem encodeRun_cons {input : EncodeInput} {inputs : List EncodeInput}
    {s s1 s' : VTRemoteEncContext σ} {ret : EncodeReturn}
    {results : List EncodeReturn}
    (hcall : ffVtremoteEncode link libs input.frame input.draining s =
      .returned (.ok ret) s1)
    (hrun : encodeRun link libs inputs s1 = .returned (.ok results) s') :
    encodeRun link libs (input :: inputs) s =
      .returned (.ok (ret :: results)) s' := by
  show ((ffVtremoteEncode link libs input.frame input.draining >>= _) s) = _
  rw [Call.bind_of_ok _ hcall]
  exact Call.bind_of_ok (fun results => pure (ret :: results)) hrun

theorem encodeRun_cons_eq {input : EncodeInput} {inputs : List EncodeInput}
    {s s' : VTRemoteEncContext σ} {results : List EncodeReturn}
    (hrun : encodeRun link libs (input :: inputs) s =
      .returned (.ok results) s') :
    exists ret rest s1, results = ret :: rest ∧
      ffVtremoteEncode link libs input.frame input.draining s =
        .returned (.ok ret) s1 ∧
      encodeRun link libs inputs s1 = .returned (.ok rest) s' := by
  rcases Call.bind_eq_ok hrun with ⟨ret, s1, hcall, hrest⟩
  rcases Call.bind_eq_ok hrest with ⟨rest, s2, hrun', hpure⟩
  cases hpure
  exact ⟨ret, rest, s1, rfl, hcall, hrun'⟩

end Steps
end VTRemote
