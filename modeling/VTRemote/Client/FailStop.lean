import VTRemote.Client.Delivery
import VTRemote.Client.EncoderMoves

/-!
# Fail-stop writes

Nothing in the encoder remembers that a message was cut short.  The stream stays
well formed as long as the socket does not take bytes again after that.
-/

namespace VTRemote

/-- The messages of which bytes were written, in order. -/
def startedMessages (log : List SendRecord) : List SendRecord :=
  log.filter fun r => 0 < r.accepted

/-- Every message of which bytes were written is complete, except perhaps the
last. -/
def FailStop (log : List SendRecord) : Prop :=
  forall r, r ∈ (startedMessages log).dropLast -> r.Complete

instance (log : List SendRecord) : Decidable (FailStop log) :=
  inferInstanceAs (Decidable (forall r, r ∈ _ -> _))

/-- After a message was cut short, no `send` takes a byte any more. -/
def CutsAreFinal (log : List SendRecord) : Prop :=
  forall r, r ∈ log -> r.Cut -> Dead r.left

instance (log : List SendRecord) : Decidable (CutsAreFinal log) :=
  inferInstanceAs (Decidable (forall r, r ∈ _ -> _))

/-- Either every message was complete so far, or one was cut short and the
socket is dead. -/
def StopsWhenCut (h : Host) : Prop :=
  (forall r, r ∈ startedMessages h.log -> r.Complete) ∨
    (FailStop h.log ∧ Dead h.outgoing)

theorem StopsWhenCut.failStop {h : Host} (hstops : StopsWhenCut h) :
    FailStop h.log := by
  rcases hstops with hcomplete | hdead
  · intro r hr
    exact hcomplete r (List.dropLast_subset _ hr)
  · exact hdead.1

theorem startedMessages_append_zero {log : List SendRecord} {r : SendRecord}
    (h : r.accepted = 0) : startedMessages (log ++ [r]) = startedMessages log := by
  unfold startedMessages
  rw [List.filter_append, List.filter_cons_of_neg (by simp [h]), List.filter_nil,
    List.append_nil]

theorem startedMessages_append_pos {log : List SendRecord} {r : SendRecord}
    (h : 0 < r.accepted) :
    startedMessages (log ++ [r]) = startedMessages log ++ [r] := by
  unfold startedMessages
  rw [List.filter_append, List.filter_cons_of_pos (by simp [h]), List.filter_nil]

theorem FailStop.of_prefix {log log' : List SendRecord} (h : FailStop log)
    (hearlier : log' <+: log) : FailStop log' := by
  have hstarted : startedMessages log' <+: startedMessages log :=
    hearlier.filter _
  rcases hstarted with ⟨later, hlater⟩
  unfold FailStop at h
  rw [<- hlater] at h
  intro r hr
  cases later with
  | nil =>
      rw [List.append_nil] at h
      exact h r hr
  | cons next later =>
      rw [List.dropLast_append_of_ne_nil (List.cons_ne_nil next later)] at h
      exact h r (List.mem_append_left _ (List.dropLast_subset _ hr))

/-- One more message keeps the invariant if a cut ends all writing. -/
theorem StopsWhenCut.sent {h : Host} (hstops : StopsWhenCut h)
    {type : VTRemoteMsgType} {payload : Payload} {r : SendRecord}
    {result : Except AvError Unit} (hsent : Sent type payload h r result)
    (hcut : r.Cut -> Dead r.left) :
    StopsWhenCut { h with outgoing := r.left, log := h.log ++ [r] } := by
  rcases hstops with hcomplete | ⟨hstop, hdead⟩
  · rcases Nat.eq_zero_or_pos r.accepted with hzero | hpos
    · left
      rw [startedMessages_append_zero hzero]
      exact hcomplete
    · rcases hsent.result with ⟨_, hdone⟩ | ⟨_, hless⟩
      · left
        rw [startedMessages_append_pos hpos]
        intro r' hr'
        rcases List.mem_append.mp hr' with hr' | hr'
        · exact hcomplete r' hr'
        · rw [List.mem_singleton.mp hr']
          exact hdone
      · right
        refine ⟨?_, hcut ⟨hpos, hless⟩⟩
        unfold FailStop
        rw [startedMessages_append_pos hpos, List.dropLast_concat]
        exact hcomplete
  · right
    rcases hsent.dead hdead with ⟨hzero, hdead'⟩
    refine ⟨?_, hdead'⟩
    unfold FailStop
    rw [startedMessages_append_zero hzero]
    exact hstop

def KeepsStopping (h h' : Host) : Prop :=
  h.log <+: h'.log ∧
    (CutsAreFinal h'.log -> StopsWhenCut h -> StopsWhenCut h')

instance : IsPreorder Host KeepsStopping where
  refl h := ⟨List.prefix_rfl, fun _ hstops => hstops⟩
  trans h1 h2 h3 := by
    intro h12 h23
    refine ⟨h12.1.trans h23.1, ?_⟩
    intro hfinal hstops
    apply h23.2 hfinal
    apply h12.2 ?_ hstops
    intro r hr
    exact hfinal r (h23.1.subset hr)

theorem keepsStopping_of_sendsNothing {h h' : Host} (hsame : SendsNothing h h') :
    KeepsStopping h h' := by
  rcases hsame with ⟨hlog, hout⟩
  constructor
  · exact hlog ▸ List.prefix_rfl
  · intro _ hstops
    unfold StopsWhenCut
    rw [hlog, hout]
    exact hstops

theorem vtremoteSendMsg_keepsStopping (type : VTRemoteMsgType)
    (payload : Payload) :
    Call.Moves KeepsStopping (vtremoteSendMsg type payload) := by
  intro h
  rcases vtremoteSendMsg_sent type payload h with ⟨r, result, hsent, hcall⟩
  rw [hcall]
  constructor
  · exact List.prefix_append h.log [r]
  · intro hfinal hstops
    apply hstops.sent hsent
    exact hfinal r (List.mem_append_right h.log (List.mem_singleton.mpr rfl))

theorem hostLink_keepsStopping :
    hostLink.Moves KeepsStopping (fun _ => True) where
  sendMsg type payload _ := vtremoteSendMsg_keepsStopping type payload
  readMsg := vtremoteReadMsg_sendsNothing.mono fun _ _ =>
    keepsStopping_of_sendsNothing
  readMsgNonblock := vtremoteReadMsgNonblock_sendsNothing.mono fun _ _ =>
    keepsStopping_of_sendsNothing
  malloc := avMalloc_sendsNothing.mono fun _ _ => keepsStopping_of_sendsNothing
  packetRef := avMalloc_sendsNothing.mono fun _ _ => keepsStopping_of_sendsNothing

/-- From a connection on which every message so far was complete, in every run:
if no cut of a message is followed by a `send` that takes bytes, then at all
times the bytes written are complete messages and at most one incomplete
message behind them. -/
theorem encodeRun_failStop (libs : CompressionLibraries)
    (inputs : List EncodeInput) (s : VTRemoteEncContext Host)
    (hstart : forall r, r ∈ s.fd.log -> r.Complete)
    (hfinal : CutsAreFinal (encodeRun hostLink libs inputs s).state.fd.log)
    {log : List SendRecord}
    (hlog : log <+: (encodeRun hostLink libs inputs s).state.fd.log) :
    FailStop log := by
  have hstops : StopsWhenCut s.fd := by
    left
    intro r hr
    exact hstart r (List.mem_filter.mp hr).1
  have hmoves := encodeRun_moves hostLink_keepsStopping libs trivial trivial
    trivial inputs
  have hkeeps : KeepsStopping s.fd (encodeRun hostLink libs inputs s).state.fd :=
    (hmoves.state s).1
  exact (hkeeps.2 hfinal hstops).failStop.of_prefix hlog

/-- The socket takes the header of a message and times out.  After that it is
broken, or works again. -/
def hiccupHost (broken : Option Errno) : Host where
  incoming := [.quiet, .quiet]
  outgoing := { next := [.accept 12, .fail eagain], broken := broken }
  heap := []
  log := []

def hiccupLog (broken : Option Errno) : List SendRecord :=
  (encodeRun hostLink noCompression
    [⟨some smallFrame, false⟩, ⟨some smallFrame, false⟩]
    (VTRemoteEncContext.afterInit (hiccupHost broken) 4 0 .hevc)).state.fd.log

theorem encodeRun_failStop_broken : FailStop (hiccupLog (some epipe)) :=
  encodeRun_failStop noCompression _ _ (by decide +kernel) (by decide +kernel)
    List.prefix_rfl

/-- The frame after the one that was cut short is sent all the same. -/
theorem not_failStop_hiccup : ¬ FailStop (hiccupLog none) := by
  decide +kernel

end VTRemote
