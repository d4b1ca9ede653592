import VTRemote.Client.EncoderImages
import VTRemote.Client.FlushRuns
import VTRemote.Client.Sessions

/-!
# Where a call first sends

Whether a call gets to its first send, what the socket makes of the message and
whether a PING of the opening drain is answered is said by the context before the
call, the messages that are offered and the schedule of the socket.
-/

namespace VTRemote

attribute [local irreducible] cInt

open WireEvent

variable {libs : CompressionLibraries}

/-!
## The socket that remembers
-/

theorem observe_shows {α : Type} (m : HostCall α)
    (events : Except AvError α -> Host -> List WireEvent) :
    Call.Shows Wire.host (Wire.observe m events) m := by
  intro w
  unfold Call.ShowsAt Wire.observe
  cases m w.host with
  | returned r host => rfl
  | blocked host => rfl

theorem wireLink_shows : wireLink.ShowsAll Wire.host hostLink where
  sendMsg _ _ := observe_shows _ _
  readMsg := observe_shows _ _
  readMsgNonblock := observe_shows _ _
  malloc := observe_shows _ _
  packetRef := observe_shows _ _
  left _ := Nat.le_refl _
  same_left _ := rfl

/-- The context without the memory of its socket. -/
abbrev VTRemoteEncContext.forget (s : VTRemoteEncContext Wire) : VTRemoteEncContext Host :=
  s.mapFd Wire.host

theorem observe_of_returned {α : Type} {m : HostCall α}
    {events : Except AvError α -> Host -> List WireEvent} {w : Wire}
    {r : Except AvError α} {host : Host} (h : m w.host = .returned r host) :
    Wire.observe m events w =
      .returned r { host, events := w.events ++ events r host } := by
  unfold Wire.observe
  rw [h]

theorem wireLink_sendMsg_events (type : VTRemoteMsgType) (payload : Payload)
    (w : Wire) :
    exists r w', wireLink.sendMsg type payload w = .returned r w' ∧
      (w'.events ≠ w.events <-> w.host.outgoing.TakesByte) := by
  have hcall := vtremoteSendMsg_schedule type payload w.host
  rcases w.host.outgoing.logged_eq type payload with ⟨r, hlogged, _, _, htakes⟩
  rw [hlogged] at hcall
  refine ⟨_, _, observe_of_returned hcall, ?_⟩
  show w.events ++ Wire.written type _ ≠ w.events <-> _
  rw [written_concat type rfl, <- htakes, ne_eq, List.append_right_eq_self]
  split
  · rename_i hpos
    exact iff_of_true (List.cons_ne_nil _ _) hpos
  · rename_i hzero
    exact iff_of_false (fun h => h rfl) hzero

/-!
## The answers of the opening drain
-/

/-- The PONGs of which the socket took something. -/
def pongsTaken (log : List SendRecord) : Nat :=
  log.countP fun r => r.type = .pong ∧ 0 < r.accepted

theorem pongsTaken_eq_zero_iff (n : Nat) (out : Schedule Errno) :
    pongsTaken (Schedule.loggedPongs n out) = 0 <->
      forall i, i < n -> ¬ (Schedule.behindPongs i out).TakesByte := by
  induction n generalizing out with
  | zero => exact iff_of_true rfl fun i hi => absurd hi (Nat.not_lt_zero i)
  | succ n ih =>
      rcases out.logged_eq .pong Payload.empty with ⟨r, hlogged, htype, _, htakes⟩
      have hfirst : pongsTaken [r] = 0 <-> ¬ out.TakesByte := by
        rw [<- htakes]
        unfold pongsTaken
        rw [List.countP_eq_zero]
        simp [htype]
      have happend : pongsTaken (Schedule.loggedPongs (n + 1) out) =
          pongsTaken [r] + pongsTaken (Schedule.loggedPongs n
            (out.behind .pong Payload.empty)) := by
        show pongsTaken (out.logged .pong Payload.empty ++ _) = _
        rw [hlogged]
        exact List.countP_append
      rw [happend, Nat.add_eq_zero_iff, hfirst, ih]
      constructor
      · intro h i hi
        cases i with
        | zero => exact h.1
        | succ i => exact h.2 i (Nat.lt_of_succ_lt_succ hi)
      · intro h
        exact ⟨h 0 (Nat.succ_pos n), fun i hi => h (i + 1) (Nat.succ_lt_succ hi)⟩

def Tallies (w w' : Wire) : Prop :=
  exists entries, w'.host.log = w.host.log ++ entries ∧
    w'.events.count (.wrote .pong) =
      w.events.count (.wrote .pong) + pongsTaken entries

instance : IsPreorder Wire Tallies where
  refl _ := ⟨[], (List.append_nil _).symm, rfl⟩
  trans _ _ _ h h' := by
    rcases h with ⟨entries, hlog, hcount⟩
    rcases h' with ⟨entries', hlog', hcount'⟩
    refine ⟨entries ++ entries', ?_, ?_⟩
    · rw [hlog', hlog, List.append_assoc]
    · rw [hcount', hcount, Nat.add_assoc]
      unfold pongsTaken
      rw [List.countP_append]

theorem observe_tallies {α : Type} {m : HostCall α}
    {events : Except AvError α -> Host -> List WireEvent}
    (h : Call.Moves SendsNothing m)
    (hevents : forall r host, (events r host).count (.wrote .pong) = 0) :
    Call.Moves Tallies (Wire.observe m events) := by
  intro w
  have hmoves := h w.host
  unfold Wire.observe
  cases hcall : m w.host with
  | returned r host =>
      rw [hcall] at hmoves
      refine ⟨[], ?_, ?_⟩
      · rw [List.append_nil]
        exact hmoves.1
      · show (w.events ++ events r host).count _ = _
        rw [List.count_append, hevents]
        rfl
  | blocked host =>
      rw [hcall] at hmoves
      refine ⟨[], ?_, rfl⟩
      rw [List.append_nil]
      exact hmoves.1

theorem received_count (r : Except AvError (VTRemoteMsgHeader × Bytes)) :
    (Wire.received r).count (.wrote .pong) = 0 := by
  rw [List.count_eq_zero]
  cases r with
  | ok message => exact fun h => nomatch List.mem_singleton.mp h
  | error e => exact List.not_mem_nil

theorem wireLink_tallies : wireLink.Moves Tallies (fun _ => True) where
  sendMsg type payload _ := by
    intro w
    rcases vtremoteSendMsg_sent type payload w.host with ⟨r, result, hsent, hcall⟩
    have hsend : wireLink.sendMsg type payload w = .returned _ _ :=
      observe_of_returned hcall
    rw [hsend]
    refine ⟨[r], rfl, ?_⟩
    show (w.events ++ Wire.written type _).count _ = _
    rw [written_concat type rfl, List.count_append]
    unfold pongsTaken
    rw [List.countP_singleton, hsent.type_eq]
    by_cases hpos : 0 < r.accepted
    · rw [if_pos hpos]
      by_cases hpong : type = .pong
      · subst hpong
        rw [if_pos (by simp [hpos])]
        rfl
      · have hnone : [WireEvent.wrote type].count (.wrote .pong) = 0 := by
          rw [List.count_eq_zero]
          intro hmem
          cases List.mem_singleton.mp hmem
          exact hpong rfl
        rw [if_neg (by simp [hpong]), hnone]
    · rw [if_neg hpos, if_neg (by simp [hpos])]
      rfl
  readMsg := observe_tallies vtremoteReadMsg_sendsNothing fun r _ => received_count r
  readMsgNonblock :=
    observe_tallies vtremoteReadMsgNonblock_sendsNothing fun r _ => received_count r
  malloc := observe_tallies avMalloc_sendsNothing fun _ _ => rfl
  packetRef := observe_tallies avMalloc_sendsNothing fun _ _ => rfl

/-- Behind DONE, the opening drain meets no PING whose answer is taken. -/
theorem answersInTime_iff {s : VTRemoteEncContext Wire} {offers : List WireOffer}
    (h : EncSession s.forget offers) :
    AnswersInTime s <-> (s.done = true ->
      forall i, i < (drained s.forget.room offers).pings ->
        ¬ (Schedule.behindPongs i s.fd.host.outgoing).TakesByte) := by
  have hopens := openingDrain_offers h.following
  have htallies := Call.Moves.state
    (openingDrain_moves wireLink_tallies trivial) s
  have himage := openingDrain_shows wireLink_shows s
  have hlog : (openingDrain wireLink s).state.fd.host.log = s.fd.host.log ++
      Schedule.loggedPongs (drained s.forget.room offers).pings s.fd.host.outgoing := by
    unfold Call.ShowsAt at himage
    rw [<- himage] at hopens
    cases hdrain : openingDrain wireLink s with
    | returned r s1 =>
        rw [hdrain] at hopens
        exact hopens.2.took.log
    | blocked s1 =>
        rw [hdrain] at hopens
        exact hopens.2.took.log
  rcases htallies.1 with ⟨entries, hentries, hcount⟩
  have hsame : entries = Schedule.loggedPongs
      (drained s.forget.room offers).pings s.fd.host.outgoing := by
    rw [hlog] at hentries
    exact (List.append_cancel_left hentries).symm
  unfold AnswersInTime
  rw [hcount, Nat.add_eq_left, hsame, pongsTaken_eq_zero_iff]

/-!
## Where a call first sends
-/

/-- The schedule of the socket at the first send of a call, if it gets there. -/
def Moment.firstSend (m : Moment) (inflight : Nat) (input : EncodeInput) :
    Option (Schedule Errno) :=
  if 0 < m.queued then
    if input.frame.isSome ∧ m.inflightFrames < inflight then some m.outgoing
    else none
  else if input.frame.isSome then
    if m.inflightFrames < inflight then some m.outgoing
    else if m.waitEnd = .packet then some m.outgoingBehindWait
    else none
  else if input.draining then some m.outgoing
  else none

structure ComesTo (out : Schedule Errno) (s s' : VTRemoteEncContext Host) : Prop where
  session : exists offers, EncSession s' offers
  outgoing : s'.fd.outgoing = out
  options : s'.options = s.options
  done : s'.done = s.done

def Reaches (expected : Option (Schedule Errno)) (s : VTRemoteEncContext Host)
    (r : Except AvError Bool) (s' : VTRemoteEncContext Host) : Prop :=
  (r = .ok true ∧ exists out, expected = some out ∧ ComesTo out s s') ∨
    (r ≠ .ok true ∧ expected = none)

section UntilSend

variable {s : VTRemoteEncContext Host} {offers : List WireOffer}

theorem untilQueuedSend_reaches (h : EncSession s offers)
    (hqueued : 0 < s.pktQueue.count) (input : EncodeInput) :
    (untilQueuedSend hostLink input.frame s).Ends
      (Reaches ((s.moment offers).firstSend s.inflight input) s)
      (fun _ => (s.moment offers).firstSend s.inflight input = none) := by
  have hexpected : (s.moment offers).firstSend s.inflight input =
      if input.frame.isSome ∧ s.inflightFrames < s.inflight then some s.fd.outgoing
      else none :=
    if_pos hqueued
  rcases h.popPacket with ⟨s1, hpop, hsession, hs1⟩
  have hsame : s1.inflightFrames = s.inflightFrames ∧ s1.inflight = s.inflight := by
    rw [hs1]
    exact ⟨rfl, rfl⟩
  have hcomes : ComesTo s.fd.outgoing s s1 := by
    refine ⟨⟨offers, hsession⟩, ?_, ?_, ?_⟩
    · rw [hs1]
    · rw [hs1]
      rfl
    · rw [hs1]
  have hcall : untilQueuedSend hostLink input.frame s = .returned (.ok
      (decide (input.frame.isSome ∧ s1.inflightFrames < s1.inflight))) s1 := by
    unfold untilQueuedSend
    rw [Call.bind_of_ok _ hpop]
    rfl
  rw [hcall, hexpected, <- hsame.1, <- hsame.2]
  by_cases hsends : input.frame.isSome ∧ s1.inflightFrames < s1.inflight
  · rw [if_pos hsends]
    exact Or.inl ⟨congrArg Except.ok (decide_eq_true hsends), _, rfl, hcomes⟩
  · rw [if_neg hsends]
    refine Or.inr ⟨?_, rfl⟩
    rw [decide_eq_false hsends]
    exact fun h => by cases h

theorem untilReceived_reaches (h : EncSession s offers)
    (hempty : s.pktQueue.count = 0) (hsize : 0 < s.pktQueue.size) :
    (untilReceived hostLink s).Ends
      (Reaches (if (s.moment offers).waitEnd = .packet then
        some (s.moment offers).outgoingBehindWait else none) s)
      (fun _ => (if (s.moment offers).waitEnd = .packet then
        some (s.moment offers).outgoingBehindWait else none) = none) := by
  have hreceive := (ffVtremoteCommonReceivePacket_offers h.following hempty hsize).mono
    (fun _ _ h => h) (fun _ hs' => by
      show (if (s.moment offers).waitEnd = .packet then
        some (s.moment offers).outgoingBehindWait else none) = none
      rw [hs'.1]
      rfl)
  unfold untilReceived
  apply Call.ends_attempt_bind hreceive
  intro r s1 hs1
  rcases hs1 with ⟨rest, hfollowing, ⟨hend, ⟨pkt, rfl⟩, hwaited⟩ | ⟨hend, ⟨e, rfl⟩, _⟩⟩
  · rw [hend]
    exact Or.inl ⟨rfl, _, rfl,
      ⟨rest, h.moved hfollowing hwaited.options hwaited.kept.2⟩, hwaited.outgoing,
      hwaited.options, hwaited.done⟩
  · rw [hend]
    exact Or.inr ⟨nofun, rfl⟩

theorem untilUnqueuedSend_reaches (h : EncSession s offers)
    (hempty : s.pktQueue.count = 0) (hsize : 0 < s.pktQueue.size)
    (input : EncodeInput) :
    (untilUnqueuedSend hostLink input.frame input.draining s).Ends
      (Reaches ((s.moment offers).firstSend s.inflight input) s)
      (fun _ => (s.moment offers).firstSend s.inflight input = none) := by
  have hnone : ¬ 0 < (s.moment offers).queued := by
    show ¬ 0 < s.pktQueue.count
    rw [hempty]
    exact Nat.lt_irrefl 0
  have hcomes : ComesTo s.fd.outgoing s s := ⟨⟨offers, h⟩, rfl, rfl, rfl⟩
  unfold untilUnqueuedSend Moment.firstSend
  rw [Call.get_bind, if_neg hnone]
  by_cases hframe : input.frame.isSome = true
  · rw [if_pos hframe, if_pos hframe]
    show ((if s.inflightFrames < s.inflight then pure true
      else untilReceived hostLink : EncCall Host Bool) s).Ends _ _
    by_cases hopen : s.inflightFrames < s.inflight
    · have hopen' : (s.moment offers).inflightFrames < s.inflight := hopen
      rw [if_pos hopen, if_pos hopen']
      exact Or.inl ⟨rfl, _, rfl, hcomes⟩
    · have hopen' : ¬ (s.moment offers).inflightFrames < s.inflight := hopen
      rw [if_neg hopen, if_neg hopen']
      exact untilReceived_reaches h hempty hsize
  · rw [if_neg hframe, if_neg hframe]
    cases input.draining with
    | true => exact Or.inl ⟨rfl, _, rfl, hcomes⟩
    | false => exact Or.inr ⟨nofun, rfl⟩

def VTRemoteEncContext.firstSend (s : VTRemoteEncContext Host)
    (offers : List WireOffer) (input : EncodeInput) : Option (Schedule Errno) :=
  if (drained s.room offers).last.Succeeds then
    (s.behindDrain (drained s.room offers)).firstSend s.inflight input
  else none

/-- DONE has been read when the opening drain is over. -/
def VTRemoteEncContext.doneBehindDrain (s : VTRemoteEncContext Host)
    (offers : List WireOffer) : Bool :=
  s.done || (drained s.room offers).last = .done

theorem untilSend_reaches (h : EncSession s offers) (input : EncodeInput) :
    (untilSend hostLink input s).Ends
      (fun r s' => (r = .ok true ∧ exists out, s.firstSend offers input = some out ∧
          (exists rest, EncSession s' rest) ∧ s'.fd.outgoing = out ∧
          s'.options = s.options ∧ s'.done = s.doneBehindDrain offers) ∨
        (r ≠ .ok true ∧ s.firstSend offers input = none))
      (fun _ => s.firstSend offers input = none) := by
  have hopens := openingDrain_offers h.following
  have hfails : ¬ (drained s.room offers).last.Succeeds ->
      s.firstSend offers input = none := fun hfails => if_neg hfails
  unfold untilSend
  apply Call.ends_bind (hopens.mono (fun _ _ h => h) (fun s1 hs1 => hfails (by
    rw [hs1.1]
    decide)))
  · intro e s1 hs1
    refine Or.inr ⟨nofun, hfails ?_⟩
    exact hs1.1.not_succeeds
  · intro _ s1 hs1
    have hsucceeds := hs1.1.succeeds
    have hexpected : s.firstSend offers input =
        (s1.moment (drained s.room offers).rest).firstSend s1.inflight input := by
      unfold VTRemoteEncContext.firstSend
      rw [if_pos hsucceeds, hs1.2.moment, inflight_of_options hs1.2.took.options]
    have hsession := hs1.2.session h
    rw [Call.get_bind, hexpected]
    have hrest : ((if 0 < s1.pktQueue.count then untilQueuedSend hostLink input.frame
        else untilUnqueuedSend hostLink input.frame input.draining) s1).Ends
        (Reaches ((s1.moment (drained s.room offers).rest).firstSend s1.inflight input)
          s1)
        (fun _ => (s1.moment (drained s.room offers).rest).firstSend s1.inflight input =
          none) := by
      by_cases hqueued : 0 < s1.pktQueue.count
      · rw [if_pos hqueued]
        exact untilQueuedSend_reaches hsession hqueued input
      · rw [if_neg hqueued]
        exact untilUnqueuedSend_reaches hsession (Nat.eq_zero_of_not_pos hqueued)
          hs1.2.allocated input
    apply hrest.mono
    · intro r s2 hs2
      rcases hs2 with ⟨hr, out, hout, hcomes⟩ | hnot
      · exact Or.inl ⟨hr, out, hout, hcomes.session, hcomes.outgoing,
          hcomes.options.trans hs1.2.took.options, hcomes.done.trans hs1.2.done⟩
      · exact Or.inr hnot
    · exact fun _ h => h

end UntilSend

end VTRemote
