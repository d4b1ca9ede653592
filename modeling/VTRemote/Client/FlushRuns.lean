import VTRemote.Client.OneFlush
import VTRemote.Client.StreamRuns

/-!
# A call and its first send

A call sends at most twice, and what decides is the state in which it gets to its
first send: FLUSH must not have been written, and DONE must not have been read.
-/

namespace VTRemote

attribute [local irreducible] cInt

open WireEvent

variable {libs : CompressionLibraries} {s s1 s2 : VTRemoteEncContext Wire}

/-!
## Judging a part of a call
-/

def Reported (s : VTRemoteEncContext Wire) : Prop :=
  .ended ∈ s.fd.events <-> s.done = true

theorem Reported.iff (h : Reported s) : .ended ∈ s.fd.events <-> s.done = true := h

def Lawful (s : VTRemoteEncContext Wire) : Prop :=
  s.fd.events.Pairwise Allows

/-- A part of a call keeps the flag true, and the events as they should be
exactly when `c` holds. -/
structure Judged (c : Prop) (s s' : VTRemoteEncContext Wire) : Prop where
  reported : Reported s'
  lawful : Lawful s' <-> Lawful s ∧ c

theorem Judged.refl (hs : Reported s) : Judged True s s :=
  ⟨hs, (and_iff_left trivial).symm⟩

theorem Judged.congr {c c' : Prop} (h : Judged c s s1) (hc : c <-> c') :
    Judged c' s s1 :=
  ⟨h.reported, h.lawful.trans (and_congr_right fun _ => hc)⟩

theorem Judged.trans {c c' : Prop} (h : Judged c s s1) (h' : Judged c' s1 s2) :
    Judged (c ∧ c') s s2 := by
  refine ⟨h'.reported, ?_⟩
  rw [h'.lawful, h.lawful, and_assoc]

theorem Queues.judged (h : Queues SameEvents s s1) (hs : Reported s) :
    Judged True s s1 := by
  rcases h with ⟨hevents, _, _, _, _, rfl⟩
  constructor
  · unfold Reported
    rw [hevents]
    exact hs
  · unfold Lawful
    rw [hevents, and_true]

theorem Reads.judged (h : Reads s s1) (hs : Reported s) :
    Judged (s.done = true -> s1.fd.events.count (.wrote .pong) =
      s.fd.events.count (.wrote .pong)) s s1 := by
  rcases h with ⟨more, hreading, hevents, hdone⟩
  have hquiet : s1.fd.events.count (.wrote .pong) =
      s.fd.events.count (.wrote .pong) <-> forall type, .wrote type ∉ more := by
    rw [hevents, List.count_append, Nat.add_eq_left, List.count_eq_zero]
    constructor
    · intro hnone type hmem
      rw [hreading.pongs type hmem] at hmem
      exact hnone hmem
    · exact fun hnone => hnone .pong
  constructor
  · unfold Reported
    rw [hevents, List.mem_append, hdone, hs.iff]
  · unfold Lawful
    rw [hevents, allows_append_reading hreading, hs.iff, <- hevents, hquiet]

theorem Reads.judged_of_not_done (h : Reads s s1) (hs : Reported s)
    (hdone : s.done = false) : Judged True s s1 :=
  (h.judged hs).congr (iff_of_true (fun h => absurd (hdone.symm.trans h) nofun) trivial)

/-!
## Sending
-/

def attemptedType (frame : Option AVFrame) : VTRemoteMsgType :=
  if frame.isSome then .frame else .flush

theorem attemptedType_ne_pong (frame : Option AVFrame) :
    attemptedType frame ≠ .pong := by
  unfold attemptedType
  split
  · exact nofun
  · exact nofun

/-- The message was written, or the call failed without a byte of it. -/
structure Attempts (type : VTRemoteMsgType) (s : VTRemoteEncContext Wire)
    (r : Except AvError Unit) (s' : VTRemoteEncContext Wire) : Prop where
  done : s'.done = s.done
  events : s'.fd.events = s.fd.events ++ [.wrote type] ∨
    s'.fd.events = s.fd.events ∧ r ≠ .ok () ∧ s'.inflight = s.inflight ∧
      s'.inflightFrames = s.inflightFrames

theorem error_ne_ok (e : AvError) : (Except.error e : Except AvError Unit) ≠ .ok () :=
  nofun

theorem Prepares.attempts {type : VTRemoteMsgType} {e : AvError}
    (h : Prepares SameEvents s s1) : Attempts type s (.error e) s1 := by
  rcases h with ⟨hevents, _, _, _, _, rfl⟩
  exact ⟨rfl, .inr ⟨hevents, error_ne_ok _, rfl, rfl⟩⟩

theorem wireLink_malloc_returns : Call.Returns wireLink.malloc := by
  intro w
  show (Wire.observe avMalloc _ w).Ends _ _
  unfold Wire.observe
  rw [avMalloc_eq]
  trivial

theorem sendFrame_attempts (libs : CompressionLibraries) (frame : Option AVFrame)
    (s : VTRemoteEncContext Wire) :
    exists r s', ffVtremoteCommonSendFrame wireLink libs frame s =
      .returned r s' ∧ Attempts (attemptedType frame) s r s' := by
  apply Outcome.Ends.returned
  cases frame with
  | none =>
      rw [ffVtremoteCommonSendFrame, Call.get_bind]
      split
      · exact ⟨rfl, .inr ⟨rfl, error_ne_ok _, rfl, rfl⟩⟩
      · rw [Call.modify_bind]
        apply Call.ends_zoom
        apply (wireLink_sendMsg .flush Payload.empty s.fd).mono
        · intro r fd h
          rcases h with hwrote | ⟨hnone, hr⟩
          · exact ⟨rfl, .inl hwrote⟩
          · exact ⟨rfl, .inr ⟨hnone, hr, rfl, rfl⟩⟩
        · exact fun _ => id
  | some frame =>
      have hsend : (ffVtremoteCommonSendFrame wireLink libs (some frame) s).Ends
          (FrameSend wireLink SameEvents s) (fun _ => False) := by
        apply sendFrame_ends_of
        · intro s1 payload fd _ hblocked
          have hends := wireLink_sendMsg .frame payload s1.fd
          rw [hblocked] at hends
          exact hends
        · intro i s1 _
          exact (prepareCompression_returns wireLink_malloc_returns libs frame i).moves
            (prepareCompression_prepares wireLink_malloc libs frame i) s1
      apply hsend.mono
      · intro r s' hframe
        cases hframe with
        | unsent hprepares => exact hprepares.attempts
        | failed hprepares hsend =>
            rename_i e s1 fd payload
            have hends := wireLink_sendMsg .frame payload s1.fd
            rw [hsend] at hends
            rcases hprepares with ⟨hevents, _, _, _, _, rfl⟩
            refine ⟨rfl, ?_⟩
            rcases hends with hwrote | ⟨hnone, _⟩
            · exact .inl (hwrote.trans (congrArg (· ++ _) hevents))
            · exact .inr ⟨hnone.trans hevents, error_ne_ok _, rfl, rfl⟩
        | sent hprepares hsend =>
            rename_i s1 fd payload
            have hends := wireLink_sendMsg .frame payload s1.fd
            rw [hsend] at hends
            rcases hprepares with ⟨hevents, _, _, _, _, rfl⟩
            rcases hends with hwrote | ⟨_, hfailed⟩
            · exact ⟨rfl, .inl (hwrote.trans (congrArg (· ++ _) hevents))⟩
            · exact absurd rfl hfailed
      · exact fun _ => id

/-- When something of the message is written, FLUSH has not been written and DONE
has not been read. -/
def SendsInTime (libs : CompressionLibraries) (frame : Option AVFrame)
    (s : VTRemoteEncContext Wire) : Prop :=
  (ffVtremoteCommonSendFrame wireLink libs frame s).state.fd.events ≠
      s.fd.events ->
    .flushed ∉ s.fd.events ∧ s.done = false

theorem Attempts.judged {frame : Option AVFrame} {r : Except AvError Unit}
    (hsend : ffVtremoteCommonSendFrame wireLink libs frame s = .returned r s1)
    (h : Attempts (attemptedType frame) s r s1) (hs : Reported s) :
    Judged (SendsInTime libs frame s) s s1 := by
  have hstate : (ffVtremoteCommonSendFrame wireLink libs frame s).state = s1 := by
    rw [hsend]
    rfl
  unfold SendsInTime
  rw [hstate]
  rcases h.events with hwrote | ⟨hnone, _⟩
  · constructor
    · unfold Reported
      rw [hwrote, h.done, List.mem_append, hs.iff, or_iff_left]
      intro hmem
      cases List.mem_singleton.mp hmem
    · have hnew : s1.fd.events ≠ s.fd.events := by
        rw [hwrote]
        exact fun heq => List.cons_ne_nil _ _ (List.append_right_eq_self.mp heq)
      unfold Lawful
      rw [hwrote, allows_append_wrote (attemptedType_ne_pong frame), hs.iff, <- hwrote,
        Bool.not_eq_true]
      exact and_congr_right fun _ => (imp_iff_right hnew).symm
  · constructor
    · unfold Reported
      rw [hnone, h.done]
      exact hs
    · unfold Lawful
      rw [hnone, and_iff_left fun hne => absurd rfl hne]

/-!
## Up to the first send of a call
-/

section UntilSend

variable {σ : Type} (link : Link σ)

/-- A packet is queued: `true` when the frame is sent behind it. -/
def untilQueuedSend (frame : Option AVFrame) : EncCall σ Bool := do
  let _ ← popPacket link
  let s ← Call.get
  pure (decide (frame.isSome ∧ s.inflightFrames < s.inflight))

/-- The limit is reached: the frame is sent when a packet was received. -/
def untilReceived : EncCall σ Bool := do
  let received ← Call.attempt (ffVtremoteCommonReceivePacket link)
  pure received.isOk

/-- No packet is queued: a frame waits for room, and FLUSH is sent when the codec
is being drained. -/
def untilUnqueuedSend (frame : Option AVFrame) (draining : Bool) :
    EncCall σ Bool := do
  let s ← Call.get
  if frame.isSome then
    if s.inflightFrames < s.inflight then pure true else untilReceived link
  else pure draining

/-- A call up to its first `ff_vtremote_common_send_frame`, or without it. -/
def untilSend (input : EncodeInput) : EncCall σ Bool := do
  openingDrain link
  let s ← Call.get
  if 0 < s.pktQueue.count then untilQueuedSend link input.frame
  else untilUnqueuedSend link input.frame input.draining

end UntilSend

def InTime (libs : CompressionLibraries) (frame : Option AVFrame)
    (m : EncCall Wire Bool) (s : VTRemoteEncContext Wire) : Prop :=
  forall s1, m s = .returned (.ok true) s1 -> SendsInTime libs frame s1

theorem inTime_of_reached {frame : Option AVFrame} {m : EncCall Wire Bool}
    (hm : m s = .returned (.ok true) s1) :
    SendsInTime libs frame s1 <-> InTime libs frame m s := by
  unfold InTime
  rw [hm]
  constructor
  · intro h _ h'
    cases h'
    exact h
  · exact fun h => h s1 rfl

theorem inTime_of_not_reached {frame : Option AVFrame} {m : EncCall Wire Bool}
    (hm : (m s).value ≠ some true) : True <-> InTime libs frame m s := by
  apply iff_of_true trivial
  intro s1 hreached
  rw [hreached] at hm
  exact absurd rfl hm

/-!
## The branches of a call
-/

/-- Behind DONE nothing is read, so that nothing can be answered. -/
theorem receivePacket_judged (hs : Reported s) :
    Judged True s (ffVtremoteCommonReceivePacket wireLink s).state := by
  cases hdone : s.done with
  | true =>
      rw [ffVtremoteCommonReceivePacket_done hdone]
      exact Judged.refl hs
  | false =>
      have hends := ffVtremoteCommonReceivePacket_ends s
      have hreads : Reads s (ffVtremoteCommonReceivePacket wireLink s).state := by
        cases hreceive : ffVtremoteCommonReceivePacket wireLink s with
        | blocked s1 =>
            rw [hreceive] at hends
            exact hends
        | returned r s1 =>
            rw [hreceive] at hends
            cases r with
            | error e => exact hends
            | ok pkt => exact Continues.reads hends
      exact hreads.judged_of_not_done hs hdone

theorem finishCall_judged (frame : Option AVFrame) (hs : Reported s) :
    Judged True s (finishCall wireLink frame s).state := by
  unfold finishCall
  rw [Call.get_bind]
  split
  · rw [Call.attempt_bind_state]
    · exact receivePacket_judged hs
    · intro r s'
      cases r with
      | ok pkt => rfl
      | error e => rfl
  · exact Judged.refl hs

theorem Judged.bind {α β : Type} {c : Prop}
    {P : α -> VTRemoteEncContext Wire -> Prop} {first : EncCall Wire α}
    {next : α -> EncCall Wire β} (hfirst : Judged c s (first s).state)
    (hnext : forall a s1, first s = .returned (.ok a) s1 -> Reported s1 ->
      Judged (P a s1) s1 (next a s1).state) :
    Judged (c ∧ forall a s1, first s = .returned (.ok a) s1 -> P a s1) s
      ((first >>= next) s).state := by
  cases hm : first s with
  | blocked s1 =>
      rw [hm] at hfirst
      rw [Call.bind_of_blocked next hm]
      exact hfirst.congr (and_iff_left fun _ _ h => nomatch h).symm
  | returned r s1 =>
      rw [hm] at hfirst
      cases r with
      | error e =>
          rw [Call.bind_of_error next hm]
          exact hfirst.congr (and_iff_left fun _ _ h => nomatch h).symm
      | ok a =>
          rw [Call.bind_of_ok next hm]
          apply (hfirst.trans (hnext a s1 hm hfirst.reported)).congr
          apply and_congr_right
          intro _
          constructor
          · intro hP _ _ h
            rcases h with ⟨rfl⟩
            exact hP
          · exact fun hP => hP a s1 rfl

theorem Judged.andThen {α β : Type} {c : Prop}
    {P : α -> VTRemoteEncContext Wire -> Prop} {first : EncCall Wire α}
    {next : α -> EncCall Wire β} (hfirst : Judged c s (first s).state)
    (hnext : forall a s1, first s = .returned (.ok a) s1 -> Reported s1 ->
      Judged (P a s1) s1 (next a s1).state)
    (hP : forall a s1, first s = .returned (.ok a) s1 -> Reported s1 ->
      Lawful s1 -> P a s1) :
    Judged c s ((first >>= next) s).state := by
  have hboth := hfirst.bind hnext
  refine ⟨hboth.reported, ?_⟩
  rw [hboth.lawful, <- and_assoc]
  apply and_iff_left_of_imp
  intro hlawful a s1 hm
  have hfirst' := hfirst
  rw [hm] at hfirst'
  exact hP a s1 hm hfirst'.reported (hfirst'.lawful.mpr hlawful)

theorem inTime_bind {α : Type} {frame : Option AVFrame} {first : EncCall Wire α}
    {next : α -> EncCall Wire Bool} :
    InTime libs frame (first >>= next) s <->
      forall a s1, first s = .returned (.ok a) s1 ->
        InTime libs frame (next a) s1 := by
  constructor
  · intro h a s1 hm s2 hnext
    exact h s2 ((Call.bind_of_ok next hm).trans hnext)
  · intro h s2 hboth
    rcases Call.bind_eq_ok hboth with ⟨a, s1, hm, hnext⟩
    exact h a s1 hm s2 hnext

theorem sendFrame_judged (frame : Option AVFrame) (hs : Reported s) :
    Judged (SendsInTime libs frame s) s
      (ffVtremoteCommonSendFrame wireLink libs frame s).state := by
  rcases sendFrame_attempts libs frame s with ⟨r, s1, hsend, hattempts⟩
  rw [hsend]
  exact hattempts.judged hsend hs

theorem ignored_state {α : Type} (m : EncCall Wire α) :
    (ignored m s).state = (m s).state :=
  Call.attempt_bind_state m (fun _ _ => rfl) s

theorem unlessEof_state (m : EncCall Wire Unit) :
    (unlessEof m s).state = (m s).state := by
  apply Call.attempt_bind_state
  intro r s'
  cases r with
  | ok _ => rfl
  | error e =>
      dsimp only
      split
      · rfl
      · rfl

theorem returnQueued_judged (frame : Option AVFrame) (hs : Reported s) :
    Judged (InTime libs frame (untilQueuedSend wireLink frame) s) s
      (returnQueued wireLink libs frame s).state := by
  have hsame : Judged True s (popPacket wireLink s).state :=
    ((popPacket_queues wireLink_malloc).state s).judged hs
  unfold returnQueued untilQueuedSend
  rw [inTime_bind]
  apply (hsame.bind _).congr (and_iff_right trivial)
  intro rc s1 _ hs1
  rw [Call.get_bind, Call.bind_pure_state]
  have huntil : (Call.get >>= fun s => pure (decide (frame.isSome ∧
      s.inflightFrames < s.inflight)) : EncCall Wire Bool) s1 =
        .returned (.ok (decide (frame.isSome ∧ s1.inflightFrames < s1.inflight)))
          s1 := rfl
  unfold Call.when
  split
  · rename_i hsends
    rw [decide_eq_true hsends] at huntil
    rw [ignored_state]
    exact (sendFrame_judged frame hs1).congr (inTime_of_reached huntil)
  · rename_i hkeeps
    rw [decide_eq_false hkeeps] at huntil
    exact (Judged.refl hs1).congr (inTime_of_not_reached (huntil ▸ nofun))

theorem waitForPacket_judged (frame : Option AVFrame) (hs : Reported s) :
    Judged (InTime libs frame (untilReceived wireLink) s) s
      (waitForPacket wireLink libs frame s).state := by
  have hreceive : Judged True s
      (Call.attempt (ffVtremoteCommonReceivePacket wireLink) s).state := by
    rw [Call.attempt_state]
    exact receivePacket_judged hs
  unfold waitForPacket untilReceived
  rw [inTime_bind]
  apply (hreceive.bind _).congr (and_iff_right trivial)
  intro received s1 _ hs1
  cases received with
  | error e => exact (Judged.refl hs1).congr (inTime_of_not_reached nofun)
  | ok pkt =>
      rw [Call.bind_pure_state, ignored_state]
      exact (sendFrame_judged frame hs1).congr (inTime_of_reached rfl)

theorem untilReceived_inTime {frame : AVFrame}
    (hwrote : s1.fd.events = s.fd.events ++ [.wrote .frame]) (hs1 : Reported s1)
    (hlawful : Lawful s1) :
    InTime libs (some frame) (untilReceived wireLink) s1 := by
  have hframe : VTRemoteMsgType.frame ≠ .pong := nofun
  unfold Lawful at hlawful
  rw [hwrote, allows_append_wrote hframe] at hlawful
  rcases hlawful with ⟨_, hflushed, hended⟩
  intro s2 huntil _
  rcases Call.bind_eq_ok huntil with ⟨received, s3, hattempt, hpure⟩
  cases received with
  | error e => cases hpure
  | ok pkt =>
      cases hpure
      have hends := ffVtremoteCommonReceivePacket_ends s1
      rw [Call.attempt_eq_ok hattempt] at hends
      rcases hends with ⟨more, hpongs, _, hevents, hdone⟩
      constructor
      · rw [hevents, hwrote]
        intro hmem
        rcases List.mem_append.mp hmem with hmem | hmore
        · rcases List.mem_append.mp hmem with hold | hnew
          · exact hflushed hold
          · cases List.mem_singleton.mp hnew
        · cases hpongs .flush hmore
      · rw [hdone, <- Bool.not_eq_true, <- hs1.iff, hwrote]
        intro hmem
        rcases List.mem_append.mp hmem with hold | hnew
        · exact hended hold
        · cases List.mem_singleton.mp hnew

theorem wrote_of_full {frame : AVFrame} (hopen : s.inflightFrames < s.inflight)
    (hok : unlessEof (ffVtremoteCommonSendFrame wireLink libs (some frame)) s =
      .returned (.ok ()) s1)
    (hfull : s1.inflight ≤ s1.inflightFrames) :
    s1.fd.events = s.fd.events ++ [.wrote .frame] := by
  have hstate := unlessEof_state (s := s)
    (ffVtremoteCommonSendFrame wireLink libs (some frame))
  rcases sendFrame_attempts libs (some frame) s with ⟨r, s2, hsend, hattempts⟩
  rw [hok, hsend] at hstate
  cases hstate
  rcases hattempts.events with hwrote | ⟨_, _, hinflight, hframes⟩
  · exact hwrote
  · rw [hinflight, hframes] at hfull
    exact absurd hopen (Nat.not_lt.mpr hfull)

theorem encodeSubmitted_judged (frame : AVFrame) (draining : Bool)
    (hs : Reported s) :
    Judged (s.inflight ≤ s.inflightFrames ->
        InTime libs (some frame) (untilReceived wireLink) s) s
      (encodeSubmitted wireLink libs (some frame) draining s).state := by
  by_cases hfull : s.inflight ≤ s.inflightFrames
  · rw [encodeSubmitted_full hfull]
    exact (waitForPacket_judged (some frame) hs).congr (imp_iff_right hfull).symm
  · unfold encodeSubmitted Call.when
    rw [Call.get_bind, if_neg fun h => hfull h.2, if_neg fun h => nomatch h.1]
    exact (finishCall_judged (some frame) hs).congr
      (iff_of_true trivial fun h => absurd h hfull)

theorem encodeUnqueued_judged (frame : Option AVFrame) (draining : Bool)
    (hs : Reported s) :
    Judged (InTime libs frame (untilUnqueuedSend wireLink frame draining) s) s
      (encodeUnqueued wireLink libs frame draining s).state := by
  have hsend : Judged (SendsInTime libs frame s) s
      (unlessEof (ffVtremoteCommonSendFrame wireLink libs frame) s).state := by
    rw [unlessEof_state]
    exact sendFrame_judged frame hs
  cases frame with
  | none =>
      have huntil : untilUnqueuedSend wireLink none draining s =
        .returned (.ok draining) s := rfl
      unfold encodeUnqueued encodeSubmitted Call.when
      cases draining with
      | false =>
          exact (finishCall_judged none hs).congr
            (inTime_of_not_reached (huntil ▸ nofun))
      | true =>
          apply Judged.congr _ (inTime_of_reached huntil)
          apply hsend.andThen
          · exact fun _ _ _ => finishCall_judged none
          · exact fun _ _ _ _ _ => trivial
  | some frame =>
      by_cases hopen : s.inflightFrames < s.inflight
      · have huntil : untilUnqueuedSend wireLink (some frame) draining s =
            .returned (.ok true) s := by
          unfold untilUnqueuedSend
          rw [Call.get_bind, if_pos (show (some frame).isSome = true from rfl),
            if_pos hopen]
          rfl
        unfold encodeUnqueued Call.when
        rw [Call.get_bind, if_pos ⟨rfl, hopen⟩]
        apply Judged.congr _ (inTime_of_reached huntil)
        apply hsend.andThen
        · exact fun _ _ _ => encodeSubmitted_judged frame draining
        · intro _ s1 hok hs1 hlawful hfull
          exact untilReceived_inTime (wrote_of_full hopen hok hfull) hs1 hlawful
      · have hfull := Nat.not_lt.mp hopen
        have huntil : untilUnqueuedSend wireLink (some frame) draining s =
            untilReceived wireLink s := by
          unfold untilUnqueuedSend
          rw [Call.get_bind, if_pos (show (some frame).isSome = true from rfl),
            if_neg hopen]
        rw [encodeUnqueued_full hfull]
        unfold InTime
        rw [huntil]
        exact waitForPacket_judged (some frame) hs

/-!
## Whole calls
-/

def AnswersInTime (s : VTRemoteEncContext Wire) : Prop :=
  s.done = true ->
    (openingDrain wireLink s).state.fd.events.count (.wrote .pong) =
      s.fd.events.count (.wrote .pong)

def CallInTime (libs : CompressionLibraries) (input : EncodeInput)
    (s : VTRemoteEncContext Wire) : Prop :=
  AnswersInTime s ∧ InTime libs input.frame (untilSend wireLink input) s

theorem ffVtremoteEncode_judged (input : EncodeInput) (hs : Reported s) :
    Judged (CallInTime libs input s) s
      (ffVtremoteEncode wireLink libs input.frame input.draining s).state := by
  have hreads : Reads s (openingDrain wireLink s).state :=
    Call.Moves.state openingDrain_ends s
  unfold ffVtremoteEncode CallInTime untilSend
  rw [Call.bind_pure_state, Call.attempt_state, inTime_bind]
  apply (hreads.judged hs).bind
  intro _ s1 _ hs1
  rw [Call.get_bind]
  show Judged (InTime libs input.frame (if 0 < s1.pktQueue.count
    then untilQueuedSend wireLink input.frame
    else untilUnqueuedSend wireLink input.frame input.draining) s1) s1 _
  split
  · exact returnQueued_judged input.frame hs1
  · exact encodeUnqueued_judged input.frame input.draining hs1

end VTRemote
