import VTRemote.Client.EncoderSteps
import VTRemote.Client.WireEvents

/-!
# One FLUSH

What the encoder writes behind its FLUSH and behind the DONE of the server.  A
draining call sends FLUSH whenever it gets that far, and nothing that sends asks
whether DONE has been read.
-/

namespace VTRemote

attribute [local irreducible] cInt

/-!
## The order of the events
-/

def WireEvent.flushed : WireEvent := .wrote .flush

def WireEvent.ended : WireEvent := .read (some .done)

/-- One FLUSH is written, nothing but PONG behind it, and nothing behind DONE. -/
structure OneFlush (events : List WireEvent) : Prop where
  once : events.count .flushed ≤ 1
  behindFlush : events.Pairwise fun e f => e = .flushed -> forall type,
    f = .wrote type -> type = .pong
  behindDone : events.Pairwise fun e f => e = .ended -> forall type,
    f ≠ .wrote type

def WireEvent.Allows (e f : WireEvent) : Prop :=
  (e = .flushed -> forall type, f = .wrote type -> type = .pong) ∧
    (e = .ended -> forall type, f ≠ .wrote type)

open WireEvent

theorem count_flushed_le {events : List WireEvent} (h : events.Pairwise Allows) :
    events.count .flushed ≤ 1 := by
  induction h with
  | nil => exact Nat.zero_le 1
  | @cons e rest hbehind _ ih =>
      rcases Classical.em (e = .flushed) with rfl | hother
      · have hnone : WireEvent.flushed ∉ rest := by
          intro hmem
          have hpong := (hbehind .flushed hmem).1 rfl .flush rfl
          cases hpong
        rw [List.count_cons_self, List.count_eq_zero.mpr hnone]
      · rw [List.count_cons_of_ne hother]
        exact ih

theorem oneFlush_iff {events : List WireEvent} :
    OneFlush events <-> events.Pairwise Allows := by
  constructor
  · intro h
    exact h.behindFlush.and h.behindDone
  · intro h
    exact ⟨count_flushed_le h, h.imp fun ha => ha.1, h.imp fun ha => ha.2⟩

/-- What is read, with the answers to PING.  Reading stops at DONE. -/
structure Reading (events : List WireEvent) : Prop where
  pongs : forall type, .wrote type ∈ events -> type = .pong
  last : events.Pairwise fun e _ => e ≠ .ended

theorem Reading.allows {events : List WireEvent} (h : Reading events) :
    events.Pairwise Allows := by
  apply (List.Pairwise.and_mem.mp h.last).imp
  intro e f h
  rcases h with ⟨he, _, hne⟩
  refine ⟨?_, fun hended => absurd hended hne⟩
  intro h
  subst h
  cases h.pongs .flush he

/-- Reading goes on, but nothing is written behind DONE. -/
theorem allows_append_reading {events more : List WireEvent} (h : Reading more) :
    (events ++ more).Pairwise Allows <-> events.Pairwise Allows ∧
      (.ended ∈ events -> forall type, .wrote type ∉ more) := by
  rw [List.pairwise_append, and_iff_right h.allows]
  apply and_congr_right
  intro _
  constructor
  · intro hcross hended type hmem
    exact (hcross _ hended _ hmem).2 rfl type rfl
  · intro hquiet e he f hf
    refine ⟨?_, ?_⟩
    · intro h type h'
      subst h
      subst h'
      exact h.pongs type hf
    · intro h type h'
      subst h
      subst h'
      exact hquiet he type hf

theorem allows_append_wrote {events : List WireEvent} {type : VTRemoteMsgType}
    (htype : type ≠ .pong) :
    (events ++ [WireEvent.wrote type]).Pairwise Allows <-> events.Pairwise Allows ∧
      .flushed ∉ events ∧ .ended ∉ events := by
  rw [List.pairwise_append, and_iff_right (List.pairwise_singleton _ _)]
  apply and_congr_right
  intro _
  constructor
  · intro hcross
    refine ⟨?_, ?_⟩
    · intro hflushed
      exact htype ((hcross _ hflushed _ List.mem_cons_self).1 rfl type rfl)
    · intro hended
      exact (hcross _ hended _ List.mem_cons_self).2 rfl type rfl
  · intro h e he f hf
    rcases h with ⟨hflushed, hended⟩
    refine ⟨?_, ?_⟩
    · intro h
      subst h
      exact absurd he hflushed
    · intro h
      subst h
      exact absurd he hended

/-!
## Receiving
-/

def Continues (s s' : VTRemoteEncContext Wire) : Prop :=
  exists more, (forall type, .wrote type ∈ more -> type = .pong) ∧
    .ended ∉ more ∧ s'.fd.events = s.fd.events ++ more ∧ s'.done = s.done

def Reads (s s' : VTRemoteEncContext Wire) : Prop :=
  exists more, Reading more ∧ s'.fd.events = s.fd.events ++ more ∧
    (s'.done = true <-> s.done = true ∨ .ended ∈ more)

section Receiving

variable {s s1 s2 : VTRemoteEncContext Wire}

theorem continues_of_same (hevents : s1.fd.events = s.fd.events)
    (hdone : s1.done = s.done) : Continues s s1 :=
  ⟨[], nofun, List.not_mem_nil, hevents.trans (List.append_nil _).symm, hdone⟩

theorem Continues.refl (s : VTRemoteEncContext Wire) : Continues s s :=
  continues_of_same rfl rfl

theorem Continues.trans (h : Continues s s1) (h' : Continues s1 s2) :
    Continues s s2 := by
  rcases h with ⟨more, hpongs, hended, hevents, hdone⟩
  rcases h' with ⟨more', hpongs', hended', hevents', hdone'⟩
  refine ⟨more ++ more', ?_, ?_, ?_, hdone'.trans hdone⟩
  · intro type hmem
    rcases List.mem_append.mp hmem with hfirst | hsecond
    · exact hpongs type hfirst
    · exact hpongs' type hsecond
  · intro hmem
    rcases List.mem_append.mp hmem with hfirst | hsecond
    · exact hended hfirst
    · exact hended' hsecond
  · rw [hevents', hevents, List.append_assoc]

instance : IsPreorder (VTRemoteEncContext Wire) Continues where
  refl := Continues.refl
  trans _ _ _ := Continues.trans

theorem Continues.reads (h : Continues s s1) : Reads s s1 := by
  rcases h with ⟨more, hpongs, hended, hevents, hdone⟩
  refine ⟨more, ⟨hpongs, ?_⟩, hevents, ?_⟩
  · apply List.pairwise_of_forall_mem_list
    intro e he _ _ heq
    exact hended (heq ▸ he)
  · rw [hdone, or_iff_left hended]

theorem Continues.then (h : Continues s s1) (h' : Reads s1 s2) :
    Reads s s2 := by
  rcases h with ⟨more, hpongs, hended, hevents, hdone⟩
  rcases h' with ⟨more', hreading, hevents', hdone'⟩
  have hne : forall e, e ∈ more -> e ≠ WireEvent.ended :=
    fun e he heq => hended (heq ▸ he)
  refine ⟨more ++ more', ⟨?_, ?_⟩, ?_, ?_⟩
  · intro type hmem
    rcases List.mem_append.mp hmem with hfirst | hsecond
    · exact hpongs type hfirst
    · exact hreading.pongs type hsecond
  · apply List.pairwise_append.mpr
    refine ⟨?_, hreading.last, fun e he _ _ => hne e he⟩
    exact List.pairwise_of_forall_mem_list fun e he _ _ => hne e he
  · rw [hevents', hevents, List.append_assoc]
  · rw [hdone', hdone, List.mem_append, or_iff_right hended]

theorem Queues.continues (h : Queues SameEvents s s1) : Continues s s1 := by
  rcases h with ⟨hevents, _, _, _, _, rfl⟩
  exact continues_of_same hevents rfl

theorem handleOther_continues (hdr : VTRemoteMsgHeader) :
    Call.Moves Continues (handleOther wireLink hdr) := by
  unfold handleOther
  split
  · have hsend : Call.Moves Continues
        (onLink (wireLink.sendMsg .pong Payload.empty)) := by
      intro s
      apply Call.ends_zoom
      apply (wireLink_sendMsg .pong Payload.empty s.fd).mono
      · intro _ fd h
        rcases h with hpong | ⟨hnone, _⟩
        · refine ⟨[.wrote .pong], ?_, ?_, hpong, rfl⟩
          · intro type hmem
            cases List.mem_singleton.mp hmem
            rfl
          · intro hmem
            cases List.mem_singleton.mp hmem
        · exact continues_of_same hnone rfl
      · exact fun _ => False.elim
    apply Call.Moves.bind (Call.Moves.attempt hsend)
    intro _
    exact Call.Moves.pure ()
  · exact Call.Moves.fail _
  · exact Call.Moves.pure ()

theorem continues_of_read {type : Option VTRemoteMsgType}
    (hread : s1.fd.events = s.fd.events ++ [.read type]) (hdone : s1.done = s.done)
    (htype : type ≠ some .done) : Continues s s1 := by
  refine ⟨[.read type], ?_, ?_, hread, hdone⟩
  · intro type' hmem
    cases List.mem_singleton.mp hmem
  · intro hmem
    cases List.mem_singleton.mp hmem
    exact htype rfl

theorem reads_of_done
    (hread : s1.fd.events = s.fd.events ++ [.ended]) :
    Reads s { s1 with done := true } := by
  refine ⟨[.ended], ⟨?_, List.pairwise_singleton _ _⟩, hread, ?_⟩
  · intro type hmem
    cases List.mem_singleton.mp hmem
  · exact iff_of_true rfl (.inr List.mem_cons_self)

def Drains (s : VTRemoteEncContext Wire) (r : Except AvError (Option Unit))
    (s' : VTRemoteEncContext Wire) : Prop :=
  match r with
  | .ok none => Continues s s'
  | _ => Reads s s'

def Waits {α : Type} (s : VTRemoteEncContext Wire) (r : Except AvError α)
    (s' : VTRemoteEncContext Wire) : Prop :=
  match r with
  | .ok _ => Continues s s'
  | .error _ => Reads s s'

theorem Continues.drains {r : Except AvError (Option Unit)}
    (h : Continues s s1) : Drains s r s1 := by
  unfold Drains
  split
  · exact h
  · exact h.reads

theorem Continues.waits {α : Type} {r : Except AvError α}
    (h : Continues s s1) : Waits s r s1 := by
  unfold Waits
  split
  · exact h
  · exact h.reads

def EndsRound {α : Type}
    (R : VTRemoteEncContext Wire -> Except AvError α -> VTRemoteEncContext Wire -> Prop)
    (s s1 : VTRemoteEncContext Wire) (m : EncCall Wire α) : Prop :=
  (m s1).Ends (R s) (Reads s)

theorem endsRound_of_continues {α : Type} {m : EncCall Wire α}
    {R : VTRemoteEncContext Wire -> Except AvError α -> VTRemoteEncContext Wire -> Prop}
    (hR : forall r s', Continues s s' -> R s r s') (hfirst : Continues s s1)
    (h : Call.Moves Continues m) : EndsRound R s s1 m :=
  (h s1).mono (fun _ _ hm => hR _ _ (hfirst.trans hm))
    (fun _ hm => (hfirst.trans hm).reads)

theorem drainMessage_ends {hdr : VTRemoteMsgHeader} (payload : Bytes)
    (hread : s1.fd.events =
      s.fd.events ++ [.read (VTRemoteMsgType.ofCode hdr.type)])
    (hdone : s1.done = s.done) :
    EndsRound Drains s s1 (drainMessage wireLink hdr payload) := by
  have hfirst := continues_of_read hread hdone
  unfold drainMessage
  split
  · rename_i htype
    apply endsRound_of_continues (fun _ _ => Continues.drains) (hfirst (htype ▸ nofun))
    apply Call.Moves.bind
    · exact (enqueuePacket_queues wireLink_malloc _ _).mono
        fun _ _ => Queues.continues
    intro _
    apply Call.Moves.bind (releaseSlot_queues.mono fun _ _ => Queues.continues)
    intro _
    exact Call.Moves.pure _
  · rename_i htype
    rw [htype] at hread
    exact reads_of_done hread
  · rename_i hpacket hnot
    apply endsRound_of_continues (fun _ _ => Continues.drains) (hfirst hnot)
    apply Call.Moves.bind (handleOther_continues hdr)
    intro _
    exact Call.Moves.pure _

theorem receiveMessage_ends {hdr : VTRemoteMsgHeader} (payload : Bytes)
    (hread : s1.fd.events =
      s.fd.events ++ [.read (VTRemoteMsgType.ofCode hdr.type)])
    (hdone : s1.done = s.done) :
    EndsRound Waits s s1 (receiveMessage wireLink hdr payload) := by
  have hfirst := continues_of_read hread hdone
  unfold receiveMessage
  split
  · rename_i htype
    apply endsRound_of_continues (fun _ _ => Continues.waits) (hfirst (htype ▸ nofun))
    apply Call.Moves.bind
    · exact (enqueuePacket_queues wireLink_malloc _ _).mono
        fun _ _ => Queues.continues
    intro _
    exact (popReceived_queues wireLink_malloc).mono fun _ _ => Queues.continues
  · rename_i htype
    rw [htype] at hread
    exact reads_of_done hread
  · rename_i hpacket hnot
    apply endsRound_of_continues (fun _ _ => Continues.waits) (hfirst hnot)
    apply Call.Moves.bind (handleOther_continues hdr)
    intro _
    exact Call.Moves.pure _

theorem onLink_read_ends {m : Call AvError Wire (VTRemoteMsgHeader × Bytes)}
    (h : (m s.fd).Ends (fun r w => w.events = s.fd.events ++ Wire.received r)
      (SameEvents s.fd)) :
    (onLink m s).Ends
      (fun r s' => s'.fd.events = s.fd.events ++ Wire.received r ∧
        s'.done = s.done)
      (Reads s) := by
  apply Call.ends_zoom
  apply h.mono
  · exact fun _ _ hread => ⟨hread, rfl⟩
  · intro fd hsame
    have hcontinues : Continues s { s with fd := fd } := continues_of_same hsame rfl
    exact hcontinues.reads

theorem continues_of_error {e : AvError}
    (hread : s1.fd.events = s.fd.events ++ Wire.received (.error e))
    (hdone : s1.done = s.done) : Continues s s1 :=
  continues_of_same (hread.trans (List.append_nil _)) hdone

theorem drainRound_ends (s : VTRemoteEncContext Wire) :
    (drainRound wireLink s).Ends (Drains s) (Reads s) := by
  unfold drainRound
  rw [Call.get_bind]
  split
  · apply Call.ends_attempt_bind (onLink_read_ends (wireLink_readMsgNonblock s.fd))
    intro r s1 h
    rcases h with ⟨hevents, hdone⟩
    cases r with
    | error e =>
        have hcontinues := continues_of_error hevents hdone
        dsimp only
        split
        · exact hcontinues.reads
        · exact hcontinues.reads
    | ok message => exact drainMessage_ends message.2 hevents hdone
  · exact (Continues.refl s).reads

theorem receiveRound_ends (s : VTRemoteEncContext Wire) :
    (receiveRound wireLink s).Ends (Waits s) (Reads s) := by
  apply Call.ends_bind (onLink_read_ends (wireLink_readMsg s.fd))
  · intro e s1 h
    rcases h with ⟨hevents, hdone⟩
    exact (continues_of_error hevents hdone).reads
  · intro message s1 h
    rcases h with ⟨hevents, hdone⟩
    exact receiveMessage_ends message.2 hevents hdone

theorem vtremoteDrainAvailablePackets_ends (s : VTRemoteEncContext Wire) :
    (vtremoteDrainAvailablePackets wireLink s).Ends (fun _ => Reads s)
      (Reads s) := by
  unfold vtremoteDrainAvailablePackets
  rw [Call.get_bind]
  apply Call.ends_loop (R := fun s _ => Reads s)
  · exact fun s => (Continues.refl s).reads
  · exact fun _ _ _ _ => Continues.then
  · exact fun _ _ _ => Continues.then
  · intro s
    apply (drainRound_ends s).mono
    · intro result s' hround
      rcases result with e | _ | _
      · exact hround
      · exact hround
      · exact hround
    · exact fun _ hblocked => hblocked

theorem ffVtremoteCommonReceivePacket_ends (s : VTRemoteEncContext Wire) :
    (ffVtremoteCommonReceivePacket wireLink s).Ends (Waits s) (Reads s) := by
  have hreturns : forall (s1 s2 : VTRemoteEncContext Wire)
      (r : Except AvError AVPacket) (s3 : VTRemoteEncContext Wire),
      Continues s1 s2 -> Waits s2 r s3 -> Waits s1 r s3 := by
    intro s1 s2 r s3 hfirst hrest
    cases r with
    | error e => exact hfirst.then hrest
    | ok pkt => exact hfirst.trans hrest
  unfold ffVtremoteCommonReceivePacket
  rw [Call.get_bind]
  split
  · exact (Continues.refl s).reads
  · split
    · apply endsRound_of_continues (fun _ _ => Continues.waits) (Continues.refl s)
      exact (takePacket_queues wireLink_malloc).mono fun _ _ => Queues.continues
    · apply Call.ends_loop
      · exact fun s => (Continues.refl s).reads
      · exact hreturns
      · exact fun _ _ _ => Continues.then
      · intro s
        apply (receiveRound_ends s).mono
        · intro result s' hround
          rcases result with e | _ | _
          · exact hround
          · exact hround
          · exact hround
        · exact fun _ hblocked => hblocked

theorem ffVtremoteCommonReceivePacket_done {s : VTRemoteEncContext Wire}
    (hdone : s.done = true) :
    ffVtremoteCommonReceivePacket wireLink s =
      .returned (.error averrorEof) s := by
  unfold ffVtremoteCommonReceivePacket
  rw [Call.get_bind, if_pos hdone]
  rfl

theorem openingDrain_ends (s : VTRemoteEncContext Wire) :
    (openingDrain wireLink s).Ends (fun _ => Reads s) (Reads s) := by
  have hallocate : (allocateQueue wireLink s).Ends
      (fun _ s1 => Continues s s1) (Reads s) :=
    (allocateQueue_queues wireLink_malloc s).mono
      (fun _ _ => Queues.continues) (fun _ h => h.continues.reads)
  unfold openingDrain
  apply Call.ends_bind hallocate
  · exact fun _ _ => Continues.reads
  intro _ s1 hfirst
  have hdrain : (vtremoteDrainAvailablePackets wireLink s1).Ends
      (fun _ => Reads s) (Reads s) :=
    (vtremoteDrainAvailablePackets_ends s1).mono
      (fun _ _ => hfirst.then) (fun _ => hfirst.then)
  apply Call.ends_attempt_bind hdrain
  intro result s2 hreads
  rcases result with e | _
  · dsimp only
    split
    · exact hreads
    · exact hreads
  · exact hreads

end Receiving

end VTRemote
