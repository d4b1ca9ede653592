import VTRemote.Client.FlushConditions

/-!
# One FLUSH over runs

In a run of calls one FLUSH is written, nothing but PONG behind it and nothing
behind DONE, exactly if every call that sends comes before both.  The server's
messages come in any grouping and at any time; memory is granted.
-/

namespace VTRemote

attribute [local irreducible] cInt

open WireEvent

variable {libs : CompressionLibraries}

/-!
## The first send on the socket that remembers
-/

section Images

open Call

variable {σ τ : Type} {f : σ -> τ} {link : Link σ} {link' : Link τ}
  (hlink : link.ShowsAll f link')
include hlink

theorem untilQueuedSend_shows (frame : Option AVFrame) :
    EncShows f (untilQueuedSend link frame) (untilQueuedSend link' frame) := by
  apply Shows.bind (popPacket_shows hlink)
  intro _
  apply Shows.get_bind
  intro s
  exact Shows.pure _

theorem untilReceived_shows :
    EncShows f (untilReceived link) (untilReceived link') := by
  apply Shows.bind (Shows.attempt (ffVtremoteCommonReceivePacket_shows hlink))
  intro _
  exact Shows.pure _

theorem untilUnqueuedSend_shows (frame : Option AVFrame) (draining : Bool) :
    EncShows f (untilUnqueuedSend link frame draining)
      (untilUnqueuedSend link' frame draining) := by
  apply Shows.get_bind
  intro s
  dsimp only [VTRemoteEncContext.mapFd]
  split
  · split
    · exact Shows.pure _
    · exact untilReceived_shows hlink
  · exact Shows.pure _

theorem untilSend_shows (input : EncodeInput) :
    EncShows f (untilSend link input) (untilSend link' input) := by
  apply Shows.bind (openingDrain_shows hlink)
  intro _
  apply Shows.get_bind
  intro s
  dsimp only [VTRemoteEncContext.mapFd]
  split
  · exact untilQueuedSend_shows hlink _
  · exact untilUnqueuedSend_shows hlink _ _

end Images

def SameFlush (s s' : VTRemoteEncContext Wire) : Prop :=
  .flushed ∈ s'.fd.events <-> .flushed ∈ s.fd.events

instance : IsPreorder (VTRemoteEncContext Wire) SameFlush where
  refl _ := Iff.rfl
  trans _ _ _ h h' := Iff.trans h' h

theorem Reads.sameFlush {s s' : VTRemoteEncContext Wire} (h : Reads s s') :
    SameFlush s s' := by
  rcases h with ⟨more, hreading, hevents, _⟩
  unfold SameFlush
  rw [hevents, List.mem_append, or_iff_left]
  intro hmem
  cases hreading.pongs .flush hmem

theorem receivePacket_sameFlush :
    Call.Moves SameFlush (ffVtremoteCommonReceivePacket wireLink) := by
  intro s
  apply (ffVtremoteCommonReceivePacket_ends s).mono
  · intro r s' h
    cases r with
    | error e => exact Reads.sameFlush h
    | ok pkt => exact (Continues.reads h).sameFlush
  · exact fun _ h => h.sameFlush

theorem untilSend_sameFlush (input : EncodeInput) :
    Call.Moves SameFlush (untilSend wireLink input) := by
  have hdrain : Call.Moves SameFlush (openingDrain wireLink) := fun s =>
    (openingDrain_ends s).mono (fun _ _ h => h.sameFlush) (fun _ h => h.sameFlush)
  apply Call.Moves.bind hdrain
  intro _
  apply Call.Moves.bind Call.Moves.get
  intro s
  split
  · apply Call.Moves.bind ((popPacket_queues wireLink_malloc).mono
      fun _ _ h => h.continues.reads.sameFlush)
    intro _
    exact Call.Moves.bind Call.Moves.get fun _ => Call.Moves.pure _
  · apply Call.Moves.bind Call.Moves.get
    intro s
    split
    · split
      · exact Call.Moves.pure _
      · exact Call.Moves.bind (Call.Moves.attempt receivePacket_sameFlush)
          fun _ => Call.Moves.pure _
    · exact Call.Moves.pure _

/-!
## What is written there
-/

def HasMessage {σ : Type} (libs : CompressionLibraries) (frame : Option AVFrame)
    (s : VTRemoteEncContext σ) : Prop :=
  forall f, frame = some f -> sendable libs s.codecId s.wireCompression f = true

def WireHeapOnly (w w' : Wire) : Prop :=
  HeapOnly w.host w'.host ∧ w'.events = w.events

theorem wireLink_grants (w : Wire) : forall w1, WireHeapOnly w w1 ->
    exists w2, wireLink.malloc w1 = .returned (.ok ()) w2 ∧ WireHeapOnly w w2 := by
  intro w1 h
  rcases hostLink_grants w.host w1.host h.1 with ⟨host, hcall, hheap⟩
  exact ⟨_, observe_of_returned hcall, hheap, (List.append_nil _).trans h.2⟩

theorem sendCounted_fd {σ : Type} (link : Link σ) (payload : Payload)
    (s : VTRemoteEncContext σ) {r : Except AvError Unit} {fd : σ}
    (h : link.sendMsg .frame payload s.fd = .returned r fd) :
    (sendCounted link payload s).state.fd = fd := by
  cases r with
  | ok _ =>
      rw [sendCounted_of_ok h]
      rfl
  | error e =>
      rw [sendCounted_of_error h]
      rfl

theorem sendFrame_events_iff {s : VTRemoteEncContext Wire} {offers : List WireOffer}
    (h : EncSession s.forget offers) {frame : Option AVFrame}
    (hbacked : forall f, frame = some f -> f.Backed) :
    (ffVtremoteCommonSendFrame wireLink libs frame s).state.fd.events ≠
        s.fd.events <->
      HasMessage libs frame s ∧ s.fd.host.outgoing.TakesByte := by
  have hconnected : s.connected = true := h.connected
  cases frame with
  | none =>
      rcases wireLink_sendMsg_events .flush Payload.empty s.fd with
        ⟨r, w', hsend, hevents⟩
      have hcall : ffVtremoteCommonSendFrame wireLink libs none s =
          onLink (wireLink.sendMsg .flush Payload.empty)
            { s with flushing := true } := by
        rw [ffVtremoteCommonSendFrame, Call.get_bind, if_neg (by simp [hconnected]),
          Call.modify_bind]
      have hlink := onLink_of_returned (s := { s with flushing := true }) hsend
      rw [hcall, hlink]
      have hmessage : HasMessage libs none s := by
        intro f hf
        cases hf
      exact hevents.trans (and_iff_right hmessage).symm
  | some frame =>
      have hself : WireHeapOnly s.fd s.fd :=
        ⟨⟨s.fd.host.heap, rfl, h.following.granted⟩, rfl⟩
      have hmessage : HasMessage libs (some frame) s <->
          sendable libs s.codecId s.wireCompression frame = true := by
        constructor
        · exact fun h => h frame rfl
        · intro h f hf
          cases hf
          exact h
      rw [hmessage]
      cases hsendable : sendable libs s.codecId s.wireCompression frame with
      | false =>
          rcases sendFrame_of_unsendable (wireLink_grants s.fd) hconnected hself
            h.grants (hbacked frame rfl) hsendable with ⟨e, s1, _, hs1, hcall⟩
          rw [hcall]
          exact iff_of_false (fun hne => hne hs1.fd.2) fun h => absurd h.1 Bool.false_ne_true
      | true =>
          rcases sendFrame_of_sendable (wireLink_grants s.fd) hconnected hself
            h.grants (hbacked frame rfl) hsendable with
            ⟨plane0, plane1, _, hle, s1, hs1, hcall⟩
          rcases wireLink_sendMsg_events .frame
            ⟨frameMessage frame plane0 plane1, hle⟩ s1.fd with ⟨r, w', hsend, hevents⟩
          rcases hs1.fd with ⟨⟨heap, hheap, _⟩, hsame⟩
          have houtgoing : s1.fd.host.outgoing = s.fd.host.outgoing := by
            rw [hheap]
          rw [hcall, sendCounted_fd wireLink _ s1 hsend, <- hsame, hevents, houtgoing]
          exact (and_iff_right rfl).symm

/-- The first send of a call, by the state before the call. -/
theorem inTime_iff {s : VTRemoteEncContext Wire} {offers : List WireOffer}
    (h : EncSession s.forget offers) {input : EncodeInput}
    (hbacked : forall f, input.frame = some f -> f.Backed) :
    InTime libs input.frame (untilSend wireLink input) s <->
      forall out, s.forget.firstSend offers input = some out ->
        HasMessage libs input.frame s -> out.TakesByte ->
        .flushed ∉ s.fd.events ∧ s.forget.doneBehindDrain offers = false := by
  have himage := untilSend_shows wireLink_shows input s
  have hreaches := untilSend_reaches h input
  have hflush := Call.Moves.state (untilSend_sameFlush input) s
  unfold Call.ShowsAt at himage
  rw [<- himage] at hreaches
  have hnever : (untilSend wireLink input s).value ≠ some true ->
      s.forget.firstSend offers input = none ->
      (InTime libs input.frame (untilSend wireLink input) s <->
        forall out, s.forget.firstSend offers input = some out ->
          HasMessage libs input.frame s -> out.TakesByte ->
          .flushed ∉ s.fd.events ∧ s.forget.doneBehindDrain offers = false) := by
    intro hvalue hnone
    apply (inTime_of_not_reached hvalue).symm.trans
    apply iff_of_true trivial
    intro out hout
    rw [hnone] at hout
    cases hout
  cases hcall : untilSend wireLink input s with
  | blocked s1 =>
      rw [hcall] at hreaches hnever
      exact hnever nofun hreaches
  | returned r s1 =>
      rw [hcall] at hreaches hnever hflush
      rcases hreaches with ⟨hr, out, hout, ⟨rest, hsession⟩, houtgoing, hoptions, hdone⟩ |
        ⟨hr, hnone⟩
      · subst hr
        have hoptions' : s1.options = s.options := hoptions
        have hcodec : s1.codecId = s.codecId := congrArg (fun o => o.2.2.1) hoptions'
        have hwire : s1.wireCompression = s.wireCompression :=
          congrArg (fun o => o.2.1) hoptions'
        have hmessage : HasMessage libs input.frame s1 <->
            HasMessage libs input.frame s := by
          unfold HasMessage
          rw [hcodec, hwire]
        have hdone' : s1.done = s.forget.doneBehindDrain offers := hdone
        have houtgoing' : s1.fd.host.outgoing = out := houtgoing
        have hflush' : .flushed ∈ s1.fd.events <-> .flushed ∈ s.fd.events := hflush
        rw [<- inTime_of_reached hcall]
        unfold SendsInTime
        rw [sendFrame_events_iff hsession hbacked, hmessage, houtgoing', hflush', hdone',
          hout]
        constructor
        · intro hsends out' hout' hhas htakes
          cases hout'
          exact hsends ⟨hhas, htakes⟩
        · intro hall hsends
          exact hall out rfl hsends.1 hsends.2
      · refine hnever ?_ hnone
        cases r with
        | error e => exact nofun
        | ok b => exact fun hb => hr (congrArg Except.ok (Option.some.inj hb))

/-!
## Runs
-/

/-- What a call must find: behind DONE, the socket takes nothing of the answers to
the PINGs of the opening drain; and what it takes of the first message of the call
comes before FLUSH and before DONE. -/
structure KeepsOrder (libs : CompressionLibraries) (input : EncodeInput)
    (s : VTRemoteEncContext Wire) : Prop where
  answers : forall offers, WireOffers s.fd.host.incoming offers -> s.done = true ->
    forall i, i < (drained s.forget.room offers).pings ->
      ¬ (Schedule.behindPongs i s.fd.host.outgoing).TakesByte
  sends : forall offers, WireOffers s.fd.host.incoming offers ->
    forall out, s.forget.firstSend offers input = some out ->
      HasMessage libs input.frame s -> out.TakesByte ->
      .flushed ∉ s.fd.events ∧ s.forget.doneBehindDrain offers = false

theorem callInTime_iff {s : VTRemoteEncContext Wire} {offers : List WireOffer}
    (h : EncSession s.forget offers) {input : EncodeInput}
    (hbacked : forall f, input.frame = some f -> f.Backed) :
    CallInTime libs input s <-> KeepsOrder libs input s := by
  have hother : forall {offers'}, WireOffers s.fd.host.incoming offers' ->
      EncSession s.forget offers' :=
    fun hoffers => ⟨⟨h.following.granted, hoffers⟩, h.connected, h.grants⟩
  constructor
  · intro hcall
    refine ⟨?_, ?_⟩
    · exact fun _ hoffers => (answersInTime_iff (hother hoffers)).mp hcall.1
    · exact fun _ hoffers => (inTime_iff (hother hoffers) hbacked).mp hcall.2
  · intro hcall
    exact ⟨(answersInTime_iff h).mpr (hcall.answers offers h.following.offers),
      (inTime_iff h hbacked).mpr (hcall.sends offers h.following.offers)⟩

def RunKeepsOrder (libs : CompressionLibraries) :
    List EncodeInput -> VTRemoteEncContext Wire -> Prop
  | [], _ => True
  | input :: rest, s =>
      KeepsOrder libs input s ∧ forall ret s1,
        ffVtremoteEncode wireLink libs input.frame input.draining s =
          .returned (.ok ret) s1 -> RunKeepsOrder libs rest s1

theorem ffVtremoteEncode_session {s s1 : VTRemoteEncContext Wire}
    {offers : List WireOffer} (h : EncSession s.forget offers) {input : EncodeInput}
    (hbacked : forall f, input.frame = some f -> f.Backed)
    {r : Except AvError EncodeReturn}
    (hcall : ffVtremoteEncode wireLink libs input.frame input.draining s =
      .returned r s1) :
    exists rest, EncSession s1.forget rest := by
  have himage := ffVtremoteEncode_shows wireLink_shows libs input.frame
    input.draining s
  have halive := @ffVtremoteEncode_alive libs _ _ h input hbacked
  unfold Call.ShowsAt at himage
  rw [<- himage, hcall] at halive
  exact halive.2

theorem encodeRun_judged {inputs : List EncodeInput} {s : VTRemoteEncContext Wire}
    (hs : Reported s) (hsession : exists offers, EncSession s.forget offers)
    (hbacked : forall input, input ∈ inputs ->
      forall f, input.frame = some f -> f.Backed) :
    Judged (RunKeepsOrder libs inputs s) s
      (encodeRun wireLink libs inputs s).state := by
  induction inputs generalizing s with
  | nil => exact Judged.refl hs
  | cons input rest ih =>
      rcases hsession with ⟨offers, hsession⟩
      have hfirst := hbacked input List.mem_cons_self
      have hcall := (@ffVtremoteEncode_judged libs _ input hs).congr
        (callInTime_iff hsession hfirst)
      unfold encodeRun
      apply hcall.bind
      intro ret s1 hreturns hs1
      rw [Call.bind_pure_state]
      exact ih hs1 (ffVtremoteEncode_session hsession hfirst hreturns)
        fun input hmem => hbacked input (List.mem_cons_of_mem _ hmem)

/-- The events of a run are those of one FLUSH exactly when every call finds what
it must. -/
theorem encodeRun_oneFlush_iff (libs : CompressionLibraries)
    (inputs : List EncodeInput) (messages : List WireMessage) (host : Host)
    (inflight : Nat) (wireCompression : Int) (codecId : AVCodecID)
    (hbacked : forall input, input ∈ inputs ->
      forall f, input.frame = some f -> f.Backed)
    (hgranted : host.Granted) (hstream : host.Streams messages) :
    OneFlush (encodeRun wireLink libs inputs
        (VTRemoteEncContext.afterInit { host, events := [] } inflight
          wireCompression codecId)).state.fd.events <->
      RunKeepsOrder libs inputs
        (VTRemoteEncContext.afterInit { host, events := [] } inflight
          wireCompression codecId) := by
  have hreported : Reported (VTRemoteEncContext.afterInit
      ({ host, events := [] } : Wire) inflight wireCompression codecId) :=
    iff_of_false List.not_mem_nil nofun
  rcases hstream.offers with ⟨offers, hoffers⟩
  have hsession : EncSession (VTRemoteEncContext.afterInit
      ({ host, events := [] } : Wire) inflight wireCompression codecId).forget offers :=
    ⟨⟨hgranted, hoffers⟩, rfl, rfl⟩
  have hrun := (@encodeRun_judged libs inputs _ hreported ⟨offers, hsession⟩
    hbacked).lawful
  rw [oneFlush_iff]
  exact hrun.trans (and_iff_right List.Pairwise.nil)

/-!
## FLUSH again
-/

/-- The packet of the only frame comes after the first FLUSH, and DONE after the
packet. -/
def patientHost : Host where
  incoming := .quiet :: .quiet ::
    unread (wireMessage .packet (emptyPacket 1))
      (.quiet :: unread (wireMessage .done Payload.empty) [.close])
  outgoing := { next := [], broken := none }
  heap := []
  log := []

def flushedTwice : List EncodeInput :=
  [⟨some smallFrame, false⟩, ⟨none, true⟩, ⟨none, true⟩]

theorem encodeRun_oneFlush_iff_patient :
    OneFlush (encodeRun wireLink noCompression flushedTwice
        (VTRemoteEncContext.afterInit { host := patientHost, events := [] } 4 0
          .hevc)).state.fd.events <->
      RunKeepsOrder noCompression flushedTwice
        (VTRemoteEncContext.afterInit { host := patientHost, events := [] } 4 0
          .hevc) := by
  apply encodeRun_oneFlush_iff noCompression flushedTwice
    [.of .packet (emptyPacket 1) fun _ =>
        ⟨emptyPacketView 1, by decide +kernel, by decide +kernel⟩,
      .of .done Payload.empty fun h => absurd h (by decide)] patientHost 4 0 .hevc
  · intro input hinput frame hframe
    simp only [flushedTwice, List.mem_cons, List.not_mem_nil, or_false] at hinput
    rcases hinput with rfl | rfl | rfl
    · cases hframe
      decide +kernel
    · cases hframe
    · cases hframe
  · intro grant hgrant
    cases hgrant
  · decide +kernel

/-- The second draining call finds no packet, and sends FLUSH again. -/
theorem not_oneFlush_patient :
    ¬ OneFlush (encodeRun wireLink noCompression flushedTwice
      (VTRemoteEncContext.afterInit { host := patientHost, events := [] } 4 0
        .hevc)).state.fd.events := by
  have hevents : (encodeRun wireLink noCompression flushedTwice
      (VTRemoteEncContext.afterInit { host := patientHost, events := [] } 4 0
        .hevc)).state.fd.events =
      [.wrote .frame, .flushed, .read (some .packet), .flushed, .ended] := by
    decide +kernel
  intro honce
  rw [hevents] at honce
  exact absurd honce.once (by decide)

end VTRemote
