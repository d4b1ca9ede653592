import VTRemote.Client.Sessions
import VTRemote.Client.StreamDelivery

/-!
# The packets that a run delivers

Up to the first negative code, a run of the encoder client delivers the packets
of the stream in order, and all of them, exactly if no call loses packets.
-/

namespace VTRemote

attribute [local irreducible] cInt

variable {libs : CompressionLibraries}

/-!
## One call
-/

/-- A call gives the first of the packets that are owed, or none.  It fails only
if none are owed, and without a frame it does one or the other. -/
structure Delivers (pending : List AVPacket) (frame : Option AVFrame)
    (ret : EncodeReturn) (s' : VTRemoteEncContext Host) : Prop where
  owed : exists rest, pending = ret.delivered ++ rest ∧ Owes s' rest
  ended : ret.accepted = false -> pending = []
  answered : frame = none -> ret.accepted = false ∨ ret.delivered ≠ []

theorem Delivers.packet {pkt : AVPacket} {rest : List AVPacket}
    {s' : VTRemoteEncContext Host} (h : Owes s' rest) (frame : Option AVFrame) :
    Delivers (pkt :: rest) frame
      { ret := .ok (), gotPacket := true, pkt := some pkt } s' where
  owed := ⟨rest, rfl, h⟩
  ended hfalse := nomatch hfalse
  answered _ := Or.inr (List.cons_ne_nil pkt [])

theorem Delivers.nothing {pending : List AVPacket}
    {s' : VTRemoteEncContext Host} (h : Owes s' pending) (frame : AVFrame) :
    Delivers pending (some frame)
      { ret := .ok (), gotPacket := false, pkt := none } s' where
  owed := ⟨pending, rfl, h⟩
  ended hfalse := nomatch hfalse
  answered hnone := nomatch hnone

theorem Delivers.failed {s' : VTRemoteEncContext Host} (h : Owes s' [])
    (frame : Option AVFrame) (e : AvError) :
    Delivers [] frame { ret := .error e, gotPacket := false, pkt := none } s' where
  owed := ⟨[], rfl, h⟩
  ended _ := rfl
  answered _ := Or.inl rfl

/-!
## Frames that are refused
-/

def ServerMessage.sent : ServerMessage -> WireMessage
  | packet message => WireMessage.of .packet message.payload fun _ =>
      ⟨message.view, by
        rw [messageHeader_payloadLength]
        exact message.parsed, message.allocatable⟩
  | ping payload => WireMessage.of .ping payload nofun

theorem serverStream_eq (messages : List ServerMessage) :
    serverStream messages =
      messageStream (messages.map ServerMessage.sent ++
        [WireMessage.of .done Payload.empty nofun]) ++ [.eof] := by
  induction messages with
  | nil => rfl
  | cons message messages ih =>
      have hbytes : message.sent.bytes = message.wire := by
        cases message with
        | packet message => rfl
        | ping payload => rfl
      unfold serverStream
      rw [ih]
      unfold messageStream
      rw [List.map_cons, List.cons_append, List.flatMap_cons, List.map_append,
        List.append_assoc, hbytes]

theorem Owes.offers {s : VTRemoteEncContext Host} {pending : List AVPacket}
    (h : Owes s pending) : exists offers, WireOffers s.fd.incoming offers := by
  rcases h.ahead with ⟨_, hahead, _⟩
  cases hahead with
  | streaming messages _ hstream =>
      rcases exists_offers (Or.inr rfl) (hstream.trans (serverStream_eq messages)) with
        ⟨offers, hoffers, _⟩
      exact ⟨offers, hoffers⟩
  | finished _ hstream =>
      have hclosed : s.fd.stream = messageStream [] ++ [.eof] := hstream
      rcases exists_offers (Or.inr rfl) hclosed with ⟨offers, hoffers, _⟩
      exact ⟨offers, hoffers⟩

/-- No packet is queued, and the opening drain of the call takes none before it
goes on to the rest of the call. -/
def FindsNoPacket (s : VTRemoteEncContext Host) : Prop :=
  s.pktQueue.count = 0 ∧ exists offers, WireOffers s.fd.incoming offers ∧
    (drained s.room offers).packets = 0 ∧ (drained s.room offers).last.Succeeds

/-- There is no FRAME for the frame: its format is not supported, its planes cannot
be compressed, or the buffer does not take the payload. -/
def Unwritable (libs : CompressionLibraries) (frame : AVFrame)
    (s : VTRemoteEncContext Host) : Prop :=
  forall planes,
    preparedPlanes libs s.codecId s.wireCompression frame = some planes ->
      (putFrame frame [planes.1, planes.2] (vtremoteWbufReset s.frameBuf)).1 < 0

/-- The window is open for a frame that the client cannot send, and no packet is
there to be returned. -/
def RefusesFrame (libs : CompressionLibraries) (frame : Option AVFrame)
    (s : VTRemoteEncContext Host) : Prop :=
  FindsNoPacket s ∧ s.inflightFrames < s.inflight ∧
    exists f, frame = some f ∧ Unwritable libs f s

/-- On a working connection, sending fails for want of a FRAME alone. -/
theorem sendFrame_fails_iff {s : VTRemoteEncContext Host} (hworking : s.fd.Working)
    (hconnected : s.connected = true) (frame : AVFrame) :
    (ffVtremoteCommonSendFrame hostLink libs (some frame) s).Ends
      (fun r _ => (exists e, r = .error e ∧ e ≠ averrorEof) <->
        Unwritable libs frame s)
      (fun _ => False) := by
  have hmalloc : forall fd : Host, fd.Working ->
      exists fd', hostLink.malloc fd = .returned (.ok ()) fd' ∧ fd'.Working :=
    fun fd h => ⟨_, h.granted.malloc.1, h.reliable, h.granted.malloc.2⟩
  cases hprepared : preparedPlanes libs s.codecId s.wireCompression frame with
  | none =>
      rcases sendFrame_of_unprepared hmalloc hconnected hworking hprepared with
        ⟨e, s1, hne, _, hcall⟩
      rw [hcall]
      apply iff_of_true ⟨e, rfl, hne⟩
      intro planes hsome
      rw [hprepared] at hsome
      cases hsome
  | some planes =>
      rcases sendFrame_of_prepared hmalloc hconnected hworking hprepared with
        ⟨s1, hs1, hcall⟩
      have hunwritable : Unwritable libs frame s <->
          (putFrame frame [planes.1, planes.2] (vtremoteWbufReset s1.frameBuf)).1 <
            0 := by
        rw [hs1.frameBuf]
        constructor
        · exact fun h => h planes hprepared
        · intro hput planes' hsome
          rw [hprepared] at hsome
          cases hsome
          exact hput
      rw [hcall, hunwritable]
      by_cases hput : (putFrame frame [planes.1, planes.2]
          (vtremoteWbufReset s1.frameBuf)).1 < 0
      · rcases @sendPayload_of_refused _ hostLink _ _ _ hput with ⟨e, hne, hrefused⟩
        rw [hrefused]
        exact iff_of_true ⟨e, rfl, hne⟩ hput
      · rcases vtremoteSendMsg_of_working hs1.fd .frame
          (putFrame frame [planes.1, planes.2]
            (vtremoteWbufReset s1.frameBuf)).2.payload with ⟨fd, hsend, _⟩
        let s2 := { s1 with
          frameBuf := (putFrame frame [planes.1, planes.2]
            (vtremoteWbufReset s1.frameBuf)).2 }
        have hsent := @sendCounted_of_ok _ hostLink _ s2 _ hsend
        rw [sendPayload_of_put hput, hsent]
        exact iff_of_false (fun h => nomatch h.choose_spec.1) hput

theorem OpensTo.unwritable_iff {d : Drainage} {s s1 : VTRemoteEncContext Host}
    (h : OpensTo d s s1) (frame : AVFrame) :
    Unwritable libs frame s1 <-> Unwritable libs frame s := by
  unfold Unwritable
  rw [codecId_of_options h.took.options, wireCompression_of_options h.took.options,
    h.took.kept.2]

theorem openingDrain_opens {s s1 : VTRemoteEncContext Host}
    (hgranted : s.fd.Granted) {offers : List WireOffer}
    (hoffers : WireOffers s.fd.incoming offers) {r : Except AvError Unit}
    (hdrain : openingDrain hostLink s = .returned r s1) :
    (drained s.room offers).last.Result r ∧ OpensTo (drained s.room offers) s s1 := by
  have hopens := openingDrain_offers ⟨hgranted, hoffers⟩
  rw [hdrain] at hopens
  exact hopens

/-!
## The parts of a call
-/

/-- The first queued packet is returned, whatever happens to the frame. -/
theorem returnQueued_delivers {s : VTRemoteEncContext Host}
    {pending : List AVPacket} (h : Owes s pending)
    (hcount : 0 < s.pktQueue.count) (frame : Option AVFrame) :
    (returnQueued hostLink libs frame s).Ends
      (fun r s' => Delivers pending frame (EncodeReturn.ofResult r) s')
      (fun _ => False) := by
  rcases popPacket_owes h hcount with ⟨pkt, rest, s1, hpop, rfl, howes, _⟩
  unfold returnQueued
  rw [Call.bind_of_ok _ hpop, Call.get_bind]
  have hsend : (Call.when (frame.isSome ∧ s1.inflightFrames < s1.inflight)
      (ignored (ffVtremoteCommonSendFrame hostLink libs frame)) s1).Ends
      (fun r s' => r = .ok () ∧ Owes s' rest) (fun _ => False) := by
    unfold Call.when
    split
    · exact ignoredSend_owes howes frame
    · exact ⟨rfl, howes⟩
  apply Call.ends_bind_value hsend
  intro s' howes'
  exact Delivers.packet howes' frame

theorem waitForPacket_delivers {s : VTRemoteEncContext Host}
    {pending : List AVPacket} (h : Owes s pending)
    (hsize : 0 < s.pktQueue.size) (hempty : s.pktQueue.count = 0)
    (frame : Option AVFrame) :
    (waitForPacket hostLink libs frame s).Ends
      (fun r s' => Delivers pending frame (EncodeReturn.ofResult r) s')
      (fun _ => False) := by
  unfold waitForPacket
  apply Call.ends_attempt_bind
    (ffVtremoteCommonReceivePacket_owes h hsize hempty)
  intro result s1 hreceives
  cases result with
  | error e =>
      rcases hreceives with ⟨rfl, howes⟩
      exact Delivers.failed howes frame e
  | ok pkt =>
      rcases hreceives with ⟨rest, rfl, howes⟩
      apply Call.ends_bind_value (ignoredSend_owes howes frame)
      intro s' howes'
      exact Delivers.packet howes' frame

theorem finishCall_delivers {s : VTRemoteEncContext Host}
    {pending : List AVPacket} (h : Owes s pending)
    (hsize : 0 < s.pktQueue.size) (hempty : s.pktQueue.count = 0)
    (frame : Option AVFrame) :
    (finishCall hostLink frame s).Ends
      (fun r s' => Delivers pending frame (EncodeReturn.ofResult r) s')
      (fun _ => False) := by
  unfold finishCall
  rw [Call.get_bind]
  split
  · apply Call.ends_attempt_bind
      (ffVtremoteCommonReceivePacket_owes h hsize hempty)
    intro result s1 hreceives
    cases result with
    | error e =>
        rcases hreceives with ⟨rfl, howes⟩
        cases frame with
        | none => exact Delivers.failed howes none e
        | some frame => exact Delivers.nothing howes frame
    | ok pkt =>
        rcases hreceives with ⟨rest, rfl, howes⟩
        exact Delivers.packet howes frame
  · rename_i hquiet
    cases frame with
    | none => exact absurd (Or.inl rfl) hquiet
    | some frame => exact Delivers.nothing h frame

theorem encodeSubmitted_delivers {s : VTRemoteEncContext Host}
    {pending : List AVPacket} (h : Owes s pending)
    (hsize : 0 < s.pktQueue.size) (hempty : s.pktQueue.count = 0)
    (frame : Option AVFrame) (draining : Bool) :
    (encodeSubmitted hostLink libs frame draining s).Ends
      (fun r s' => Delivers pending frame (EncodeReturn.ofResult r) s')
      (fun _ => False) := by
  unfold encodeSubmitted
  rw [Call.get_bind]
  split
  · exact waitForPacket_delivers h hsize hempty frame
  · have hflush : (Call.when (frame.isNone ∧ draining)
        (unlessEof (ffVtremoteCommonSendFrame hostLink libs none)) s).Ends
        (fun r s' => r = .ok () ∧ Owes s' pending ∧
          s'.pktQueue = s.pktQueue) (fun _ => False) := by
      unfold Call.when
      split
      · have hsend := @ffVtremoteCommonSendFrame_owes libs s pending h none
        cases hcall : ffVtremoteCommonSendFrame hostLink libs none s with
        | blocked s' =>
            rw [hcall] at hsend
            exact hsend.elim
        | returned r s' =>
            rw [hcall] at hsend
            rcases hsend with ⟨howes, hqueue, hr⟩
            cases hr rfl
            rw [unlessEof_of_ok hcall]
            exact ⟨rfl, howes, hqueue⟩
      · exact ⟨rfl, h, rfl⟩
    apply Call.ends_bind_value hflush
    intro s' h
    rcases h with ⟨howes, hqueue⟩
    rw [<- hqueue] at hsize hempty
    exact finishCall_delivers howes hsize hempty frame

/-- Behind the drain, with an empty queue: the frame is refused only if nothing
is owed. -/
theorem encodeUnqueued_delivers {s : VTRemoteEncContext Host}
    {pending : List AVPacket} (h : Owes s pending)
    (hsize : 0 < s.pktQueue.size) (hempty : s.pktQueue.count = 0)
    (frame : Option AVFrame) (draining : Bool)
    (hrefuse : forall f, frame = some f -> s.inflightFrames < s.inflight ->
      Unwritable libs f s -> pending = []) :
    (encodeUnqueued hostLink libs frame draining s).Ends
      (fun r s' => Delivers pending frame (EncodeReturn.ofResult r) s')
      (fun _ => False) := by
  unfold encodeUnqueued Call.when
  rw [Call.get_bind]
  split
  · rename_i hopen
    rcases Option.isSome_iff_exists.mp hopen.1 with ⟨f, rfl⟩
    have hsend := @ffVtremoteCommonSendFrame_owes libs s pending h (some f)
    have hfails := @sendFrame_fails_iff libs _ h.working h.connected f
    cases hcall : ffVtremoteCommonSendFrame hostLink libs (some f) s with
    | blocked s' =>
        rw [hcall] at hsend
        exact hsend.elim
    | returned r s' =>
        rw [hcall] at hsend hfails
        rcases hsend with ⟨howes, hqueue, _⟩
        rw [<- hqueue] at hsize hempty
        cases r with
        | ok _ =>
            rw [Call.bind_of_ok _ (unlessEof_of_ok hcall)]
            exact encodeSubmitted_delivers howes hsize hempty (some f) draining
        | error e =>
            have hresult := unlessEof_of_error hcall
            by_cases heof : e = averrorEof
            · rw [if_pos heof] at hresult
              rw [Call.bind_of_ok _ hresult]
              exact encodeSubmitted_delivers howes hsize hempty (some f) draining
            · rw [if_neg heof] at hresult
              rw [Call.bind_of_error _ hresult]
              cases hrefuse f rfl hopen.2 (hfails.mp ⟨e, rfl, heof⟩)
              exact Delivers.failed howes (some f) e
  · exact encodeSubmitted_delivers h hsize hempty frame draining

/-- The call loses the tail of the stream, or refuses its frame while packets are
owed. -/
def LosesPackets (libs : CompressionLibraries) (pending : List AVPacket)
    (frame : Option AVFrame) (s : VTRemoteEncContext Host) : Prop :=
  LosesTail s ∨ (RefusesFrame libs frame s ∧ pending ≠ [])

theorem ffVtremoteEncode_of_body {frame : Option AVFrame} {draining : Bool}
    {s s' : VTRemoteEncContext Host} {r : Except AvError EncodeReturn}
    (h : encodeBody hostLink libs frame draining s = .returned r s') :
    ffVtremoteEncode hostLink libs frame draining s =
      .returned (.ok (EncodeReturn.ofResult r)) s' := by
  unfold ffVtremoteEncode
  rw [Call.bind_of_ok _ (Call.attempt_of_returned h)]
  rfl

/-- Every other call returns, and delivers. -/
theorem ffVtremoteEncode_delivers {s : VTRemoteEncContext Host}
    {pending : List AVPacket} (h : Owes s pending) (frame : Option AVFrame)
    (draining : Bool) (hloses : ¬ LosesPackets libs pending frame s) :
    exists ret s', ffVtremoteEncode hostLink libs frame draining s =
      .returned (.ok ret) s' ∧ Delivers pending frame ret s' := by
  have hbody : (encodeBody hostLink libs frame draining s).Ends
      (fun r s' => Delivers pending frame (EncodeReturn.ofResult r) s')
      (fun _ => False) := by
    have hdrain := openingDrain_owes h fun htail => hloses (Or.inl htail)
    unfold encodeBody
    cases hcall : openingDrain hostLink s with
    | blocked s1 =>
        rw [hcall] at hdrain
        exact hdrain.elim
    | returned r s1 =>
        rw [hcall] at hdrain
        rcases hdrain with ⟨⟨howes, hsize⟩, hr⟩
        cases r with
        | error e =>
            rw [Call.bind_of_error _ hcall]
            have hnil : pending = [] := by
              rcases hr with hr | hr
              · cases hr
              · exact hr
            cases hnil
            exact Delivers.failed howes frame e
        | ok _ =>
            rw [Call.bind_of_ok _ hcall, Call.get_bind]
            by_cases hcount : 0 < s1.pktQueue.count
            · rw [if_pos hcount]
              exact returnQueued_delivers howes hcount frame
            · rw [if_neg hcount]
              have hempty := Nat.eq_zero_of_not_pos hcount
              apply encodeUnqueued_delivers howes hsize hempty
              intro f hframe hopen hunwritable
              by_contra hne
              rcases h.offers with ⟨offers, hoffers⟩
              rcases openingDrain_opens h.working.granted hoffers hcall with
                ⟨hresult, hopens⟩
              have hnone := hopens.took.count
              rw [hempty] at hnone
              rcases Nat.add_eq_zero_iff.mp hnone.symm with ⟨hqueue, hpackets⟩
              have hframes := hopens.took.frames
              rw [hpackets, Nat.sub_zero] at hframes
              rw [hframes, inflight_of_options hopens.took.options] at hopen
              exact hloses (Or.inr ⟨⟨⟨hqueue, offers, hoffers, hpackets,
                hresult.succeeds⟩, hopen, f, hframe,
                (hopens.unwritable_iff f).mp hunwritable⟩, hne⟩)
  cases hcall : encodeBody hostLink libs frame draining s with
  | blocked s' =>
      rw [hcall] at hbody
      exact hbody.elim
  | returned r s' =>
      rw [hcall] at hbody
      exact ⟨_, s', ffVtremoteEncode_of_body hcall, hbody⟩

theorem LosesPackets.fails {s : VTRemoteEncContext Host}
    {pending : List AVPacket} {frame : Option AVFrame}
    (hloses : LosesPackets libs pending frame s) (h : Owes s pending)
    (draining : Bool) :
    pending ≠ [] ∧ exists ret s',
      ffVtremoteEncode hostLink libs frame draining s = .returned (.ok ret) s' ∧
      ret.accepted = false := by
  have hfailed : forall {e s'}, encodeBody hostLink libs frame draining s =
      .returned (.error e) s' -> exists ret s',
        ffVtremoteEncode hostLink libs frame draining s =
          .returned (.ok ret) s' ∧ ret.accepted = false := by
    intro e s' hbody
    exact ⟨_, s', ffVtremoteEncode_of_body hbody, rfl⟩
  rcases hloses with htail | ⟨hrefuse, hne⟩
  · constructor
    · rw [(h.of_done htail.1).1]
      apply List.ne_nil_of_length_pos
      rw [Ring.length_toList]
      exact htail.2.1
    · rcases openingDrain_losesTail h htail with ⟨s1, hdrain⟩
      exact hfailed (Call.bind_of_error _ hdrain)
  · refine ⟨hne, ?_⟩
    rcases hrefuse with
      ⟨⟨hqueue, offers, hoffers, hpackets, hsucceeds⟩, hopen, f, rfl, hunwritable⟩
    by_cases htail : LosesTail s
    · rcases openingDrain_losesTail h htail with ⟨s1, hdrain⟩
      exact hfailed (Call.bind_of_error _ hdrain)
    have howes := openingDrain_owes h htail
    cases hdrain : openingDrain hostLink s with
    | blocked s1 =>
        rw [hdrain] at howes
        exact howes.elim
    | returned r s1 =>
        rw [hdrain] at howes
        rcases openingDrain_opens h.working.granted hoffers hdrain with
          ⟨hresult, hopens⟩
        cases r with
        | error e => exact absurd hsucceeds hresult.not_succeeds
        | ok _ =>
            have hempty : s1.pktQueue.count = 0 := by
              rw [hopens.took.count, hqueue, hpackets]
            have hopen1 : s1.inflightFrames < s1.inflight := by
              rw [hopens.took.frames, hpackets,
                inflight_of_options hopens.took.options]
              exact hopen
            have hfails := @sendFrame_fails_iff libs _ howes.1.1.working
              howes.1.1.connected f
            cases hcall : ffVtremoteCommonSendFrame hostLink libs (some f) s1 with
            | blocked s2 =>
                rw [hcall] at hfails
                exact hfails.elim
            | returned r s2 =>
                rw [hcall] at hfails
                rcases hfails.mpr ((hopens.unwritable_iff f).mpr hunwritable) with
                  ⟨e, rfl, heof⟩
                have hsend := unlessEof_of_error hcall
                rw [if_neg heof] at hsend
                have hbody : encodeBody hostLink libs (some f) draining s =
                    .returned (.error e) s2 := by
                  unfold encodeBody
                  rw [Call.bind_of_ok _ hdrain, Call.get_bind,
                    if_neg (by rw [hempty]; exact Nat.lt_irrefl 0)]
                  unfold encodeUnqueued Call.when
                  rw [Call.get_bind, if_pos ⟨rfl, hopen1⟩]
                  exact Call.bind_of_error _ hsend
                exact hfailed hbody

/-!
## Runs
-/

def deliveredPackets (results : List EncodeReturn) : List AVPacket :=
  results.flatMap EncodeReturn.delivered

/-- The packets are delivered in order and each once; before a negative code
they have all been delivered; and each call without a frame gives a packet or
such a code. -/
structure DeliversPackets (packets : List AVPacket) (inputs : List EncodeInput)
    (results : List EncodeReturn) : Prop where
  ordered : deliveredPackets results <+: packets
  complete : forall before ret after, results = before ++ ret :: after ->
    ret.accepted = false -> deliveredPackets before = packets
  answered : List.Forall₂
    (fun input ret => input.frame = none ->
      ret.accepted = false ∨ ret.delivered ≠ []) inputs results

def DeliversStream (libs : CompressionLibraries) (inputs : List EncodeInput)
    (packets : List AVPacket) (s : VTRemoteEncContext Host) : Prop :=
  forall k, exists results s',
    encodeRun hostLink libs (inputs.take k) s = .returned (.ok results) s' ∧
      DeliversPackets packets (inputs.take k) results

def NeverLoses (libs : CompressionLibraries) :
    List EncodeInput -> List AVPacket -> VTRemoteEncContext Host -> Prop
  | [], _, _ => True
  | input :: inputs, pending, s =>
      ¬ LosesPackets libs pending input.frame s ∧
        (ffVtremoteEncode hostLink libs input.frame input.draining s).Ends
          (fun r s' => NeverLoses libs inputs
            (pending.drop (EncodeReturn.ofResult r).delivered.length) s')
          (fun _ => True)

theorem deliversPackets_nil (packets : List AVPacket) :
    DeliversPackets packets [] [] where
  ordered := List.nil_prefix
  complete before ret after heq := by
    have hlen := congrArg List.length heq
    simp at hlen
  answered := List.Forall₂.nil

theorem deliversPackets_cons {input : EncodeInput} {inputs : List EncodeInput}
    {ret : EncodeReturn} {results : List EncodeReturn} {rest : List AVPacket}
    (hended : ret.accepted = false -> ret.delivered ++ rest = [])
    (hanswered : input.frame = none ->
      ret.accepted = false ∨ ret.delivered ≠ []) :
    DeliversPackets (ret.delivered ++ rest) (input :: inputs) (ret :: results)
      <-> DeliversPackets rest inputs results := by
  have hcons : forall rs, deliveredPackets (ret :: rs) =
      ret.delivered ++ deliveredPackets rs := fun _ => List.flatMap_cons
  constructor
  · intro h
    rcases h with ⟨hordered, hcomplete, hanswers⟩
    refine ⟨?_, ?_, ?_⟩
    · rw [hcons] at hordered
      exact (List.prefix_append_right_inj ret.delivered).mp hordered
    · intro before ret' after h hneg
      subst h
      have hall := hcomplete (ret :: before) ret' after rfl hneg
      rw [hcons] at hall
      exact List.append_cancel_left hall
    · cases hanswers with
      | cons _ htail => exact htail
  · intro h
    rcases h with ⟨hordered, hcomplete, hanswers⟩
    refine ⟨?_, ?_, List.Forall₂.cons hanswered hanswers⟩
    · rw [hcons]
      exact (List.prefix_append_right_inj ret.delivered).mpr hordered
    · intro before ret' after heq hneg
      cases before with
      | nil =>
          injection heq with hret _
          rw [<- hret] at hneg
          exact (hended hneg).symm
      | cons first before =>
          injection heq with hret hrest
          rw [<- hret, hcons, hcomplete before ret' after hrest hneg]

/-- From a state in which the client owes some packets, a run delivers them
exactly if no call of it loses packets. -/
theorem Owes.deliversStream_iff {s : VTRemoteEncContext Host}
    {packets : List AVPacket} (h : Owes s packets) (inputs : List EncodeInput) :
    DeliversStream libs inputs packets s <->
      NeverLoses libs inputs packets s := by
  induction inputs generalizing s packets with
  | nil =>
      constructor
      · exact fun _ => trivial
      · intro _ k
        rw [List.take_nil]
        exact ⟨[], s, rfl, deliversPackets_nil packets⟩
  | cons input inputs ih =>
      by_cases hloses : LosesPackets libs packets input.frame s
      · constructor
        · intro hdelivers
          rcases hloses.fails h input.draining with ⟨hne, ret, s1, hcall, hneg⟩
          rcases hdelivers 1 with ⟨results, s', hrun, hdelivered⟩
          rcases encodeRun_cons_eq hrun with ⟨ret', rest, s2, rfl, hcall', _⟩
          rw [hcall] at hcall'
          cases hcall'
          exact absurd (hdelivered.complete [] ret rest rfl hneg).symm hne
        · intro h
          rcases h with ⟨hnot, _⟩
          exact absurd hloses hnot
      · rcases ffVtremoteEncode_delivers h input.frame input.draining hloses with
          ⟨ret, s1, hcall, ⟨rest, rfl, howes⟩, hended, hanswered⟩
        have hcons : forall k results,
            DeliversPackets (ret.delivered ++ rest)
                ((input :: inputs).take (k + 1)) (ret :: results) <->
              DeliversPackets rest (inputs.take k) results :=
          fun k results => deliversPackets_cons hended hanswered
        have hstep : NeverLoses libs (input :: inputs) (ret.delivered ++ rest) s
            <-> NeverLoses libs inputs rest s1 := by
          rw [NeverLoses, hcall]
          show (_ ∧ NeverLoses libs inputs
            ((ret.delivered ++ rest).drop ret.delivered.length) s1) <-> _
          rw [List.drop_left]
          exact and_iff_right hloses
        rw [hstep, <- ih howes]
        constructor
        · intro hdelivers k
          rcases hdelivers (k + 1) with ⟨results, s', hrun, hdelivered⟩
          rcases encodeRun_cons_eq hrun with ⟨ret', results', s2, rfl, hcall', hrun'⟩
          rw [hcall] at hcall'
          cases hcall'
          exact ⟨results', s', hrun', (hcons k results').mp hdelivered⟩
        · intro hdelivers k
          cases k with
          | zero => exact ⟨[], s, rfl, deliversPackets_nil _⟩
          | succ k =>
              rcases hdelivers k with ⟨results, s', hrun, hdelivered⟩
              exact ⟨ret :: results, s', encodeRun_cons hcall hrun,
                (hcons k results).mpr hdelivered⟩

/-- From the state that init leaves, with a server that sends PACKET and PING
messages, DONE, and closes the connection, in any grouping: the run delivers the
packets before any negative code exactly if no call of it loses packets. -/
theorem encodeRun_deliversStream_iff (libs : CompressionLibraries)
    (inputs : List EncodeInput) (messages : List ServerMessage) (fd : Host)
    (inflight : Nat) (wireCompression : Int) (codecId : AVCodecID)
    (hworking : fd.Working) (hstream : fd.stream = serverStream messages) :
    DeliversStream libs inputs (ServerMessage.packets messages)
        (VTRemoteEncContext.afterInit fd inflight wireCompression codecId) <->
      NeverLoses libs inputs (ServerMessage.packets messages)
        (VTRemoteEncContext.afterInit fd inflight wireCompression codecId) := by
  have howes : Owes
      (VTRemoteEncContext.afterInit fd inflight wireCompression codecId)
      (ServerMessage.packets messages) :=
    ⟨hworking, rfl, _, .streaming messages rfl hstream, rfl⟩
  exact howes.deliversStream_iff inputs

/-!
## Packets that are lost
-/

def emptyPacket (pts : UInt8) : Payload :=
  ⟨List.replicate 7 0 ++ pts :: List.replicate 24 0, by
    simp only [List.length_append, List.length_replicate, List.length_cons]
    decide⟩

def emptyPacketView (pts : Int64) : VTRemotePacketView where
  pts := pts
  dts := 0
  duration := 0
  flags := 0
  data := []
  dataLen := 0

def lastMessages : List ServerMessage :=
  [.packet
      ⟨emptyPacket 1, emptyPacketView 1, by decide +kernel, by decide +kernel⟩,
    .packet
      ⟨emptyPacket 2, emptyPacketView 2, by decide +kernel, by decide +kernel⟩,
    .packet
      ⟨emptyPacket 3, emptyPacketView 3, by decide +kernel, by decide +kernel⟩]

/-- After four polls, the rest of the stream is there to be read. -/
def finishedHost : Host where
  incoming := .quiet :: .quiet :: .quiet :: .quiet ::
    unread (lastMessages.flatMap ServerMessage.wire ++
      wireMessage .done Payload.empty) [.close]
  outgoing := { next := [], broken := none }
  heap := []
  log := []

def drainedInputs : List EncodeInput :=
  [⟨some smallFrame, false⟩, ⟨some { smallFrame with pts := 1 }, false⟩,
    ⟨some { smallFrame with pts := 2 }, false⟩,
    ⟨none, true⟩, ⟨none, true⟩, ⟨none, true⟩]

theorem encodeRun_deliversStream_iff_finished :
    DeliversStream noCompression drainedInputs
        (ServerMessage.packets lastMessages)
        (VTRemoteEncContext.afterInit finishedHost 4 0 .hevc) <->
      NeverLoses noCompression drainedInputs
        (ServerMessage.packets lastMessages)
        (VTRemoteEncContext.afterInit finishedHost 4 0 .hevc) := by
  apply encodeRun_deliversStream_iff noCompression drainedInputs lastMessages
    finishedHost
  · refine ⟨⟨?_, rfl⟩, ?_⟩
    · intro answer hanswer
      cases hanswer
    · intro grant hgrant
      cases hgrant
  · decide +kernel

/-- The last packet is in the queue when the drain of the sixth call finds the
end of the connection. -/
theorem not_deliversStream_finished :
    ¬ DeliversStream noCompression drainedInputs
      (ServerMessage.packets lastMessages)
      (VTRemoteEncContext.afterInit finishedHost 4 0 .hevc) := by
  intro hdelivers
  rcases hdelivers 6 with ⟨results, s', hrun, hdelivered⟩
  have hvalue : (encodeRun hostLink noCompression (drainedInputs.take 6)
      (VTRemoteEncContext.afterInit finishedHost 4 0 .hevc)).value.map
        (fun results => ((deliveredPackets (results.take 5)).length,
          (results.drop 5).map EncodeReturn.accepted)) =
      some (2, [false]) := by
    decide +kernel
  rw [hrun] at hvalue
  injection hvalue with hvalue
  injection hvalue with hlen haccepted
  rcases List.map_eq_cons_iff.mp haccepted with ⟨ret, rest, hdrop, hneg, _⟩
  have hall := hdelivered.complete (results.take 5) ret rest
    (by rw [<- hdrop, List.take_append_drop]) hneg
  rw [hall] at hlen
  cases hlen

end VTRemote
