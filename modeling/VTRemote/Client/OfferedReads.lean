import VTRemote.Client.EncoderFuel
import VTRemote.Client.Offers
import VTRemote.Client.SocketAnswers

/-!
# Reading what is offered

What the opening drain of a call and the wait for a packet do to a context is said
by the offers of its connection.
-/

namespace VTRemote

attribute [local irreducible] cInt

/-!
## One message
-/

theorem vtremoteReadMsg_brings {h : Host} {hdr : VTRemoteMsgHeader}
    {payload : Bytes} {rest : List (Arrival Errno)}
    (hbrings : Brings h.incoming hdr payload rest) (hgranted : h.Granted) :
    exists heap, vtremoteReadMsg h =
        .returned (.ok (hdr, payload)) { h with incoming := rest, heap := heap } ∧
      ({ h with incoming := rest, heap := heap } : Host).Granted := by
  rcases hbrings with ⟨hheader, hparse, hsize, hpayload⟩
  rename_i headerBuf mid
  have hread : readFull vtremoteHeaderSize h =
      .returned (.ok headerBuf) { h with incoming := mid } := by
    unfold readFull
    rw [hheader]
  unfold vtremoteReadMsg
  rw [Call.bind_of_ok _ hread]
  simp only [hparse]
  by_cases hzero : hdr.length = 0
  · rw [payloadLength_zero hzero] at hpayload
    have hnone : fill eintr 0 [] mid = .done [] mid := by
      cases mid with
      | nil => rfl
      | cons arrival mid => rfl
    rw [hnone] at hpayload
    cases hpayload
    rw [if_pos hzero]
    exact ⟨h.heap, rfl, hgranted⟩
  · have hmid : ({ h with incoming := mid } : Host).Granted := hgranted
    have hread' : readFull hdr.payloadLength
        { h with incoming := mid, heap := h.heap.tail } =
          .returned (.ok payload) { h with incoming := rest, heap := h.heap.tail } := by
      unfold readFull
      simp only [hpayload]
    rw [if_neg hzero, avMallocSize_of_le hsize, Call.bind_of_ok _ hmid.malloc.1,
      Call.bind_of_ok _ hread']
    exact ⟨h.heap.tail, rfl, hmid.malloc.2⟩

theorem vtremoteReadMsg_closed {h : Host} {rest : List (Arrival Errno)}
    (hclosed : h.incoming = .close :: rest) :
    vtremoteReadMsg h = .returned (.error averrorEof) h := by
  have hread : readFull vtremoteHeaderSize h = .returned (.error averrorEof) h := by
    cases h with
    | mk incoming outgoing heap log =>
        cases hclosed
        rfl
  exact Call.bind_of_error _ hread

/-- A read that waits does not see that the connection is silent. -/
theorem vtremoteReadMsg_silent {h : Host} {arrival : Arrival Errno}
    (hsilent : arrival = .quiet ∨ arrival = .fail eintr)
    {rest : List (Arrival Errno)} (hincoming : h.incoming = arrival :: rest) :
    vtremoteReadMsg h = vtremoteReadMsg { h with incoming := rest } := by
  have hread : readFull vtremoteHeaderSize h =
      readFull vtremoteHeaderSize { h with incoming := rest } := by
    unfold readFull
    rw [hincoming]
    rcases hsilent with rfl | rfl
    · rfl
    · rfl
  unfold vtremoteReadMsg
  show Call.bind _ _ h = Call.bind _ _ _
  unfold Call.bind
  rw [hread]

/-- Packets were taken into the queue, and PINGs answered. -/
structure Took (packets pings : Nat) (s s' : VTRemoteEncContext Host) : Prop where
  count : s'.pktQueue.count = s.pktQueue.count + packets
  frames : s'.inflightFrames = s.inflightFrames - packets
  outgoing : s'.fd.outgoing = Schedule.behindPongs pings s.fd.outgoing
  log : s'.fd.log = s.fd.log ++ Schedule.loggedPongs pings s.fd.outgoing
  options : s'.options = s.options
  kept : s'.flushing = s.flushing ∧ s'.frameBuf = s.frameBuf

theorem Schedule.behindPongs_add (m n : Nat) (out : Schedule Errno) :
    behindPongs (m + n) out = behindPongs n (behindPongs m out) := by
  induction m generalizing out with
  | zero => rw [Nat.zero_add]; rfl
  | succ m ih =>
      rw [Nat.add_right_comm]
      exact ih _

theorem Schedule.loggedPongs_add (m n : Nat) (out : Schedule Errno) :
    loggedPongs (m + n) out = loggedPongs m out ++ loggedPongs n (behindPongs m out) := by
  induction m generalizing out with
  | zero => rw [Nat.zero_add]; rfl
  | succ m ih =>
      rw [Nat.add_right_comm]
      show _ ++ loggedPongs (m + n) _ = _
      rw [ih, <- List.append_assoc]
      rfl

theorem Took.refl (s : VTRemoteEncContext Host) : Took 0 0 s s :=
  ⟨rfl, rfl, rfl, (List.append_nil _).symm, rfl, rfl, rfl⟩

theorem Took.trans {packets pings packets' pings' : Nat}
    {s s1 s2 : VTRemoteEncContext Host} (h : Took packets pings s s1)
    (h' : Took packets' pings' s1 s2) :
    Took (packets + packets') (pings + pings') s s2 where
  count := by rw [h'.count, h.count, Nat.add_assoc]
  frames := by rw [h'.frames, h.frames, Nat.sub_sub]
  outgoing := by rw [h'.outgoing, h.outgoing, Schedule.behindPongs_add]
  log := by rw [h'.log, h.log, h.outgoing, Schedule.loggedPongs_add, List.append_assoc]
  options := h'.options.trans h.options
  kept := ⟨h'.kept.1.trans h.kept.1, h'.kept.2.trans h.kept.2⟩

theorem took_of_read {s : VTRemoteEncContext Host} (incoming : List (Arrival Errno))
    (heap : List Bool) :
    Took 0 0 s { s with fd := { s.fd with incoming := incoming, heap := heap } } :=
  ⟨rfl, rfl, rfl, (List.append_nil _).symm, rfl, rfl, rfl⟩

structure Following (s : VTRemoteEncContext Host) (offers : List WireOffer) : Prop where
  granted : s.fd.Granted
  offers : WireOffers s.fd.incoming offers

structure Handled (packets pings : Nat) (s s' : VTRemoteEncContext Host) :
    Prop where
  took : Took packets pings s s'
  size : s'.pktQueue.size = s.pktQueue.size
  done : s'.done = s.done
  incoming : s'.fd.incoming = s.fd.incoming
  granted : s.fd.Granted -> s'.fd.Granted

theorem Handled.refl (s : VTRemoteEncContext Host) : Handled 0 0 s s :=
  ⟨Took.refl s, rfl, rfl, rfl, fun h => h⟩

/-- A PING is answered, whatever becomes of the answer. -/
theorem handleOther_pong {hdr : VTRemoteMsgHeader}
    (htype : VTRemoteMsgType.ofCode hdr.type = some .ping)
    (s : VTRemoteEncContext Host) :
    exists s', handleOther hostLink hdr s = .returned (.ok ()) s' ∧
      Handled 0 1 s s' := by
  have hsend := onLink_of_returned
    (vtremoteSendMsg_schedule .pong Payload.empty s.fd)
  refine ⟨{ s with fd := { s.fd with
      outgoing := s.fd.outgoing.behind .pong Payload.empty
      log := s.fd.log ++ s.fd.outgoing.logged .pong Payload.empty } }, ?_,
    ⟨⟨rfl, rfl, rfl, ?_, rfl, rfl, rfl⟩, rfl, rfl, rfl, fun h => h⟩⟩
  · unfold handleOther
    simp only [htype]
    exact ignored_of_returned hsend
  · exact congrArg (s.fd.log ++ ·) (List.append_nil _).symm

theorem enqueuePacket_storable {hdr : VTRemoteMsgHeader} {payload : Bytes}
    (hstorable : Storable hdr payload) {s : VTRemoteEncContext Host}
    (hgranted : s.fd.Granted) (hroom : s.pktQueue.count < s.pktQueue.size) :
    exists queue : Ring AVPacket, queue.count = s.pktQueue.count + 1 ∧
      queue.size = s.pktQueue.size ∧
      enqueuePacket hostLink payload (cInt hdr.length.toNat) s = .returned (.ok ())
        { s with
          fd := { s.fd with heap := s.fd.heap.tail }
          pktQueue := queue
          packetsRecv := s.packetsRecv + 1 } := by
  rcases hstorable with ⟨view, hparse, hview⟩
  refine ⟨_, ?_, ?_, enqueuePacket_of_malloc hparse hview hroom hgranted.malloc.1⟩
  · have hroom' : ((s.pktQueue.store default).store view.described).count <
        ((s.pktQueue.store default).store view.described).size := by
      simpa using hroom
    rw [Ring.count_grow hroom']
    simp
  · simp

/-!
## The opening drain
-/

structure DrainsTo (d : Drainage) (s s' : VTRemoteEncContext Host) : Prop where
  took : Took d.packets d.pings s s'
  size : s'.pktQueue.size = s.pktQueue.size
  following : Following s' d.rest
  done : s'.done = (s.done || d.last = .done)

def DrainEnd.Result : DrainEnd -> Except AvError Unit -> Prop
  | .stops, r => r = .ok ()
  | .done, r => r = .ok ()
  | .fails, r => exists e, r = .error e ∧ e ≠ averror eagain
  | .waits, _ => False

theorem DrainEnd.Result.succeeds {last : DrainEnd} (h : last.Result (.ok ())) :
    last.Succeeds := by
  cases last with
  | stops => exact Or.inl rfl
  | done => exact Or.inr rfl
  | fails =>
      rcases h with ⟨e, he, _⟩
      cases he
  | waits => exact h.elim

theorem DrainEnd.Result.not_succeeds {last : DrainEnd} {e : AvError}
    (h : last.Result (.error e)) : ¬ last.Succeeds := by
  intro hsucceeds
  rcases hsucceeds with rfl | rfl
  · cases h
  · cases h

def Drainage.Describes (d : Drainage) (s : VTRemoteEncContext Host)
    (o : Outcome AvError (VTRemoteEncContext Host) Unit) : Prop :=
  o.Ends (fun r s' => d.last.Result r ∧ DrainsTo d s s')
    (fun s' => d.last = .waits ∧ DrainsTo d s s')

theorem Drainage.Describes.after {packets pings : Nat} {d : Drainage}
    {s s1 : VTRemoteEncContext Host} {o : Outcome AvError (VTRemoteEncContext Host) Unit}
    (htook : Took packets pings s s1) (hsize : s1.pktQueue.size = s.pktQueue.size)
    (hdone : s1.done = s.done) (h : d.Describes s1 o) :
    Drainage.Describes
      { d with packets := packets + d.packets, pings := pings + d.pings } s o := by
  have hdrains : forall s', DrainsTo d s1 s' -> DrainsTo
      { d with packets := packets + d.packets, pings := pings + d.pings } s s' := by
    intro s' hs'
    exact ⟨htook.trans hs'.took, hs'.size.trans hsize, hs'.following,
      by rw [hs'.done, hdone]⟩
  exact h.mono (fun _ s' hs' => ⟨hs'.1, hdrains s' hs'.2⟩)
    (fun s' hs' => ⟨hs'.1, hdrains s' hs'.2⟩)

theorem drainRound_message {s : VTRemoteEncContext Host} {b : UInt8} {bs : Bytes}
    {more rest : List (Arrival Errno)} {hdr : VTRemoteMsgHeader} {payload : Bytes}
    (hroom : s.pktQueue.count < s.pktQueue.size)
    (hincoming : s.fd.incoming = .data b bs :: more)
    (hbrings : Brings (.data b bs :: more) hdr payload rest)
    (hgranted : s.fd.Granted) :
    exists heap, ({ s.fd with incoming := rest, heap := heap } : Host).Granted ∧
      drainRound hostLink s = drainMessage hostLink hdr payload
        { s with fd := { s.fd with incoming := rest, heap := heap } } := by
  have hready : checkReadable s.fd = .returned (.ok 1) s.fd := by
    unfold checkReadable
    rw [hincoming]
  rw [<- hincoming] at hbrings
  rcases vtremoteReadMsg_brings hbrings hgranted with ⟨heap, hread, hgranted'⟩
  have hnow : vtremoteReadMsgNonblock s.fd =
      .returned (.ok (hdr, payload)) { s.fd with incoming := rest, heap := heap } := by
    unfold vtremoteReadMsgNonblock
    rw [Call.bind_of_ok _ hready, if_neg (by decide), hread]
  have hlink : onLink hostLink.readMsgNonblock s = .returned _ _ :=
    onLink_of_returned hnow
  refine ⟨heap, hgranted', ?_⟩
  unfold drainRound
  rw [Call.get_bind, if_pos hroom, Call.bind_of_ok _ (Call.attempt_of_returned hlink)]

theorem drainMessage_packet {s : VTRemoteEncContext Host} {hdr : VTRemoteMsgHeader}
    {payload : Bytes} (htype : VTRemoteMsgType.ofCode hdr.type = some .packet)
    (hstorable : Storable hdr payload) (hgranted : s.fd.Granted)
    (hroom : s.pktQueue.count < s.pktQueue.size) :
    exists s', drainMessage hostLink hdr payload s = .returned (.ok none) s' ∧
      Handled 1 0 s s' := by
  rcases enqueuePacket_storable hstorable hgranted hroom with
    ⟨queue, hcount, hsize, henqueue⟩
  refine ⟨{ s with
      fd := { s.fd with heap := s.fd.heap.tail }
      pktQueue := queue
      packetsRecv := s.packetsRecv + 1
      inflightFrames := s.inflightFrames - 1 }, ?_,
    ⟨⟨hcount, rfl, rfl, (List.append_nil _).symm, rfl, rfl, rfl⟩, hsize, rfl, rfl,
      fun h => h.malloc.2⟩⟩
  unfold drainMessage
  simp only [htype]
  rw [Call.bind_of_ok _ henqueue]
  rfl

theorem drainMessage_ping {s : VTRemoteEncContext Host} {hdr : VTRemoteMsgHeader}
    (payload : Bytes) (htype : VTRemoteMsgType.ofCode hdr.type = some .ping) :
    exists s', drainMessage hostLink hdr payload s = .returned (.ok none) s' ∧
      Handled 0 1 s s' := by
  rcases handleOther_pong htype s with ⟨s', hother, hs'⟩
  refine ⟨s', ?_, hs'⟩
  unfold drainMessage
  simp only [htype]
  rw [Call.bind_of_ok _ hother]
  rfl

theorem drainMessage_done {s : VTRemoteEncContext Host} {hdr : VTRemoteMsgHeader}
    (payload : Bytes) (htype : VTRemoteMsgType.ofCode hdr.type = some .done) :
    drainMessage hostLink hdr payload s =
      .returned (.ok (some ())) { s with done := true } := by
  unfold drainMessage
  simp only [htype]
  rfl

theorem drainMessage_error {s : VTRemoteEncContext Host} {hdr : VTRemoteMsgHeader}
    (payload : Bytes) (htype : VTRemoteMsgType.ofCode hdr.type = some .error) :
    drainMessage hostLink hdr payload s = .returned (.error (averror eio)) s := by
  unfold drainMessage handleOther
  simp only [htype]
  rfl

def Ignored (hdr : VTRemoteMsgHeader) : Prop :=
  forall type, VTRemoteMsgType.ofCode hdr.type = some type ->
    type ≠ .packet ∧ type ≠ .ping ∧ type ≠ .done ∧ type ≠ .error

theorem ignored_of_ne {hdr : VTRemoteMsgHeader}
    (hpacket : VTRemoteMsgType.ofCode hdr.type = some .packet -> False)
    (hping : VTRemoteMsgType.ofCode hdr.type = some .ping -> False)
    (hdone : VTRemoteMsgType.ofCode hdr.type = some .done -> False)
    (herror : VTRemoteMsgType.ofCode hdr.type = some .error -> False) :
    Ignored hdr := by
  intro type htype
  refine ⟨?_, ?_, ?_, ?_⟩
  · intro h
    exact hpacket (h ▸ htype)
  · intro h
    exact hping (h ▸ htype)
  · intro h
    exact hdone (h ▸ htype)
  · intro h
    exact herror (h ▸ htype)

theorem handleOther_ignored {hdr : VTRemoteMsgHeader} (h : Ignored hdr) :
    handleOther hostLink hdr = pure () := by
  unfold handleOther
  split
  · rename_i htype
    exact absurd rfl (h _ htype).2.1
  · rename_i htype
    exact absurd rfl (h _ htype).2.2.2
  · rfl

theorem drainMessage_ignored {hdr : VTRemoteMsgHeader} (payload : Bytes)
    (h : Ignored hdr) : drainMessage hostLink hdr payload = pure none := by
  unfold drainMessage
  split
  · rename_i htype
    exact absurd rfl (h _ htype).1
  · rename_i htype
    exact absurd rfl (h _ htype).2.2.1
  · rw [handleOther_ignored h]
    rfl

theorem drainLoop_last {s s' : VTRemoteEncContext Host} {fuel : Nat}
    {r : Except AvError Unit}
    (hround : drainRound hostLink s = .returned (r.map some) s') :
    Call.loop (drainRound hostLink) (fuel + 1) s = .returned r s' := by
  unfold Call.loop
  cases r with
  | error e => exact Call.bind_of_error _ hround
  | ok a => exact Call.bind_of_ok _ hround

theorem drainRound_silent {s : VTRemoteEncContext Host} {arrival : Arrival Errno}
    (hsilent : arrival = .quiet ∨ arrival = .fail eintr)
    {rest : List (Arrival Errno)} (hincoming : s.fd.incoming = arrival :: rest)
    (hroom : s.pktQueue.count < s.pktQueue.size) :
    drainRound hostLink s = .returned (.ok (some ()))
      { s with fd := { s.fd with incoming := rest } } := by
  have hnow : vtremoteReadMsgNonblock s.fd =
      .returned (.error (averror eagain)) { s.fd with incoming := rest } := by
    unfold vtremoteReadMsgNonblock
    have hready : exists ready, ready ≤ 0 ∧ checkReadable s.fd =
        .returned (.ok ready) { s.fd with incoming := rest } := by
      unfold checkReadable
      rw [hincoming]
      rcases hsilent with rfl | rfl
      · exact ⟨0, Int.le_refl 0, rfl⟩
      · exact ⟨-1, by decide, rfl⟩
    rcases hready with ⟨ready, hle, hready⟩
    rw [Call.bind_of_ok _ hready, if_pos hle]
    rfl
  have hlink : onLink hostLink.readMsgNonblock s = .returned _ _ :=
    onLink_of_returned hnow
  unfold drainRound
  rw [Call.get_bind, if_pos hroom, Call.bind_of_ok _ (Call.attempt_of_returned hlink)]
  simp only [if_pos]
  rfl

theorem drainRound_closed {s : VTRemoteEncContext Host}
    {rest : List (Arrival Errno)} (hincoming : s.fd.incoming = .close :: rest)
    (hroom : s.pktQueue.count < s.pktQueue.size) :
    drainRound hostLink s = .returned (.error averrorEof) s := by
  have hready : checkReadable s.fd = .returned (.ok 1) s.fd := by
    unfold checkReadable
    rw [hincoming]
  have hnow : vtremoteReadMsgNonblock s.fd = .returned (.error averrorEof) s.fd := by
    unfold vtremoteReadMsgNonblock
    rw [Call.bind_of_ok _ hready, if_neg (by decide), vtremoteReadMsg_closed hincoming]
  have hlink : onLink hostLink.readMsgNonblock s = .returned _ _ :=
    onLink_of_returned hnow
  unfold drainRound
  rw [Call.get_bind, if_pos hroom, Call.bind_of_ok _ (Call.attempt_of_returned hlink)]
  simp only [if_neg averrorEof_ne_eagain]
  rfl

theorem drains_nothing {s s' : VTRemoteEncContext Host} {last : DrainEnd}
    {rest : List WireOffer} (htook : Took 0 0 s s')
    (hsize : s'.pktQueue.size = s.pktQueue.size) (hfollowing : Following s' rest)
    (hdone : s'.done = (s.done || last = .done)) :
    DrainsTo { packets := 0, pings := 0, last := last, rest := rest } s s' :=
  ⟨htook, hsize, hfollowing, hdone⟩

theorem drainLoop_message {s : VTRemoteEncContext Host} {hdr : VTRemoteMsgHeader}
    {payload : Bytes} {b : UInt8} {bs : Bytes} {more rest : List (Arrival Errno)}
    {offers : List WireOffer} {room fuel : Nat}
    (hsize : s.pktQueue.size - s.pktQueue.count = room + 1)
    (hincoming : s.fd.incoming = .data b bs :: more)
    (hbrings : Brings (.data b bs :: more) hdr payload rest)
    (hstorable : VTRemoteMsgType.ofCode hdr.type = some .packet ->
      Storable hdr payload)
    (hoffers : WireOffers rest offers) (hgranted : s.fd.Granted)
    (hfuel : arrivalsLeft s.fd.incoming < fuel + 1)
    (ih : forall s1, Following s1 offers -> arrivalsLeft s1.fd.incoming < fuel ->
      (drained (s1.pktQueue.size - s1.pktQueue.count) offers).Describes s1
        (Call.loop (drainRound hostLink) fuel s1)) :
    (drained (room + 1) (.message hdr payload :: offers)).Describes s
      (Call.loop (drainRound hostLink) (fuel + 1) s) := by
  have hroom : s.pktQueue.count < s.pktQueue.size := by omega
  rcases drainRound_message hroom hincoming hbrings hgranted with
    ⟨heap, hgranted1, hround⟩
  have hconsumes : forall {s1}, drainRound hostLink s = .returned (.ok none) s1 ->
      arrivalsLeft s1.fd.incoming < fuel := fun hcall =>
    Nat.lt_of_lt_of_le (drainRound_consumes hostLink_consumes hcall)
      (Nat.le_of_lt_succ hfuel)
  -- the context behind the read
  let s0 : VTRemoteEncContext Host :=
    { s with fd := { s.fd with incoming := rest, heap := heap } }
  have hread : Took 0 0 s s0 := took_of_read rest heap
  have hfollows0 : Following s0 offers := ⟨hgranted1, hoffers⟩
  -- a round that goes on leaves the other offers to the rounds behind it
  have hgoes : forall {packets pings room1 s1},
      drainRound hostLink s = .returned (.ok none) s1 ->
      Handled packets pings s0 s1 -> s1.pktQueue.size - s1.pktQueue.count = room1 ->
      Drainage.Describes
        { drained room1 offers with
          packets := (drained room1 offers).packets + packets
          pings := (drained room1 offers).pings + pings } s
        (Call.loop (drainRound hostLink) (fuel + 1) s) := by
    intro packets pings room1 s1 hcall hhandled hleft
    have hlater := ih s1 ⟨hhandled.granted hgranted1, hhandled.incoming ▸ hoffers⟩
      (hconsumes hcall)
    rw [hleft] at hlater
    rw [Call.loop_of_none fuel hcall]
    have hall := hlater.after (hread.trans hhandled.took) hhandled.size hhandled.done
    simpa only [Nat.zero_add, Nat.add_comm packets, Nat.add_comm pings] using hall
  unfold drained
  split
  · rename_i htype
    rcases drainMessage_packet (s := s0) htype (hstorable htype) hgranted1 hroom with
      ⟨s1, hcall, hhandled⟩
    have hleft : s1.pktQueue.size - s1.pktQueue.count = room := by
      have hcount1 : s1.pktQueue.count = s.pktQueue.count + 1 := hhandled.took.count
      have hsize1 : s1.pktQueue.size = s.pktQueue.size := hhandled.size
      omega
    exact hgoes (hround.trans hcall) hhandled hleft
  · rename_i htype
    rw [drainMessage_done payload htype] at hround
    rw [drainLoop_last (r := .ok ()) hround]
    exact ⟨rfl, ⟨rfl, rfl, rfl, (List.append_nil _).symm, rfl, rfl, rfl⟩, rfl,
      ⟨hgranted1, hoffers⟩, (Bool.or_true _).symm⟩
  · rename_i htype
    rcases drainMessage_ping (s := s0) payload htype with
      ⟨s1, hcall, hhandled⟩
    have hleft : s1.pktQueue.size - s1.pktQueue.count = room + 1 := by
      rw [hhandled.took.count, hhandled.size]
      exact hsize
    exact hgoes (hround.trans hcall) hhandled hleft
  · rename_i htype
    rw [drainMessage_error payload htype] at hround
    rw [drainLoop_last (r := .error (averror eio)) hround]
    exact ⟨⟨averror eio, rfl, by decide⟩, drains_nothing hread rfl hfollows0
      (Bool.or_false _).symm⟩
  · rename_i hpacket hdone hping herror
    rw [drainMessage_ignored payload (ignored_of_ne hpacket hping hdone herror)]
      at hround
    exact hgoes hround (Handled.refl s0) hsize

theorem drainLoop_full {s : VTRemoteEncContext Host} {offers : List WireOffer}
    (h : Following s offers) {fuel : Nat}
    (hfull : s.pktQueue.size - s.pktQueue.count = 0) :
    (drained 0 offers).Describes s (Call.loop (drainRound hostLink) (fuel + 1) s) := by
  have hround : drainRound hostLink s = .returned (.ok (some ())) s := by
    unfold drainRound
    rw [Call.get_bind, if_neg (Nat.not_lt.mpr (Nat.sub_eq_zero_iff_le.mp hfull))]
    rfl
  rw [drainLoop_last (r := .ok ()) hround]
  unfold drained
  exact ⟨rfl, drains_nothing (Took.refl s) rfl h (Bool.or_false _).symm⟩

/-- Without a sign of life the drain does not end. -/
theorem drainRound_starved {s : VTRemoteEncContext Host}
    (hoffers : WireOffers s.fd.incoming []) (hroom : s.pktQueue.count < s.pktQueue.size) :
    drainRound hostLink s = .blocked s := by
  have hnow : vtremoteReadMsgNonblock s.fd = .blocked s.fd := by
    generalize hincoming : s.fd.incoming = arrivals at hoffers
    cases hoffers
    have hready : checkReadable s.fd = .blocked s.fd := by
      unfold checkReadable
      rw [hincoming]
    exact Call.bind_of_blocked _ hready
  have hlink : onLink hostLink.readMsgNonblock s = .blocked s :=
    onLink_of_blocked hnow
  unfold drainRound
  rw [Call.get_bind, if_pos hroom, Call.bind_of_blocked _ (Call.attempt_of_blocked hlink)]

theorem drainLoop_offers {s : VTRemoteEncContext Host} {offers : List WireOffer}
    (h : Following s offers) {fuel : Nat} (hfuel : arrivalsLeft s.fd.incoming < fuel) :
    (drained (s.pktQueue.size - s.pktQueue.count) offers).Describes s
      (Call.loop (drainRound hostLink) fuel s) := by
  induction offers generalizing s fuel with
  | nil =>
      cases fuel with
      | zero => cases hfuel
      | succ fuel =>
      cases hsize : s.pktQueue.size - s.pktQueue.count with
      | zero => exact drainLoop_full h hsize
      | succ room =>
          have hroom : s.pktQueue.count < s.pktQueue.size := by omega
          have hround := drainRound_starved h.offers hroom
          unfold Call.loop
          rw [Call.bind_of_blocked _ hround]
          exact ⟨rfl, drains_nothing (Took.refl s) rfl h (Bool.or_false _).symm⟩
  | cons offer offers ih =>
      cases fuel with
      | zero => cases hfuel
      | succ fuel =>
      cases hsize : s.pktQueue.size - s.pktQueue.count with
      | zero => exact drainLoop_full h hsize
      | succ room =>
          have hroom : s.pktQueue.count < s.pktQueue.size := by omega
          rcases h with ⟨hgranted, hoffers⟩
          generalize hincoming : s.fd.incoming = arrivals at hoffers
          cases hoffers with
          | quiet hrest =>
              rw [drainLoop_last (r := .ok ())
                (drainRound_silent (Or.inl rfl) hincoming hroom)]
              exact ⟨rfl, drains_nothing (took_of_read _ s.fd.heap) rfl
                ⟨hgranted, hrest⟩ (Bool.or_false _).symm⟩
          | interrupted hrest =>
              rw [drainLoop_last (r := .ok ())
                (drainRound_silent (Or.inr rfl) hincoming hroom)]
              exact ⟨rfl, drains_nothing (took_of_read _ s.fd.heap) rfl
                ⟨hgranted, hrest⟩ (Bool.or_false _).symm⟩
          | message hbrings hstorable hrest =>
              exact drainLoop_message hsize hincoming hbrings hstorable hrest hgranted
                hfuel fun s1 h1 hfuel1 => ih h1 hfuel1
          | closed =>
              rw [drainLoop_last (r := .error averrorEof)
                (drainRound_closed hincoming hroom)]
              exact ⟨⟨averrorEof, rfl, averrorEof_ne_eagain⟩,
                drains_nothing (Took.refl s) rfl ⟨hgranted, hincoming ▸ .closed⟩
                  (Bool.or_false _).symm⟩

/-- The slots of the queue in a call that begins with this context. -/
def VTRemoteEncContext.slots {σ : Type} (s : VTRemoteEncContext σ) : Nat :=
  if s.pktQueue.size = 0 then max 4 (s.inflight * 2) else s.pktQueue.size

def VTRemoteEncContext.room {σ : Type} (s : VTRemoteEncContext σ) : Nat :=
  s.slots - s.pktQueue.count

structure OpensTo (d : Drainage) (s s' : VTRemoteEncContext Host) : Prop where
  took : Took d.packets d.pings s s'
  allocated : 0 < s'.pktQueue.size
  following : Following s' d.rest
  done : s'.done = (s.done || d.last = .done)

theorem allocateQueue_granted {s : VTRemoteEncContext Host} (hgranted : s.fd.Granted) :
    exists s', allocateQueue hostLink s = .returned (.ok ()) s' ∧ Took 0 0 s s' ∧
      s'.pktQueue.size = s.slots ∧ s'.done = s.done ∧
      s'.fd.incoming = s.fd.incoming ∧ s'.fd.Granted := by
  have hmalloc : onLink hostLink.malloc s = .returned _ _ :=
    onLink_of_returned hgranted.malloc.1
  unfold allocateQueue VTRemoteEncContext.slots
  rw [Call.get_bind]
  by_cases hsize : s.pktQueue.size = 0
  · have hcount : s.pktQueue.count = 0 :=
      Nat.eq_zero_of_le_zero (hsize ▸ s.pktQueue.count_le)
    rw [if_pos hsize, if_pos hsize, Call.bind_of_ok _ hmalloc]
    refine ⟨_, rfl, ⟨?_, rfl, rfl, (List.append_nil _).symm, rfl, rfl, rfl⟩,
      Ring.size_new _, rfl, rfl, hgranted.malloc.2⟩
    rw [hcount]
    rfl
  · rw [if_neg hsize, if_neg hsize]
    exact ⟨s, rfl, Took.refl s, rfl, rfl, rfl, hgranted⟩

theorem VTRemoteEncContext.slots_pos {σ : Type} (s : VTRemoteEncContext σ) :
    0 < s.slots := by
  unfold slots
  split
  · exact Nat.lt_of_lt_of_le (Nat.succ_pos 3) (Nat.le_max_left 4 _)
  · exact Nat.pos_of_ne_zero ‹_›

/-- What the beginning of a call does is said by what is offered. -/
theorem openingDrain_offers {s : VTRemoteEncContext Host} {offers : List WireOffer}
    (h : Following s offers) :
    (openingDrain hostLink s).Ends
      (fun r s' => (drained s.room offers).last.Result r ∧
        OpensTo (drained s.room offers) s s')
      (fun s' => (drained s.room offers).last = .waits ∧
        OpensTo (drained s.room offers) s s') := by
  rcases allocateQueue_granted h.granted with
    ⟨s1, hallocate, htook, hsize, hdone, hincoming, hgranted⟩
  have hfollowing : Following s1 offers := ⟨hgranted, hincoming ▸ h.offers⟩
  have hroom : s1.pktQueue.size - s1.pktQueue.count = s.room := by
    rw [hsize, htook.count]
    rfl
  have hloop := drainLoop_offers hfollowing (Nat.lt_succ_self _)
  rw [hroom] at hloop
  have hopened : forall s', DrainsTo (drained s.room offers) s1 s' ->
      OpensTo (drained s.room offers) s s' := by
    intro s' hs'
    have hall := htook.trans hs'.took
    rw [Nat.zero_add, Nat.zero_add] at hall
    refine ⟨hall, ?_, hs'.following, by rw [hs'.done, hdone]⟩
    rw [hs'.size, hsize]
    exact s.slots_pos
  unfold openingDrain
  rw [Call.bind_of_ok _ hallocate]
  have hdrain : (vtremoteDrainAvailablePackets hostLink s1).Ends
      (fun r s' => (drained s.room offers).last.Result r ∧
        DrainsTo (drained s.room offers) s1 s')
      (fun s' => (drained s.room offers).last = .waits ∧
        DrainsTo (drained s.room offers) s1 s') := hloop
  apply Call.ends_attempt_bind (hdrain.mono (fun _ _ h => h)
    (fun s' hs' => ⟨hs'.1, hopened s' hs'.2⟩))
  intro r s' hs'
  rcases hs' with ⟨hresult, hdrains⟩
  cases r with
  | ok _ => exact ⟨hresult, hopened s' hdrains⟩
  | error e =>
      have hagain : e ≠ averror eagain := by
        intro heagain
        subst heagain
        cases hlast : (drained s.room offers).last with
        | stops => rw [hlast] at hresult; cases hresult
        | done => rw [hlast] at hresult; cases hresult
        | waits => rw [hlast] at hresult; exact hresult
        | fails =>
            rw [hlast] at hresult
            rcases hresult with ⟨e, he, hne⟩
            cases he
            exact hne rfl
      simp only [if_neg hagain]
      exact ⟨hresult, hopened s' hdrains⟩

/-!
## The state behind the drain
-/

/-- What a call depends on behind its opening drain, beside the options. -/
structure Moment where
  queued : Nat
  inflightFrames : Nat
  done : Bool
  outgoing : Schedule Errno
  offers : List WireOffer

def VTRemoteEncContext.moment (s : VTRemoteEncContext Host) (offers : List WireOffer) :
    Moment where
  queued := s.pktQueue.count
  inflightFrames := s.inflightFrames
  done := s.done
  outgoing := s.fd.outgoing
  offers := offers

def VTRemoteEncContext.behindDrain (s : VTRemoteEncContext Host) (d : Drainage) :
    Moment where
  queued := s.pktQueue.count + d.packets
  inflightFrames := s.inflightFrames - d.packets
  done := s.done || d.last = .done
  outgoing := Schedule.behindPongs d.pings s.fd.outgoing
  offers := d.rest

theorem OpensTo.moment {d : Drainage} {s s' : VTRemoteEncContext Host}
    (h : OpensTo d s s') : s'.moment d.rest = s.behindDrain d := by
  unfold VTRemoteEncContext.moment VTRemoteEncContext.behindDrain
  rw [h.took.count, h.took.frames, h.done, h.took.outgoing]

def Moment.waitEnd (m : Moment) : AwaitEnd :=
  if m.done then .fails else (awaited m.offers).last

/-- The socket behind the answers to the PINGs that come before the packet. -/
def Moment.outgoingBehindWait (m : Moment) : Schedule Errno :=
  Schedule.behindPongs (awaited m.offers).pings m.outgoing

/-!
## Waiting for a packet
-/

structure Stalled (pings : Nat) (s s' : VTRemoteEncContext Host) : Prop where
  took : Took 0 pings s s'
  size : s'.pktQueue.size = s.pktQueue.size

structure Waited (pings : Nat) (s s' : VTRemoteEncContext Host) : Prop where
  count : s'.pktQueue.count = s.pktQueue.count
  size : s'.pktQueue.size = s.pktQueue.size
  frames : s'.inflightFrames = s.inflightFrames - 1
  outgoing : s'.fd.outgoing = Schedule.behindPongs pings s.fd.outgoing
  log : s'.fd.log = s.fd.log ++ Schedule.loggedPongs pings s.fd.outgoing
  options : s'.options = s.options
  kept : s'.flushing = s.flushing ∧ s'.frameBuf = s.frameBuf
  done : s'.done = s.done

def Awaited.Describes (a : Awaited) (s : VTRemoteEncContext Host)
    (o : Outcome AvError (VTRemoteEncContext Host) AVPacket) : Prop :=
  o.Ends (fun r s' => Following s' a.rest ∧
      ((a.last = .packet ∧ (exists pkt, r = .ok pkt) ∧ Waited a.pings s s') ∨
        (a.last = .fails ∧ (exists e, r = .error e) ∧ Stalled a.pings s s')))
    (fun s' => a.last = .waits ∧ Following s' a.rest ∧ Stalled a.pings s s')

theorem Awaited.Describes.after {pings : Nat} {a : Awaited}
    {s s1 : VTRemoteEncContext Host} {o : Outcome AvError (VTRemoteEncContext Host) AVPacket}
    (htook : Took 0 pings s s1) (hsize : s1.pktQueue.size = s.pktQueue.size)
    (hdone : s1.done = s.done) (h : a.Describes s1 o) :
    Awaited.Describes { a with pings := pings + a.pings } s o := by
  have hframes : s1.inflightFrames = s.inflightFrames := htook.frames
  apply h.mono
  · intro r s' hs'
    rcases hs' with ⟨hfollowing, ⟨hlast, hr, hwaited⟩ | ⟨hlast, hr, htook'⟩⟩
    · refine ⟨hfollowing, Or.inl ⟨hlast, hr, ?_⟩⟩
      constructor
      · rw [hwaited.count, htook.count, Nat.add_zero]
      · exact hwaited.size.trans hsize
      · rw [hwaited.frames, hframes]
      · rw [hwaited.outgoing, htook.outgoing, Schedule.behindPongs_add]
      · rw [hwaited.log, htook.log, htook.outgoing, Schedule.loggedPongs_add,
          List.append_assoc]
      · exact hwaited.options.trans htook.options
      · exact ⟨hwaited.kept.1.trans htook.kept.1, hwaited.kept.2.trans htook.kept.2⟩
      · exact hwaited.done.trans hdone
    · exact ⟨hfollowing, Or.inr ⟨hlast, hr, htook.trans htook'.took,
        htook'.size.trans hsize⟩⟩
  · exact fun s' hs' => ⟨hs'.1, hs'.2.1, htook.trans hs'.2.2.took,
      hs'.2.2.size.trans hsize⟩

theorem receiveMessage_packet {s : VTRemoteEncContext Host} {hdr : VTRemoteMsgHeader}
    {payload : Bytes} (htype : VTRemoteMsgType.ofCode hdr.type = some .packet)
    (hstorable : Storable hdr payload) (hgranted : s.fd.Granted)
    (hempty : s.pktQueue.count = 0) (hroom : 0 < s.pktQueue.size) :
    exists pkt s', receiveMessage hostLink hdr payload s =
        .returned (.ok (some pkt)) s' ∧
      Waited 0 s s' ∧ s'.fd.incoming = s.fd.incoming ∧ s'.fd.Granted := by
  rcases enqueuePacket_storable hstorable hgranted (hempty ▸ hroom) with
    ⟨queue, hcount, hsize, henqueue⟩
  have hgranted1 : ({ s.fd with heap := s.fd.heap.tail } : Host).Granted :=
    hgranted.malloc.2
  have hone : queue.count = 1 := by rw [hcount, hempty]
  let s1 : VTRemoteEncContext Host :=
    { s with
      fd := { s.fd with heap := s.fd.heap.tail }
      pktQueue := queue
      packetsRecv := s.packetsRecv + 1 }
  have hpop : popPacket hostLink s1 = .returned (.ok (.ok (queue.slot 0)))
      { s1 with
        fd := { s1.fd with heap := s1.fd.heap.tail }
        pktQueue := queue.pop } :=
    popPacket_of_packetRef hgranted1.malloc.1
  refine ⟨queue.slot 0, { s1 with
      fd := { s1.fd with heap := s1.fd.heap.tail }
      pktQueue := queue.pop
      inflightFrames := s.inflightFrames - 1 }, ?_,
    ⟨?_, ?_, rfl, rfl, (List.append_nil _).symm, rfl, ⟨rfl, rfl⟩, rfl⟩, rfl,
    hgranted1.malloc.2⟩
  · unfold receiveMessage popReceived
    simp only [htype]
    rw [Call.bind_of_ok _ henqueue, Call.get_bind,
      if_pos (show 0 < queue.count by rw [hone]; exact Nat.one_pos),
      Call.bind_of_ok _ hpop]
    rfl
  · show queue.count - 1 = _
    rw [hone, hempty]
  · show queue.pop.size = _
    simpa using hsize

theorem receiveMessage_ping {s : VTRemoteEncContext Host} {hdr : VTRemoteMsgHeader}
    (payload : Bytes) (htype : VTRemoteMsgType.ofCode hdr.type = some .ping) :
    exists s', receiveMessage hostLink hdr payload s = .returned (.ok none) s' ∧
      Handled 0 1 s s' := by
  rcases handleOther_pong htype s with ⟨s', hother, hs'⟩
  refine ⟨s', ?_, hs'⟩
  unfold receiveMessage
  simp only [htype]
  rw [Call.bind_of_ok _ hother]
  rfl

theorem receiveMessage_last {s : VTRemoteEncContext Host} {hdr : VTRemoteMsgHeader}
    (payload : Bytes) (htype : VTRemoteMsgType.ofCode hdr.type = some .done ∨
      VTRemoteMsgType.ofCode hdr.type = some .error) :
    exists e s', receiveMessage hostLink hdr payload s = .returned (.error e) s' ∧
      s'.fd = s.fd ∧ Stalled 0 s s' := by
  unfold receiveMessage handleOther
  rcases htype with htype | htype
  · simp only [htype]
    exact ⟨averrorEof, { s with done := true }, rfl, rfl,
      ⟨rfl, rfl, rfl, (List.append_nil _).symm, rfl, rfl, rfl⟩, rfl⟩
  · simp only [htype]
    exact ⟨averror eio, s, rfl, rfl, Took.refl s, rfl⟩

theorem receiveMessage_ignored {hdr : VTRemoteMsgHeader} (payload : Bytes)
    (h : Ignored hdr) : receiveMessage hostLink hdr payload = pure none := by
  unfold receiveMessage
  split
  · rename_i htype
    exact absurd rfl (h _ htype).1
  · rename_i htype
    exact absurd rfl (h _ htype).2.2.1
  · rw [handleOther_ignored h]
    rfl

theorem receiveRound_message {s : VTRemoteEncContext Host}
    {rest : List (Arrival Errno)} {hdr : VTRemoteMsgHeader} {payload : Bytes}
    (hbrings : Brings s.fd.incoming hdr payload rest) (hgranted : s.fd.Granted) :
    exists heap, ({ s.fd with incoming := rest, heap := heap } : Host).Granted ∧
      receiveRound hostLink s = receiveMessage hostLink hdr payload
        { s with fd := { s.fd with incoming := rest, heap := heap } } := by
  rcases vtremoteReadMsg_brings hbrings hgranted with ⟨heap, hread, hgranted'⟩
  have hlink : onLink hostLink.readMsg s = .returned _ _ := onLink_of_returned hread
  exact ⟨heap, hgranted', Call.bind_of_ok _ hlink⟩

theorem receiveLoop_message {s : VTRemoteEncContext Host} {hdr : VTRemoteMsgHeader}
    {payload : Bytes} {rest : List (Arrival Errno)} {offers : List WireOffer} {fuel : Nat}
    (hbrings : Brings s.fd.incoming hdr payload rest)
    (hstorable : VTRemoteMsgType.ofCode hdr.type = some .packet ->
      Storable hdr payload)
    (hoffers : WireOffers rest offers) (hgranted : s.fd.Granted)
    (hempty : s.pktQueue.count = 0) (hsize : 0 < s.pktQueue.size)
    (hfuel : arrivalsLeft s.fd.incoming < fuel + 1)
    (ih : forall s1, Following s1 offers -> s1.pktQueue.count = 0 ->
      0 < s1.pktQueue.size -> arrivalsLeft s1.fd.incoming < fuel ->
      (awaited offers).Describes s1 (Call.loop (receiveRound hostLink) fuel s1)) :
    (awaited (.message hdr payload :: offers)).Describes s
      (Call.loop (receiveRound hostLink) (fuel + 1) s) := by
  rcases receiveRound_message hbrings hgranted with ⟨heap, hgranted1, hround⟩
  have hconsumes : forall {s1}, receiveRound hostLink s = .returned (.ok none) s1 ->
      arrivalsLeft s1.fd.incoming < fuel := fun hcall =>
    Nat.lt_of_lt_of_le (receiveRound_consumes hostLink_consumes hcall)
      (Nat.le_of_lt_succ hfuel)
  let s0 : VTRemoteEncContext Host :=
    { s with fd := { s.fd with incoming := rest, heap := heap } }
  have hread : Took 0 0 s s0 := took_of_read rest heap
  have hlast : forall {e s1}, receiveRound hostLink s = .returned (.error e) s1 ->
      s1.fd = s0.fd -> Stalled 0 s0 s1 -> Awaited.Describes
        { pings := 0, last := .fails, rest := offers } s
        (Call.loop (receiveRound hostLink) (fuel + 1) s) := by
    intro e s1 hcall hfd hstalled
    unfold Call.loop
    rw [Call.bind_of_error _ hcall]
    refine ⟨⟨?_, ?_⟩, Or.inr ⟨rfl, ⟨e, rfl⟩, hread.trans hstalled.took, hstalled.size⟩⟩
    · rw [hfd]
      exact hgranted1
    · rw [hfd]
      exact hoffers
  have hgoes : forall {pings s1}, receiveRound hostLink s = .returned (.ok none) s1 ->
      Handled 0 pings s0 s1 -> Awaited.Describes
        { awaited offers with pings := (awaited offers).pings + pings } s
        (Call.loop (receiveRound hostLink) (fuel + 1) s) := by
    intro pings s1 hcall hhandled
    have hcount : s1.pktQueue.count = 0 := hhandled.took.count.trans hempty
    have hsize1 : 0 < s1.pktQueue.size := by
      rw [hhandled.size]
      exact hsize
    have hlater := ih s1 ⟨hhandled.granted hgranted1, hhandled.incoming ▸ hoffers⟩
      hcount hsize1 (hconsumes hcall)
    rw [Call.loop_of_none fuel hcall]
    have hall := hlater.after (hread.trans hhandled.took) hhandled.size hhandled.done
    simpa only [Nat.zero_add, Nat.add_comm pings] using hall
  unfold awaited
  split
  · rename_i htype
    rcases receiveMessage_packet (s := s0) htype (hstorable htype) hgranted1 hempty hsize
      with ⟨pkt, s1, hcall, hwaited, hincoming, hgranted'⟩
    rw [hcall] at hround
    unfold Call.loop
    rw [Call.bind_of_ok _ hround]
    exact ⟨⟨hgranted', hincoming ▸ hoffers⟩, Or.inl ⟨rfl, ⟨pkt, rfl⟩, hwaited.count,
      hwaited.size, hwaited.frames, hwaited.outgoing, hwaited.log, hwaited.options,
      hwaited.kept, hwaited.done⟩⟩
  · rename_i htype
    rcases receiveMessage_last (s := s0) payload (Or.inl htype) with
      ⟨e, s1, hcall, hfd, htook⟩
    exact hlast (hround.trans hcall) hfd htook
  · rename_i htype
    rcases receiveMessage_ping (s := s0) payload htype with ⟨s1, hcall, hhandled⟩
    exact hgoes (hround.trans hcall) hhandled
  · rename_i htype
    rcases receiveMessage_last (s := s0) payload (Or.inr htype) with
      ⟨e, s1, hcall, hfd, htook⟩
    exact hlast (hround.trans hcall) hfd htook
  · rename_i hpacket hdone hping herror
    rw [receiveMessage_ignored payload (ignored_of_ne hpacket hping hdone herror)]
      at hround
    exact hgoes hround (Handled.refl s0)

theorem receiveLoop_silent {s : VTRemoteEncContext Host} {arrival : Arrival Errno}
    (hsilent : arrival = .quiet ∨ arrival = .fail eintr)
    {rest : List (Arrival Errno)} (hincoming : s.fd.incoming = arrival :: rest)
    (fuel : Nat) :
    Call.loop (receiveRound hostLink) (fuel + 1) s =
      Call.loop (receiveRound hostLink) (fuel + 1)
        { s with fd := { s.fd with incoming := rest } } := by
  have hround : receiveRound hostLink s =
      receiveRound hostLink { s with fd := { s.fd with incoming := rest } } := by
    have hread : onLink hostLink.readMsg s = onLink hostLink.readMsg
        { s with fd := { s.fd with incoming := rest } } := by
      have hmsg : hostLink.readMsg s.fd =
          hostLink.readMsg { s.fd with incoming := rest } :=
        vtremoteReadMsg_silent hsilent hincoming
      unfold onLink Call.zoom
      rw [hmsg]
    unfold receiveRound
    show Call.bind _ _ s = Call.bind _ _ _
    unfold Call.bind
    rw [hread]
  show Call.bind _ _ s = Call.bind _ _ _
  unfold Call.bind
  rw [hround]

theorem receiveRound_starved {s : VTRemoteEncContext Host}
    (hoffers : WireOffers s.fd.incoming []) :
    receiveRound hostLink s = .blocked s := by
  have hread : vtremoteReadMsg s.fd = .blocked s.fd := by
    have hheader : readFull vtremoteHeaderSize s.fd = .blocked s.fd := by
      generalize hincoming : s.fd.incoming = arrivals at hoffers
      cases hoffers
      cases hfd : s.fd with
      | mk incoming outgoing heap log =>
          rw [hfd] at hincoming
          cases hincoming
          rfl
    exact Call.bind_of_blocked _ hheader
  have hlink : onLink hostLink.readMsg s = .blocked s := onLink_of_blocked hread
  exact Call.bind_of_blocked _ hlink

theorem receiveLoop_offers {s : VTRemoteEncContext Host} {offers : List WireOffer}
    (h : Following s offers) (hempty : s.pktQueue.count = 0)
    (hsize : 0 < s.pktQueue.size) {fuel : Nat}
    (hfuel : arrivalsLeft s.fd.incoming < fuel) :
    (awaited offers).Describes s (Call.loop (receiveRound hostLink) fuel s) := by
  induction offers generalizing s fuel with
  | nil =>
      cases fuel with
      | zero => cases hfuel
      | succ fuel =>
          have hblocked := receiveRound_starved h.offers
          unfold Call.loop
          rw [Call.bind_of_blocked _ hblocked]
          exact ⟨rfl, h, Took.refl s, rfl⟩
  | cons offer offers ih =>
      cases fuel with
      | zero => cases hfuel
      | succ fuel =>
          rcases h with ⟨hgranted, hoffers⟩
          have hsilent : forall {arrival : Arrival Errno} {rest : List (Arrival Errno)},
              arrival = .quiet ∨ arrival = .fail eintr ->
              s.fd.incoming = arrival :: rest -> WireOffers rest offers ->
              (awaited offers).Describes s
                (Call.loop (receiveRound hostLink) (fuel + 1) s) := by
            intro arrival rest hsilent hincoming hrest
            rw [receiveLoop_silent hsilent hincoming]
            have hfuel' : arrivalsLeft rest < fuel + 1 := by
              rw [hincoming] at hfuel
              rcases hsilent with rfl | rfl
              · exact Nat.lt_of_le_of_lt (Nat.le_add_left _ 1) hfuel
              · exact Nat.lt_of_le_of_lt (Nat.le_add_left _ 1) hfuel
            have hlater := ih (s := { s with fd := { s.fd with incoming := rest } })
              ⟨hgranted, hrest⟩ hempty hsize hfuel'
            have hall := hlater.after (took_of_read rest s.fd.heap) rfl rfl
            simpa only [Nat.zero_add] using hall
          generalize hincoming : s.fd.incoming = arrivals at hoffers
          cases hoffers with
          | quiet hrest => exact hsilent (Or.inl rfl) hincoming hrest
          | interrupted hrest => exact hsilent (Or.inr rfl) hincoming hrest
          | message hbrings hstorable hrest =>
              rw [<- hincoming] at hbrings
              exact receiveLoop_message hbrings hstorable hrest hgranted hempty hsize hfuel
                fun s1 h1 hempty1 hsize1 hfuel1 => ih h1 hempty1 hsize1 hfuel1
          | closed =>
              have hread := vtremoteReadMsg_closed hincoming
              have hlink : onLink hostLink.readMsg s = .returned (.error averrorEof) s :=
                onLink_of_returned hread
              have hround : receiveRound hostLink s = .returned (.error averrorEof) s :=
                Call.bind_of_error _ hlink
              unfold Call.loop
              rw [Call.bind_of_error _ hround]
              exact ⟨⟨hgranted, hincoming ▸ .closed⟩,
                Or.inr ⟨rfl, ⟨averrorEof, rfl⟩, Took.refl s, rfl⟩⟩

/-- What waiting for a packet does is said by what is offered. -/
theorem ffVtremoteCommonReceivePacket_offers {s : VTRemoteEncContext Host}
    {offers : List WireOffer} (h : Following s offers) (hempty : s.pktQueue.count = 0)
    (hsize : 0 < s.pktQueue.size) :
    (ffVtremoteCommonReceivePacket hostLink s).Ends
      (fun r s' => exists rest, Following s' rest ∧
        (((s.moment offers).waitEnd = .packet ∧ (exists pkt, r = .ok pkt) ∧
            Waited (awaited offers).pings s s') ∨
          ((s.moment offers).waitEnd = .fails ∧ (exists e, r = .error e) ∧
            exists pings, Stalled pings s s')))
      (fun s' => (s.moment offers).waitEnd = .waits ∧
        exists rest pings, Following s' rest ∧ Stalled pings s s') := by
  unfold ffVtremoteCommonReceivePacket Moment.waitEnd
  rw [Call.get_bind]
  show Outcome.Ends _ _ _
  by_cases hdone : s.done = true
  · have hmoment : (s.moment offers).done = true := hdone
    rw [if_pos hdone, if_pos hmoment]
    exact ⟨offers, h, Or.inr ⟨rfl, ⟨averrorEof, rfl⟩, 0, Took.refl s, rfl⟩⟩
  · have hmoment : ¬ (s.moment offers).done = true := hdone
    rw [if_neg hdone, if_neg hmoment, if_neg (by rw [hempty]; exact Nat.lt_irrefl 0)]
    apply (receiveLoop_offers h hempty hsize (Nat.lt_succ_self _)).mono
    · intro r s' hs'
      rcases hs' with ⟨hfollowing, hpacket | ⟨hlast, hr, hstalled⟩⟩
      · exact ⟨_, hfollowing, Or.inl hpacket⟩
      · exact ⟨_, hfollowing, Or.inr ⟨hlast, hr, _, hstalled⟩⟩
    · exact fun s' hs' => ⟨hs'.1, _, _, hs'.2.1, hs'.2.2⟩

end VTRemote
