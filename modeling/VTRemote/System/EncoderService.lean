import VTRemote.Client.PacketRing
import VTRemote.System.LocalSession

/-!
# The encoder as a client of its session

Whenever the server runs, and however large the window is: the packets that the
caller has got, the packets in the queue and the packets that are still to come
are together the ones with which the session answers what the client has sent.
-/

namespace VTRemote

attribute [local irreducible] cInt

/-!
## What is sent and read
-/

/-- The channels, and the messages that the client has sent through them. -/
structure Journal where
  system : System
  sent : List ChannelMessage

def onSystem {α : Type} (m : Call AvError System α) : Call AvError Journal α :=
  Call.zoom Journal.system (fun j system => { j with system }) m

def journalLink (codecs : PlaneCodecs) : Link Journal where
  sendMsg type payload :=
    Call.zoom Journal.system
      (fun j system => { system, sent := j.sent ++ [⟨type, payload.bytes⟩] })
      (System.sendMsg codecs type payload)
  readMsg := onSystem (System.readMsg codecs)
  readMsgNonblock := onSystem (System.readMsgNonblock codecs)
  malloc := fun j => .returned (.ok ()) j
  packetRef := fun j => .returned (.ok ()) j
  left j := j.system.left

def Journal.start (configuration : SessionConfiguration) (schedule : List Nat) :
    Watched Journal where
  fd := { system := System.start configuration schedule, sent := [] }
  events := []

def ChannelMessage.received (message : ChannelMessage) : VTRemoteMsgHeader × Bytes :=
  (message.header, message.body)

def Exchange.message : Exchange -> Option (VTRemoteMsgHeader × Bytes)
  | .read hdr payload => some (hdr, payload)
  | _ => none

def messagesRead (events : List Exchange) : List (VTRemoteMsgHeader × Bytes) :=
  events.filterMap Exchange.message

def packetsIn (messages : List (VTRemoteMsgHeader × Bytes)) : List AVPacket :=
  messages.filterMap fun message => incomingPacket message.1 message.2

def AllGranted (events : List Exchange) : Prop :=
  forall granted, .allocated granted ∈ events ∨ .referenced granted ∈ events ->
    granted = true

theorem AllGranted.of_append {events more : List Exchange}
    (h : AllGranted (events ++ more)) : AllGranted events := by
  intro granted hmem
  rcases hmem with hmem | hmem
  · exact h granted (Or.inl (List.mem_append_left more hmem))
  · exact h granted (Or.inr (List.mem_append_left more hmem))

theorem AllGranted.concat {events : List Exchange} {e : Exchange}
    (h : AllGranted events) (hallocated : e ≠ .allocated false)
    (hreferenced : e ≠ .referenced false) : AllGranted (events ++ [e]) := by
  intro granted hmem
  cases granted with
  | true => rfl
  | false =>
      rcases hmem with hmem | hmem
      · rcases List.mem_append.mp hmem with hold | hnew
        · exact h false (Or.inl hold)
        · exact absurd (List.mem_singleton.mp hnew).symm hallocated
      · rcases List.mem_append.mp hmem with hold | hnew
        · exact h false (Or.inr hold)
        · exact absurd (List.mem_singleton.mp hnew).symm hreferenced

theorem messagesRead_append (events more : List Exchange) :
    messagesRead (events ++ more) = messagesRead events ++ messagesRead more :=
  List.filterMap_append

theorem packetsIn_cons (hdr : VTRemoteMsgHeader) (payload : Bytes)
    (messages : List (VTRemoteMsgHeader × Bytes)) :
    packetsIn ((hdr, payload) :: messages) =
      (incomingPacket hdr payload).toList ++ packetsIn messages := by
  unfold packetsIn
  rw [List.filterMap_cons]
  cases incomingPacket hdr payload with
  | none => rfl
  | some pkt => rfl

theorem packetsIn_append (messages more : List (VTRemoteMsgHeader × Bytes)) :
    packetsIn (messages ++ more) = packetsIn messages ++ packetsIn more :=
  List.filterMap_append

/-!
## The messages
-/

/-- What was read and what is still to come are the answers of the session to
what was sent. -/
structure Accounted (codecs : PlaneCodecs) (session : StubCodecSession)
    (w : Watched Journal) : Prop where
  replies : messagesRead w.events ++
      (w.fd.system.toLocal codecs).replies.map ChannelMessage.received =
    ((stubService codecs).answers (some session) w.fd.sent).1.map
      ChannelMessage.received
  session : (w.fd.system.toLocal codecs).session =
    ((stubService codecs).answers (some session) w.fd.sent).2
  granted : AllGranted w.events

namespace System

variable {codecs : PlaneCodecs}

def Taken (codecs : PlaneCodecs) (y : System) :
    Except AvError (VTRemoteMsgHeader × Bytes) -> System -> Prop
  | .ok received, y' => exists message,
      received = message.received ∧
        (y.toLocal codecs).replies = message :: (y'.toLocal codecs).replies ∧
        (y'.toLocal codecs).session = (y.toLocal codecs).session
  | .error _, y' => y'.toLocal codecs = y.toLocal codecs

theorem takeMessage_taken {y y1 : System}
    {empty : Outcome AvError System (VTRemoteMsgHeader × Bytes)}
    (hsame : y1.toLocal codecs = y.toLocal codecs)
    (hempty : empty.Ends (Taken codecs y)
      (fun y' => y'.toLocal codecs = y.toLocal codecs)) :
    (takeMessage empty y1).Ends (Taken codecs y)
      (fun y' => y'.toLocal codecs = y.toLocal codecs) := by
  unfold takeMessage
  split
  · rename_i message rest hclient
    have htake := (stubService codecs).outlook_take (c := y1.parties.channels) hclient
    refine ⟨message, rfl, ?_, ?_⟩
    · rw [<- hsame]
      unfold toLocal
      rw [htake]
      rfl
    · rw [<- hsame]
      unfold toLocal
      rw [htake]
      rfl
  · split
    · exact hempty
    · exact hsame

theorem readMsg_taken (y : System) :
    (y.readMsg codecs).Ends (Taken codecs y)
      (fun y' => y'.toLocal codecs = y.toLocal codecs) := by
  have hsame := (@toLocal_await codecs (y.interleave codecs)
    (y.interleave codecs).parties.toServer.length
    ((y.interleave codecs).waits ++ [(y.interleave codecs).parties])).trans
      (toLocal_interleave y)
  exact takeMessage_taken hsame hsame

theorem readMsgNonblock_taken (y : System) :
    (y.readMsgNonblock codecs).Ends (Taken codecs y)
      (fun y' => y'.toLocal codecs = y.toLocal codecs) :=
  takeMessage_taken (toLocal_interleave y) (toLocal_interleave y)

end System

section Moves

variable {codecs : PlaneCodecs} {session : StubCodecSession}

def KeepsAccount (codecs : PlaneCodecs) (session : StubCodecSession)
    (w w' : Watched Journal) : Prop :=
  Accounted codecs session w -> Accounted codecs session w'

instance : IsPreorder (Watched Journal) (KeepsAccount codecs session) where
  refl _ := id
  trans _ _ _ h1 h2 := h2 ∘ h1

theorem watch_read_moves {m : Call AvError System (VTRemoteMsgHeader × Bytes)}
    (h : forall y, (m y).Ends (System.Taken codecs y)
      (fun y' => y'.toLocal codecs = y.toLocal codecs)) :
    Call.Moves (KeepsAccount codecs session)
      (Watched.watch (onSystem m) Watched.readEvents) := by
  intro w
  have htaken := h w.fd.system
  unfold Watched.watch onSystem
  cases hm : m w.fd.system with
  | returned r y =>
      rw [hm] at htaken
      rw [Call.zoom_of_returned hm]
      intro hw
      cases r with
      | error e =>
          have hsame : y.toLocal codecs = w.fd.system.toLocal codecs := htaken
          refine ⟨?_, ?_, ?_⟩
          · show messagesRead (w.events ++ []) ++ (y.toLocal codecs).replies.map _ = _
            rw [List.append_nil, hsame]
            exact hw.replies
          · show (y.toLocal codecs).session = _
            rw [hsame]
            exact hw.session
          · show AllGranted (w.events ++ [])
            rw [List.append_nil]
            exact hw.granted
      | ok received =>
          rcases htaken with ⟨message, rfl, hreplies, hsession⟩
          refine ⟨?_, ?_, ?_⟩
          · show messagesRead (w.events ++ [.read message.header message.body]) ++
              (y.toLocal codecs).replies.map _ = _
            rw [<- hw.replies, hreplies, messagesRead_append, List.append_assoc]
            rfl
          · show (y.toLocal codecs).session = _
            rw [hsession]
            exact hw.session
          · exact hw.granted.concat nofun nofun
  | blocked y =>
      rw [hm] at htaken
      rw [Call.zoom_of_blocked hm]
      intro hw
      have hsame : y.toLocal codecs = w.fd.system.toLocal codecs := htaken
      refine ⟨?_, ?_, hw.granted⟩
      · show messagesRead w.events ++ (y.toLocal codecs).replies.map _ = _
        rw [hsame]
        exact hw.replies
      · show (y.toLocal codecs).session = _
        rw [hsame]
        exact hw.session

theorem Accounted.concat {w : Watched Journal} (hw : Accounted codecs session w)
    {e : Exchange} (hmessage : e.message = none) (hallocated : e ≠ .allocated false)
    (hreferenced : e ≠ .referenced false) :
    Accounted codecs session { w with events := w.events ++ [e] } where
  replies := by
    have hread : messagesRead [e] = [] := by
      unfold messagesRead
      rw [List.filterMap_cons_none hmessage]
      rfl
    show messagesRead (w.events ++ [e]) ++ _ = _
    rw [messagesRead_append, hread, List.append_nil]
    exact hw.replies
  session := hw.session
  granted := hw.granted.concat hallocated hreferenced

theorem Accounted.send {w : Watched Journal} (hw : Accounted codecs session w)
    {y : System} {message : ChannelMessage}
    (h : y.toLocal codecs =
      { replies := (w.fd.system.toLocal codecs).replies ++
          ((stubService codecs).answers (w.fd.system.toLocal codecs).session
            [message]).1
        session := ((stubService codecs).answers
          (w.fd.system.toLocal codecs).session [message]).2 }) :
    Accounted codecs session
      { w with fd := { system := y, sent := w.fd.sent ++ [message] } } where
  replies := by
    show messagesRead w.events ++ (y.toLocal codecs).replies.map _ = _
    rw [h, (stubService codecs).answers_append, hw.session, List.map_append,
      List.map_append, <- List.append_assoc, hw.replies]
  session := by
    show (y.toLocal codecs).session = _
    rw [h, (stubService codecs).answers_append, hw.session]
  granted := hw.granted

theorem watch_send_moves (type : VTRemoteMsgType) (payload : Payload) :
    Call.Moves (KeepsAccount codecs session)
      ((watchedLink (journalLink codecs)).sendMsg type payload) := by
  intro w hw
  have hshows := @System.sendMsg_shows codecs type payload w.fd.system
  have hlocal := (Outcome.returned.inj hshows).2
  exact (hw.send hlocal).concat rfl nofun nofun

theorem journal_moves :
    (watchedLink (journalLink codecs)).Moves (KeepsAccount codecs session)
      (fun _ => True) where
  sendMsg type payload _ := watch_send_moves type payload
  readMsg := watch_read_moves System.readMsg_taken
  readMsgNonblock := watch_read_moves System.readMsgNonblock_taken
  malloc := fun _ hw => hw.concat rfl nofun nofun
  packetRef := fun _ hw => hw.concat rfl nofun nofun

end Moves

/-!
## The packets
-/

section Packets

variable {σ : Type} {s s1 s' : VTRemoteEncContext (Watched σ)}

/-- The packets of the PACKETs that were read have all been accepted. -/
structure AllAccepted (s : VTRemoteEncContext (Watched σ)) : Prop where
  order : InOrder s
  accepted : (PacketFlow.of s.fd.events).accepted =
    packetsIn (messagesRead s.fd.events)

theorem messagesRead_of_idle {more : List Exchange}
    (hidle : forall e, e ∈ more -> e.Idle) : packetsIn (messagesRead more) = [] := by
  induction more with
  | nil => rfl
  | cons e more ih =>
      have hrest := ih fun e' he' => hidle e' (List.mem_cons_of_mem e he')
      cases e with
      | read hdr payload =>
          have hnone : incomingPacket hdr payload = none :=
            if_neg (hidle _ List.mem_cons_self)
          show packetsIn ((hdr, payload) :: messagesRead more) = []
          rw [packetsIn_cons, hnone]
          exact hrest
      | sent type => exact hrest
      | allocated granted => exact hrest
      | referenced granted => exact hrest

theorem AllAccepted.rests (h : AllAccepted s) (hrests : Rests s s') :
    AllAccepted s' := by
  refine ⟨(h.order.rests hrests).1, ?_⟩
  rcases hrests with ⟨⟨more, hidle, hevents⟩, fd, _, _, _, _, _, rfl⟩
  show (PacketFlow.of fd.events).accepted = packetsIn (messagesRead fd.events)
  rw [hevents, PacketFlow.of_append,
    PacketFlow.foldl_idle h.order.holds.settled hidle, messagesRead_append,
    packetsIn_append, messagesRead_of_idle hidle, List.append_nil]
  exact h.accepted

theorem AllAccepted.enqueues (h : AllAccepted s) (henqueues : Enqueues s s') :
    AllAccepted (released s') := by
  have horder := (henqueues.inOrder h.order).1
  refine ⟨⟨horder.holds, horder.size, horder.room⟩, ?_⟩
  cases henqueues with
  | @stored hdr payload pkt fd hroom hpacket hevents =>
      have hread : packetsIn (messagesRead [.read hdr payload, .allocated true]) =
          [pkt] := by
        show packetsIn [(hdr, payload)] = [pkt]
        rw [packetsIn_cons, hpacket]
        rfl
      show (PacketFlow.of fd.events).accepted = packetsIn (messagesRead fd.events)
      rw [hevents, PacketFlow.of_append, PacketFlow.foldl_accepted _ hpacket,
        messagesRead_append, packetsIn_append, hread, <- h.accepted]
      rfl

theorem accepted_concat {events : List Exchange} {e : Exchange}
    (h : (PacketFlow.of events).accepted = packetsIn (messagesRead events))
    (haccepted : ((PacketFlow.of events).next e).accepted =
      (PacketFlow.of events).accepted) (hmessage : e.message = none) :
    (PacketFlow.of (events ++ [e])).accepted =
      packetsIn (messagesRead (events ++ [e])) := by
  have hread : messagesRead [e] = [] := by
    unfold messagesRead
    rw [List.filterMap_cons_none hmessage]
    rfl
  rw [PacketFlow.of_append, messagesRead_append, hread, List.append_nil, <- h]
  exact haccepted

theorem AllAccepted.takes {granted : Bool} (h : AllAccepted s)
    (htakes : Takes s granted s') : AllAccepted s' := by
  refine ⟨(htakes.inOrder h.order).1, ?_⟩
  cases htakes with
  | @popped fd hqueued hevents =>
      show (PacketFlow.of fd.events).accepted = packetsIn (messagesRead fd.events)
      rw [hevents]
      exact accepted_concat h.accepted rfl rfl

theorem AllAccepted.dispatches (h : AllAccepted s) (hdispatches : Dispatches s s') :
    AllAccepted s' := by
  refine ⟨(hdispatches.inOrder h.order).1, ?_⟩
  cases hdispatches with
  | @sent fd hevents =>
      show (PacketFlow.of fd.events).accepted = packetsIn (messagesRead fd.events)
      rw [hevents]
      exact accepted_concat h.accepted rfl rfl

/-- Where memory is granted, a packet is refused only if it cannot be parsed. -/
theorem AllAccepted.step {packets : List AVPacket} (h : AllAccepted s)
    (hstep : ClientStep s packets s') (hgranted : AllGranted s'.fd.events) :
    AllAccepted s' := by
  cases hstep with
  | rests hrests => exact h.rests hrests
  | allocates hsize hevents =>
      refine ⟨(h.order.allocates hsize hevents).1, ?_⟩
      rw [hevents]
      apply accepted_concat h.accepted _ rfl
      exact congrArg PacketFlow.accepted
        (PacketFlow.next_idle (e := .allocated true) h.order.holds.settled trivial)
  | @refuses hdr payload more fd _ hroom htype hmore hqueue hevents =>
      refine ⟨(h.order.refuses hroom hmore hqueue hevents).1, ?_⟩
      rcases hmore with ⟨rfl, hnone⟩ | rfl
      · have hread : packetsIn (messagesRead [.read hdr payload]) = [] := by
          show packetsIn [(hdr, payload)] = []
          rw [packetsIn_cons, hnone]
          rfl
        show (PacketFlow.of fd.events).accepted = packetsIn (messagesRead fd.events)
        rw [hevents, PacketFlow.of_append, messagesRead_append, packetsIn_append,
          hread, List.append_nil, <- h.accepted]
        exact congrArg PacketFlow.accepted
          (PacketFlow.next_read h.order.holds.settled hnone)
      · have hgranted' : AllGranted fd.events := hgranted
        have hmem : .allocated false ∈ fd.events := by
          rw [hevents]
          exact List.mem_append_right _
            (List.mem_cons_of_mem _ List.mem_cons_self)
        exact nomatch hgranted' false (Or.inl hmem)
  | accepts henqueues => exact h.enqueues henqueues
  | takes htakes => exact h.takes htakes
  | submits _ _ hrests hdispatches => exact (h.rests hrests).dispatches hdispatches
  | exchanges _ htakes hrests hdispatches =>
      exact ((h.takes htakes).rests hrests).dispatches hdispatches
  | awaits _ henqueues htakes hrests hdispatches =>
      exact (((h.enqueues henqueues).takes htakes).rests hrests).dispatches hdispatches

theorem Rests.grows (h : Rests s s') : s.fd.events <+: s'.fd.events := by
  rcases h with ⟨⟨more, _, hevents⟩, _⟩
  rw [hevents]
  exact List.prefix_append _ more

theorem Enqueues.grows (h : Enqueues s s') : s.fd.events <+: s'.fd.events := by
  cases h with
  | stored _ _ hevents =>
      show _ <+: Watched.events _
      rw [hevents]
      exact List.prefix_append _ _

theorem Takes.grows {granted : Bool} (h : Takes s granted s') :
    s.fd.events <+: s'.fd.events := by
  cases h with
  | popped _ hevents =>
      show _ <+: Watched.events _
      rw [hevents]
      exact List.prefix_append _ _

theorem Dispatches.grows (h : Dispatches s s') : s.fd.events <+: s'.fd.events := by
  cases h with
  | sent hevents =>
      show _ <+: Watched.events _
      rw [hevents]
      exact List.prefix_append _ _

theorem ClientStep.grows {packets : List AVPacket} (h : ClientStep s packets s') :
    s.fd.events <+: s'.fd.events := by
  cases h with
  | rests hrests => exact hrests.grows
  | allocates _ hevents =>
      show _ <+: Watched.events _
      rw [hevents]
      exact List.prefix_append _ _
  | refuses _ _ _ _ hevents =>
      show _ <+: Watched.events _
      rw [hevents]
      exact List.prefix_append _ _
  | accepts henqueues => exact henqueues.grows
  | takes htakes => exact htakes.grows
  | submits _ _ hrests hdispatches => exact hrests.grows.trans hdispatches.grows
  | exchanges _ htakes hrests hdispatches =>
      exact (htakes.grows.trans hrests.grows).trans hdispatches.grows
  | awaits _ henqueues htakes hrests hdispatches =>
      have htaken : s.fd.events <+: _ := henqueues.grows.trans htakes.grows
      exact (htaken.trans hrests.grows).trans hdispatches.grows

theorem AllAccepted.run {packets : List AVPacket} (h : AllAccepted s)
    (hrun : ClientRun s packets s') (hgranted : AllGranted s'.fd.events) :
    AllAccepted s' := by
  induction hrun with
  | refl => exact h
  | step _ hstep ih =>
      rcases hstep.grows with ⟨more, hmore⟩
      rw [<- hmore] at hgranted
      have hbefore := ih hgranted.of_append
      rw [hmore] at hgranted
      exact hbefore.step hstep hgranted

theorem references_granted {events : List Exchange} (h : AllGranted events) :
    forall granted, granted ∈ (PacketFlow.of events).references -> granted = true := by
  induction events using List.reverseRecOn with
  | nil => exact fun granted hmem => absurd hmem List.not_mem_nil
  | append_singleton events e ih =>
      intro granted hmem
      rw [PacketFlow.of_append] at hmem
      have hbefore := ih h.of_append granted
      cases e with
      | sent type => exact hbefore hmem
      | read hdr payload => exact hbefore hmem
      | allocated granted' => exact hbefore hmem
      | referenced granted' =>
          rcases List.mem_append.mp hmem with hold | hnew
          · exact hbefore hold
          · rw [List.mem_singleton.mp hnew]
            exact h granted' (Or.inr (List.mem_append_right events List.mem_cons_self))

/-- Over channels that do not fail and with memory granted, nothing is lost, doubled or
put out of order between the session and the caller, whatever the schedule: the packets that the caller has got, those in the
queue and those that are still to come are the packets with which the session
answers the messages that the client has sent.  Wherever a call waits for good,
this is so of the messages that were read and those still to come. -/
theorem encodeRun_answers (codecs : PlaneCodecs) (libs : CompressionLibraries)
    (configuration : SessionConfiguration) (schedule : List Nat)
    (inputs : List EncodeInput) (inflight : Nat) (wireCompression : Int)
    (codecId : AVCodecID) :
    (encodeRun (watchedLink (journalLink codecs)) libs inputs
      (.afterInit (Journal.start configuration schedule) inflight wireCompression
        codecId)).Ends
      (fun r s => exists results, r = .ok results ∧
        deliveredPackets results ++ s.pktQueue.toList ++
            packetsIn ((s.fd.fd.system.toLocal codecs).replies.map
              ChannelMessage.received) =
          packetsIn (((stubService codecs).answers
            (some (StubCodecSession.configure configuration).2)
              s.fd.fd.sent).1.map ChannelMessage.received))
      (fun s =>
        messagesRead s.fd.events ++
            (s.fd.fd.system.toLocal codecs).replies.map ChannelMessage.received =
          ((stubService codecs).answers
            (some (StubCodecSession.configure configuration).2)
              s.fd.fd.sent).1.map ChannelMessage.received) := by
  let session := (StubCodecSession.configure configuration).2
  let s0 : VTRemoteEncContext (Watched Journal) :=
    .afterInit (Journal.start configuration schedule) inflight wireCompression codecId
  have hinit : Accounted codecs session (Journal.start configuration schedule) :=
    ⟨rfl, rfl, fun _ hmem => hmem.elim (absurd · List.not_mem_nil)
      (absurd · List.not_mem_nil)⟩
  have hall0 : AllAccepted s0 :=
    ⟨inOrder_afterInit _ inflight wireCompression codecId, rfl⟩
  have hmoves := encodeRun_moves (@journal_moves codecs session)
    libs trivial trivial trivial inputs s0
  apply (hmoves.and (encodeRun_run inputs s0)).mono
  · intro r s h
    rcases h with ⟨⟨hkeeps, _⟩, results, rfl, hrun⟩
    have haccount : Accounted codecs session s.fd := hkeeps hinit
    have hall := hall0.run hrun haccount.granted
    have hdelivered : s.delivered = deliveredPackets results :=
      (hrun.inOrder hall0.order).2
    have htaken := PacketFlow.delivered_of_granted hall.order.holds.taken
      (references_granted haccount.granted)
    refine ⟨results, rfl, ?_⟩
    rw [<- hdelivered, hall.order.holds.queue]
    show (PacketFlow.of s.fd.events).delivered ++ _ ++ _ = _
    rw [htaken, PacketFlow.taken_append_queued, hall.accepted, <- packetsIn_append,
      haccount.replies]
  · intro s h
    have haccount : Accounted codecs session s.fd := h.1.1 hinit
    exact haccount.replies

end Packets
end VTRemote
