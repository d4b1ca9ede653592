import VTRemote.Client.QueueRuns
import VTRemote.Client.StreamRuns

/-!
# Packets in the order of their arrival

What was read and what the allocator answered say which packets were accepted
and which of them have left the queue.  The ring of the client holds the others,
in order, whatever its server does.
-/

namespace VTRemote

attribute [local irreducible] cInt

/-!
## The queue that the events describe
-/

/-- The packet of the PACKET that was read last, until memory has been asked for
it; the packets for which memory was granted; and for those of them that have
left the queue, in order, whether their reference was granted. -/
structure PacketFlow where
  incoming : Option AVPacket
  accepted : List AVPacket
  references : List Bool

namespace PacketFlow

def start : PacketFlow where
  incoming := none
  accepted := []
  references := []

def next (f : PacketFlow) : Exchange -> PacketFlow
  | .sent _ => f
  | .read hdr payload => { f with incoming := incomingPacket hdr payload }
  | .allocated granted =>
      { f with
        incoming := none
        accepted := f.accepted ++ if granted then f.incoming.toList else [] }
  | .referenced granted => { f with references := f.references ++ [granted] }

def of (events : List Exchange) : PacketFlow := events.foldl next start

def taken (f : PacketFlow) : List AVPacket := f.accepted.take f.references.length

def queued (f : PacketFlow) : List AVPacket := f.accepted.drop f.references.length

def delivered (f : PacketFlow) : List AVPacket :=
  ((f.taken.zip f.references).filter Prod.snd).map Prod.fst

theorem of_append (events more : List Exchange) :
    of (events ++ more) = more.foldl next (of events) :=
  List.foldl_append

theorem taken_append_queued (f : PacketFlow) : f.taken ++ f.queued = f.accepted :=
  List.take_append_drop _ _

theorem next_read {f : PacketFlow} (hsettled : f.incoming = none)
    {hdr : VTRemoteMsgHeader} {payload : Bytes}
    (hnone : incomingPacket hdr payload = none) : f.next (.read hdr payload) = f := by
  show { f with incoming := incomingPacket hdr payload } = f
  rw [hnone, <- hsettled]

/-- While no packet is waiting for memory, idle events change nothing. -/
theorem next_idle {f : PacketFlow} (hsettled : f.incoming = none) {e : Exchange}
    (he : e.Idle) : f.next e = f := by
  cases e with
  | sent type => rfl
  | read hdr payload =>
      have hnone : incomingPacket hdr payload = none := if_neg he
      exact next_read hsettled hnone
  | allocated granted =>
      have hnothing : (if granted then f.incoming.toList else []) = [] := by
        rw [hsettled]
        exact ite_self []
      show { f with incoming := none, accepted := f.accepted ++ _ } = f
      rw [hnothing, List.append_nil, <- hsettled]
  | referenced granted => exact absurd he id

theorem foldl_idle {f : PacketFlow} (hsettled : f.incoming = none)
    {more : List Exchange} (hidle : forall e, e ∈ more -> e.Idle) :
    more.foldl next f = f := by
  induction more with
  | nil => rfl
  | cons e more ih =>
      rw [List.foldl_cons, next_idle hsettled (hidle e List.mem_cons_self)]
      exact ih fun e' he' => hidle e' (List.mem_cons_of_mem e he')

def accept (f : PacketFlow) (pkt : AVPacket) : PacketFlow :=
  { f with incoming := none, accepted := f.accepted ++ [pkt] }

theorem foldl_accepted (f : PacketFlow) {hdr : VTRemoteMsgHeader} {payload : Bytes}
    {pkt : AVPacket} (hpacket : incomingPacket hdr payload = some pkt) :
    [.read hdr payload, .allocated true].foldl next f = f.accept pkt := by
  show { f with
    incoming := none
    accepted := f.accepted ++ (incomingPacket hdr payload).toList } = _
  rw [hpacket]
  rfl

theorem foldl_refused {f : PacketFlow} (hsettled : f.incoming = none)
    (hdr : VTRemoteMsgHeader) (payload : Bytes) :
    [.read hdr payload, .allocated false].foldl next f = f := by
  show { f with incoming := none, accepted := f.accepted ++ [] } = f
  rw [List.append_nil, <- hsettled]

def take (f : PacketFlow) (granted : Bool) : PacketFlow :=
  { f with references := f.references ++ [granted] }

section Order

variable {f : PacketFlow} (h : f.references.length ≤ f.accepted.length)
include h

theorem queued_accept (pkt : AVPacket) :
    (f.accept pkt).queued = f.queued ++ [pkt] :=
  List.drop_append_of_le_length h

theorem delivered_accept (pkt : AVPacket) :
    (f.accept pkt).delivered = f.delivered := by
  have htaken : (f.accept pkt).taken = f.taken := List.take_append_of_le_length h
  unfold delivered
  rw [htaken]
  rfl

theorem length_taken : f.taken.length = f.references.length := by
  unfold taken
  rw [List.length_take, Nat.min_eq_left h]

end Order

theorem take_of_queued {f : PacketFlow} {pkt : AVPacket} {rest : List AVPacket}
    (hqueued : f.queued = pkt :: rest) (granted : Bool) :
    (f.take granted).queued = rest ∧
      (f.take granted).references.length ≤ (f.take granted).accepted.length ∧
      (f.take granted).delivered =
        f.delivered ++ if granted then [pkt] else [] := by
  have hlt : f.references.length < f.accepted.length := by
    have hlength := congrArg List.length hqueued
    unfold queued at hlength
    rw [List.length_drop, List.length_cons] at hlength
    omega
  have hlength : (f.references ++ [granted]).length = f.references.length + 1 :=
    List.length_append
  have hrest : f.accepted.drop (f.references.length + 1) = rest := by
    have hdrop : f.accepted.drop f.references.length = pkt :: rest := hqueued
    rw [<- List.drop_drop, hdrop]
    rfl
  have htaken : (f.take granted).taken = f.taken ++ [pkt] := by
    have hsplit := f.taken_append_queued
    have hshort := f.length_taken (Nat.le_of_lt hlt)
    show f.accepted.take (f.references ++ [granted]).length = _
    rw [hlength, <- hshort, <- hsplit, hqueued, List.take_length_add_append]
    rfl
  refine ⟨?_, ?_, ?_⟩
  · show f.accepted.drop (f.references ++ [granted]).length = rest
    rw [hlength]
    exact hrest
  · show (f.references ++ [granted]).length ≤ f.accepted.length
    rw [hlength]
    exact hlt
  · show (((f.take granted).taken.zip (f.references ++ [granted])).filter
      Prod.snd).map Prod.fst = _
    rw [htaken, List.zip_append (f.length_taken (Nat.le_of_lt hlt)),
      List.filter_append, List.map_append]
    cases granted with
    | false => rfl
    | true => rfl

end PacketFlow
/-!
## Room in the ring
-/

/-- Whenever a PACKET is read, fewer packets are queued than the ring has slots. -/
def RoomForPackets (size : Nat) (events : List Exchange) : Prop :=
  forall past hdr payload, past ++ [.read hdr payload] <+: events ->
    VTRemoteMsgType.ofCode hdr.type = some .packet ->
      (PacketFlow.of past).queued.length < size

theorem prefix_append_cases {past events more : List Exchange} {e : Exchange}
    (h : past ++ [e] <+: events ++ more) :
    past ++ [e] <+: events ∨
      exists between, past = events ++ between ∧ between ++ [e] <+: more := by
  rcases List.prefix_or_prefix_of_prefix h (List.prefix_append events more)
    with hbefore | ⟨tail, htail⟩
  · exact .inl hbefore
  · rcases List.eq_nil_or_concat tail with rfl | ⟨between, last, rfl⟩
    · rw [List.append_nil] at htail
      exact .inl (htail ▸ List.prefix_rfl)
    · rw [List.concat_eq_append, <- List.append_assoc] at htail
      rcases List.append_inj' htail rfl with ⟨hpast, hlast⟩
      rw [<- hpast, List.append_assoc, List.prefix_append_right_inj] at h
      exact .inr ⟨between, hpast.symm, h⟩

theorem RoomForPackets.append {size : Nat} {events more : List Exchange}
    (h : RoomForPackets size events)
    (hmore : forall e, e ∈ more -> e.isPacket = false) :
    RoomForPackets size (events ++ more) := by
  intro past hdr payload hpast htype
  rcases prefix_append_cases hpast with hbefore | ⟨between, _, hrest⟩
  · exact h past hdr payload hbefore htype
  · have hread := hmore (.read hdr payload)
      (hrest.subset (List.mem_append_right between List.mem_cons_self))
    exact absurd htype (of_decide_eq_false hread)

theorem RoomForPackets.concat {size : Nat} {events : List Exchange} {e : Exchange}
    (h : RoomForPackets size events) (he : e.isPacket = false) :
    RoomForPackets size (events ++ [e]) := by
  apply h.append
  intro e' he'
  rw [List.mem_singleton.mp he']
  exact he

theorem RoomForPackets.read {size : Nat} {events : List Exchange}
    {hdr : VTRemoteMsgHeader} {payload : Bytes} (h : RoomForPackets size events)
    (hroom : (PacketFlow.of events).queued.length < size) :
    RoomForPackets size (events ++ [.read hdr payload]) := by
  intro past hdr' payload' hpast htype
  rcases prefix_append_cases hpast with hbefore | ⟨between, hbetween, hrest⟩
  · exact h past hdr' payload' hbefore htype
  · have hlength := hrest.length_le
    rw [List.length_append, List.length_singleton, List.length_singleton] at hlength
    have hnil : between = [] :=
      List.eq_nil_of_length_eq_zero (Nat.le_zero.mp (Nat.le_of_succ_le_succ hlength))
    rw [hbetween, hnil, List.append_nil]
    exact hroom

/-!
## What the ring holds
-/

/-- The ring holds the queued packets, and no packet is waiting for memory. -/
structure RingHolds (f : PacketFlow) (r : Ring AVPacket) : Prop where
  settled : f.incoming = none
  taken : f.references.length ≤ f.accepted.length
  queue : r.toList = f.queued
  head : 0 < r.size -> r.head < r.size

section RingHolds

variable {f : PacketFlow} {r : Ring AVPacket}

theorem RingHolds.length_queued (h : RingHolds f r) : f.queued.length = r.count := by
  rw [<- h.queue, Ring.length_toList]

theorem RingHolds.store (h : RingHolds f r) (x : AVPacket)
    (hroom : r.count < r.size) : RingHolds f (r.store x) where
  settled := h.settled
  taken := h.taken
  queue := (Ring.toList_store x hroom).trans h.queue
  head hsize := by
    rw [Ring.size_store] at hsize ⊢
    exact h.head hsize

theorem RingHolds.allocated (h : RingHolds f r) (hsize : r.size = 0) (n : Nat) :
    RingHolds f (Ring.new n) where
  settled := h.settled
  taken := h.taken
  queue := by
    have hcount : r.count = 0 := Nat.le_zero.mp (hsize ▸ r.count_le)
    have hnone : f.queued = [] := by
      apply List.eq_nil_of_length_eq_zero
      rw [h.length_queued, hcount]
    rw [hnone]
    rfl
  head hpos := hpos

theorem RingHolds.push (h : RingHolds f r) (pkt : AVPacket)
    (hroom : r.count < r.size) :
    RingHolds (f.accept pkt) ((r.store default).store pkt).grow where
  settled := rfl
  taken := by
    show f.references.length ≤ (f.accepted ++ [pkt]).length
    rw [List.length_append]
    exact Nat.le_trans h.taken (Nat.le_add_right _ _)
  queue := by
    rw [Ring.toList_push_again default pkt hroom, f.queued_accept h.taken, h.queue]
  head hsize := by
    have hhead : ((r.store default).store pkt).grow.head = r.head := by
      unfold Ring.grow
      split
      · rfl
      · rfl
    rw [Ring.size_grow, Ring.size_store, Ring.size_store] at hsize ⊢
    rw [hhead]
    exact h.head hsize

theorem RingHolds.pop (h : RingHolds f r) (hqueued : 0 < r.count) (granted : Bool) :
    RingHolds (f.take granted) r.pop ∧ (f.take granted).delivered =
      f.delivered ++ if granted then [r.slot 0] else [] := by
  have hcons : f.queued = r.slot 0 :: r.pop.toList := by
    rw [<- h.queue]
    exact Ring.toList_eq_cons hqueued
  rcases PacketFlow.take_of_queued hcons granted with ⟨hrest, hle, hdelivered⟩
  refine ⟨⟨h.settled, hle, hrest.symm, ?_⟩, hdelivered⟩
  intro hsize
  rw [Ring.size_pop] at hsize ⊢
  exact Nat.mod_lt _ hsize

end RingHolds

/-!
## The invariant
-/

section Steps

variable {σ : Type} {s s1 s' : VTRemoteEncContext (Watched σ)}

structure InOrder (s : VTRemoteEncContext (Watched σ)) : Prop where
  holds : RingHolds (.of s.fd.events) s.pktQueue
  size : 0 < s.pktQueue.size -> s.pktQueue.size = max 4 (s.inflight * 2)
  room : RoomForPackets (max 4 (s.inflight * 2)) s.fd.events

def VTRemoteEncContext.delivered (s : VTRemoteEncContext (Watched σ)) :
    List AVPacket :=
  (PacketFlow.of s.fd.events).delivered

theorem InOrder.rests (h : InOrder s) (hrests : Rests s s') :
    InOrder s' ∧ s'.delivered = s.delivered := by
  rcases hrests with ⟨⟨more, hidle, hevents⟩, fd, _, _, _, _, _, rfl⟩
  have hflow : PacketFlow.of fd.events = .of s.fd.events := by
    rw [hevents, PacketFlow.of_append]
    exact PacketFlow.foldl_idle h.holds.settled hidle
  refine ⟨⟨?_, h.size, ?_⟩, congrArg PacketFlow.delivered hflow⟩
  · show RingHolds (.of fd.events) s.pktQueue
    rw [hflow]
    exact h.holds
  · show RoomForPackets _ fd.events
    rw [hevents]
    exact h.room.append fun e he => (hidle e he).not_packet

theorem InOrder.room_read (h : InOrder s)
    (hroom : s.pktQueue.count < s.pktQueue.size) (hdr : VTRemoteMsgHeader)
    (payload : Bytes) :
    RoomForPackets (max 4 (s.inflight * 2))
      (s.fd.events ++ [.read hdr payload]) := by
  apply h.room.read
  rw [h.holds.length_queued, <- h.size (Nat.lt_of_le_of_lt (Nat.zero_le _) hroom)]
  exact hroom

theorem Enqueues.inOrder (henqueues : Enqueues s s') (h : InOrder s) :
    InOrder s' ∧ s'.delivered = s.delivered := by
  cases henqueues with
  | @stored hdr payload pkt fd hroom hpacket hevents =>
      have hflow : PacketFlow.of fd.events = (PacketFlow.of s.fd.events).accept pkt := by
        rw [hevents, PacketFlow.of_append]
        exact PacketFlow.foldl_accepted _ hpacket
      refine ⟨⟨?_, ?_, ?_⟩, ?_⟩
      · show RingHolds (.of fd.events) ((s.pktQueue.store default).store pkt).grow
        rw [hflow]
        exact h.holds.push pkt hroom
      · show 0 < (Ring.grow _).size -> (Ring.grow _).size = max 4 (s.inflight * 2)
        rw [Ring.size_grow, Ring.size_store, Ring.size_store]
        exact h.size
      · show RoomForPackets _ fd.events
        rw [hevents, <- List.singleton_append, <- List.append_assoc]
        exact (h.room_read hroom hdr payload).concat rfl
      · show (PacketFlow.of fd.events).delivered = _
        rw [hflow]
        exact PacketFlow.delivered_accept h.holds.taken pkt

theorem Takes.inOrder {granted : Bool} (htakes : Takes s granted s') (h : InOrder s) :
    InOrder s' ∧ s'.delivered = s.delivered ++ s.taken granted := by
  cases htakes with
  | @popped fd hqueued hevents =>
      have hflow : PacketFlow.of fd.events =
          (PacketFlow.of s.fd.events).take granted := by
        rw [hevents, PacketFlow.of_append]
        rfl
      rcases h.holds.pop hqueued granted with ⟨hholds, hdelivered⟩
      refine ⟨⟨?_, ?_, ?_⟩, ?_⟩
      · show RingHolds (.of fd.events) s.pktQueue.pop
        rw [hflow]
        exact hholds
      · show 0 < s.pktQueue.pop.size -> s.pktQueue.pop.size = _
        rw [Ring.size_pop]
        exact h.size
      · show RoomForPackets _ fd.events
        rw [hevents]
        exact h.room.concat rfl
      · show (PacketFlow.of fd.events).delivered = _
        rw [hflow]
        exact hdelivered

theorem Dispatches.inOrder (hdispatches : Dispatches s s') (h : InOrder s) :
    InOrder s' ∧ s'.delivered = s.delivered := by
  cases hdispatches with
  | @sent fd hevents =>
      have hflow : PacketFlow.of fd.events = .of s.fd.events := by
        rw [hevents, PacketFlow.of_append]
        rfl
      refine ⟨⟨?_, h.size, ?_⟩, congrArg PacketFlow.delivered hflow⟩
      · show RingHolds (.of fd.events) s.pktQueue
        rw [hflow]
        exact h.holds
      · show RoomForPackets _ fd.events
        rw [hevents]
        exact h.room.concat rfl

theorem InOrder.allocates (h : InOrder s) {fd : Watched σ}
    (hsize : s.pktQueue.size = 0)
    (hevents : fd.events = s.fd.events ++ [.allocated true]) :
    InOrder { s with fd := fd, pktQueue := Ring.new (max 4 (s.inflight * 2)) } ∧
      (PacketFlow.of fd.events).delivered = s.delivered := by
  have hflow : PacketFlow.of fd.events = .of s.fd.events := by
    have hidle : (Exchange.allocated true).Idle := trivial
    rw [hevents, PacketFlow.of_append]
    exact PacketFlow.next_idle h.holds.settled hidle
  refine ⟨⟨?_, fun _ => Ring.size_new _, ?_⟩, congrArg PacketFlow.delivered hflow⟩
  · show RingHolds (.of fd.events) (Ring.new _)
    rw [hflow]
    exact h.holds.allocated hsize _
  · show RoomForPackets _ fd.events
    rw [hevents]
    exact h.room.concat rfl

theorem InOrder.refuses (h : InOrder s) {hdr : VTRemoteMsgHeader} {payload : Bytes}
    {more : List Exchange} {fd : Watched σ} {pktQueue : Ring AVPacket}
    (hroom : s.pktQueue.count < s.pktQueue.size)
    (hmore : more = [] ∧ incomingPacket hdr payload = none ∨
      more = [.allocated false])
    (hqueue : pktQueue = s.pktQueue ∨ pktQueue = s.pktQueue.store default)
    (hevents : fd.events = s.fd.events ++ .read hdr payload :: more) :
    InOrder { s with fd := fd, pktQueue := pktQueue } ∧
      (PacketFlow.of fd.events).delivered = s.delivered := by
  have hread := h.room_read hroom hdr payload
  have hholds : RingHolds (.of s.fd.events) pktQueue := by
    rcases hqueue with rfl | rfl
    · exact h.holds
    · exact h.holds.store default hroom
  have hsize : pktQueue.size = s.pktQueue.size := by
    rcases hqueue with rfl | rfl
    · rfl
    · exact Ring.size_store _ _
  have hflow : PacketFlow.of fd.events = .of s.fd.events := by
    rw [hevents, PacketFlow.of_append]
    rcases hmore with ⟨rfl, hnone⟩ | rfl
    · exact PacketFlow.next_read h.holds.settled hnone
    · exact PacketFlow.foldl_refused h.holds.settled hdr payload
  have hroom' : RoomForPackets (max 4 (s.inflight * 2)) fd.events := by
    rw [hevents]
    rcases hmore with ⟨rfl, _⟩ | rfl
    · exact hread
    · rw [<- List.singleton_append, <- List.append_assoc]
      exact hread.concat rfl
  refine ⟨⟨?_, ?_, hroom'⟩, congrArg PacketFlow.delivered hflow⟩
  · show RingHolds (.of fd.events) pktQueue
    rw [hflow]
    exact hholds
  · show 0 < pktQueue.size -> pktQueue.size = _
    rw [hsize]
    exact h.size

/-!
## Runs
-/

/-- One step keeps the order, and the caller gets what it passes on. -/
theorem InOrder.step {packets : List AVPacket} (h : InOrder s)
    (hstep : ClientStep s packets s') :
    InOrder s' ∧ s'.delivered = s.delivered ++ packets := by
  have hnothing : forall {s' : VTRemoteEncContext (Watched σ)}, InOrder s' ∧ s'.delivered = s.delivered ->
      InOrder s' ∧ s'.delivered = s.delivered ++ [] := by
    intro s' h
    rcases h with ⟨horder, hsame⟩
    exact ⟨horder, hsame.trans (List.append_nil _).symm⟩
  have hsends : forall {s1 s2 s' : VTRemoteEncContext (Watched σ)}, InOrder s1 ->
      Rests s1 s2 -> Dispatches s2 s' -> InOrder s' ∧ s'.delivered = s1.delivered := by
    intro s1 s2 s' h1 hrests hdispatches
    rcases h1.rests hrests with ⟨h2, hsame⟩
    rcases hdispatches.inOrder h2 with ⟨h3, hsame'⟩
    exact ⟨h3, hsame'.trans hsame⟩
  have haccepts : forall {s1 : VTRemoteEncContext (Watched σ)}, Enqueues s s1 ->
      InOrder (released s1) ∧ (released s1).delivered = s.delivered := by
    intro s1 henqueues
    rcases henqueues.inOrder h with ⟨h1, hsame⟩
    exact ⟨⟨h1.holds, h1.size, h1.room⟩, hsame⟩
  cases hstep with
  | rests hrests => exact hnothing (h.rests hrests)
  | allocates hsize hevents => exact hnothing (h.allocates hsize hevents)
  | refuses hroom _ hmore hqueue hevents =>
      exact hnothing (h.refuses hroom hmore hqueue hevents)
  | accepts henqueues => exact hnothing (haccepts henqueues)
  | takes htakes => exact htakes.inOrder h
  | submits _ _ hrests hdispatches => exact hnothing (hsends h hrests hdispatches)
  | exchanges _ htakes hrests hdispatches =>
      rcases htakes.inOrder h with ⟨h1, htaken⟩
      rcases hsends h1 hrests hdispatches with ⟨h2, hsame⟩
      exact ⟨h2, hsame.trans htaken⟩
  | awaits _ henqueues htakes hrests hdispatches =>
      rcases haccepts henqueues with ⟨h1, hsame⟩
      rcases htakes.inOrder h1 with ⟨h2, htaken⟩
      rcases hsends h2 hrests hdispatches with ⟨h3, hsame'⟩
      rw [hsame] at htaken
      exact ⟨h3, hsame'.trans htaken⟩

theorem ClientRun.inOrder {packets : List AVPacket} (hrun : ClientRun s packets s')
    (h : InOrder s) : InOrder s' ∧ s'.delivered = s.delivered ++ packets := by
  induction hrun with
  | refl => exact ⟨h, (List.append_nil _).symm⟩
  | step _ hstep ih =>
      rcases ih.1.step hstep with ⟨horder, hdelivered⟩
      rw [ih.2, List.append_assoc] at hdelivered
      exact ⟨horder, hdelivered⟩

theorem inOrder_afterInit (fd : σ) (inflight : Nat) (wireCompression : Int)
    (codecId : AVCodecID) :
    InOrder (VTRemoteEncContext.afterInit ({ fd, events := [] } : Watched σ)
      inflight wireCompression codecId) where
  holds :=
    { settled := rfl
      taken := Nat.le_refl _
      queue := rfl
      head := fun hpos => hpos }
  size hpos := absurd hpos (Nat.lt_irrefl 0)
  room past _ _ hpast _ := by
    have hnil : past ++ [_] = [] := List.prefix_nil.mp hpast
    cases List.append_eq_nil_iff.mp hnil with
    | intro _ hsingle => cases hsingle

/-- Once the ring is allocated its indices are within it, it has a slot for every
PACKET that is read, and the packets that have left it and those in it are the
accepted ones in the order of their arrival. -/
structure PacketsKept (inflight : Nat) (s : VTRemoteEncContext (Watched σ)) :
    Prop where
  size : 0 < s.pktQueue.size -> s.pktQueue.size = max 4 (inflight * 2)
  indices : 0 < s.pktQueue.size ->
    s.pktQueue.head < s.pktQueue.size ∧ s.pktQueue.count ≤ s.pktQueue.size
  room : RoomForPackets (max 4 (inflight * 2)) s.fd.events
  order : (PacketFlow.of s.fd.events).taken ++ s.pktQueue.toList =
    (PacketFlow.of s.fd.events).accepted

theorem InOrder.packetsKept (h : InOrder s) : PacketsKept s.inflight s where
  size := h.size
  indices hpos := ⟨h.holds.head hpos, s.pktQueue.count_le⟩
  room := h.room
  order := by
    rw [h.holds.queue]
    exact PacketFlow.taken_append_queued _

/-- The packets are kept wherever a call can stay for good. -/
theorem InOrder.halts (h : InOrder s) (hhalts : Halts s s') :
    PacketsKept s.inflight s' := by
  cases hhalts with
  | between => exact h.packetsKept
  | @storing hdr payload fd hroom htype hevents =>
      have hstored := (h.holds.store default hroom).head
      have hkept := h.packetsKept
      have hflow : PacketFlow.of fd.events =
          (PacketFlow.of s.fd.events).next (.read hdr payload) := by
        rw [hevents, PacketFlow.of_append]
        rfl
      refine ⟨?_, fun hpos => ⟨hstored hpos, Ring.count_le _⟩, ?_, ?_⟩
      · show 0 < (s.pktQueue.store default).size -> (s.pktQueue.store default).size = _
        rw [Ring.size_store]
        exact h.size
      · show RoomForPackets _ fd.events
        rw [hevents]
        exact h.room_read hroom hdr payload
      · show (PacketFlow.of fd.events).taken ++ (s.pktQueue.store default).toList =
          (PacketFlow.of fd.events).accepted
        rw [hflow, Ring.toList_store default hroom]
        exact hkept.order
  | @taking s1 fd henqueues hevents =>
      have hkept := (henqueues.inOrder h).1.packetsKept
      rw [henqueues.inflight] at hkept
      refine ⟨hkept.size, hkept.indices, ?_, ?_⟩
      · show RoomForPackets _ fd.events
        rw [hevents]
        exact hkept.room
      · show (PacketFlow.of fd.events).taken ++ s1.pktQueue.toList =
          (PacketFlow.of fd.events).accepted
        rw [hevents]
        exact hkept.order

/-- With every reference granted, the caller has got what has left the queue. -/
theorem PacketFlow.delivered_of_granted {f : PacketFlow}
    (hle : f.references.length ≤ f.accepted.length)
    (h : forall granted, granted ∈ f.references -> granted = true) :
    f.delivered = f.taken := by
  have hall : (f.taken.zip f.references).filter Prod.snd =
      f.taken.zip f.references := by
    apply List.filter_eq_self.mpr
    intro pair hpair
    exact h pair.2 (List.of_mem_zip hpair).2
  unfold PacketFlow.delivered
  rw [hall]
  exact List.map_fst_zip (Nat.le_of_eq (f.length_taken hle))

/-- In every run with any server, the ring keeps the packets in the order of their
arrival.  The caller has got those that have left it, but for the ones whose
reference was not granted. -/
theorem encodeRun_packetsKept (link : Link σ) (libs : CompressionLibraries)
    (inputs : List EncodeInput) (fd : σ) (inflight : Nat) (wireCompression : Int)
    (codecId : AVCodecID) :
    (encodeRun (watchedLink link) libs inputs
      (VTRemoteEncContext.afterInit { fd, events := [] } inflight wireCompression
        codecId)).Ends
      (fun r s => PacketsKept inflight s ∧ exists results, r = .ok results ∧
        deliveredPackets results =
          (PacketFlow.of s.fd.events).delivered ∧
        ((forall granted, granted ∈ (PacketFlow.of s.fd.events).references ->
            granted = true) ->
          deliveredPackets results ++ s.pktQueue.toList =
            (PacketFlow.of s.fd.events).accepted))
      (PacketsKept inflight) := by
  have hinit := inOrder_afterInit fd inflight wireCompression codecId
  apply (encodeRun_run inputs _).mono
  · intro r s h
    rcases h with ⟨results, hok, hrun⟩
    have hinflight : s.inflight = inflight := hrun.inflight
    rcases hrun.inOrder hinit with ⟨horder, hdelivered⟩
    have hreturned : deliveredPackets results =
        (PacketFlow.of s.fd.events).delivered := hdelivered.symm
    have hkept := horder.packetsKept
    rw [hinflight] at hkept
    refine ⟨hkept, results, hok, hreturned, ?_⟩
    intro hgranted
    rw [hreturned, PacketFlow.delivered_of_granted horder.holds.taken hgranted]
    exact hkept.order
  · intro s h
    rcases h with ⟨packets, s1, hrun, hhalts⟩
    have hinflight : s1.inflight = inflight := hrun.inflight
    rw [<- hinflight]
    exact (hrun.inOrder hinit).1.halts hhalts

end Steps
/-!
## A packet without a reference
-/

/-- A PACKET comes before the first frame, and the reference to its packet is not
granted. -/
def forgetfulHost : Host where
  incoming := unread (wireMessage .packet (emptyPacket 1)) [.quiet]
  outgoing := { next := [], broken := none }
  heap := [true, true, true, false]
  log := []

/-- The packet leaves the queue, and the caller never gets it. -/
theorem not_returned_without_reference :
    ¬ forall (σ : Type) (link : Link σ) (libs : CompressionLibraries)
      (inputs : List EncodeInput) (fd : σ) (inflight : Nat)
      (wireCompression : Int) (codecId : AVCodecID),
      (encodeRun (watchedLink link) libs inputs
        (VTRemoteEncContext.afterInit { fd, events := [] } inflight wireCompression
          codecId)).Ends
        (fun r s => PacketsKept inflight s ∧ exists results, r = .ok results ∧
          deliveredPackets results ++ s.pktQueue.toList =
            (PacketFlow.of s.fd.events).accepted)
        (PacketsKept inflight) := by
  intro h
  have hrun := h Host hostLink noCompression [⟨some smallFrame, false⟩]
    forgetfulHost 4 0 .hevc
  have hreturned : (encodeRun (watchedLink hostLink) noCompression
      [⟨some smallFrame, false⟩] (VTRemoteEncContext.afterInit
        { fd := forgetfulHost, events := [] } 4 0 .hevc)).value.map
          deliveredPackets = some [] := by
    decide +kernel
  have hqueued : (encodeRun (watchedLink hostLink) noCompression
      [⟨some smallFrame, false⟩] (VTRemoteEncContext.afterInit
        { fd := forgetfulHost, events := [] } 4 0
          .hevc)).state.pktQueue.toList = [] := by
    decide +kernel
  have haccepted : (PacketFlow.of (encodeRun (watchedLink hostLink) noCompression
      [⟨some smallFrame, false⟩] (VTRemoteEncContext.afterInit
        { fd := forgetfulHost, events := [] } 4 0
          .hevc)).state.fd.events).accepted.length = 1 := by
    decide +kernel
  revert hrun hreturned hqueued haccepted
  generalize encodeRun (watchedLink hostLink) noCompression _ _ = o
  intro hrun hreturned hqueued haccepted
  cases o with
  | blocked s => cases hreturned
  | returned r s =>
      rcases hrun with ⟨_, results, rfl, horder⟩
      have hnone : deliveredPackets results = [] :=
        Option.some.inj hreturned
      have hqueued' : s.pktQueue.toList = [] := hqueued
      have haccepted' : (PacketFlow.of s.fd.events).accepted.length = 1 := haccepted
      rw [hnone, hqueued'] at horder
      rw [<- horder] at haccepted'
      cases haccepted'

end VTRemote
