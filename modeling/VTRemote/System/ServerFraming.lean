import VTRemote.Client.WorkingHost
import VTRemote.Server.VTRWireConnection

/-!
# Messages from the server to the client

What `VTRWireConnection.sendMessage` writes is what `vtremote_read_msg` reads,
however the kernel cuts the bytes on either side.
-/

namespace VTRemote

open VTRWireConnection

attribute [local irreducible] cInt

/-- A message as the server sends it: the parts of its body. -/
structure PartedMessage where
  type : VTRemoteMsgType
  parts : List (List UInt8)
deriving DecidableEq

namespace PartedMessage

def body (m : PartedMessage) : Bytes := m.parts.flatten

def received (m : PartedMessage) : UInt16 × Bytes := (m.type.code, m.body)

def header (m : PartedMessage) : VTRMessageHeader where
  type := m.type.code
  length := UInt32.ofNat m.body.length

def wire (m : PartedMessage) : Bytes := m.header.encoded ++ m.body

/-- The length fits an `int`, and so does the number of pieces that are written:
the header and the parts. -/
structure Fits (m : PartedMessage) : Prop where
  length : m.body.length < 2147483648
  parts : m.parts.length < 2147483647

theorem bytes {m : PartedMessage} (h : m.body.length < 2147483648) :
    MessageBytes m.header.toClient m.body m.wire where
  header := by
    refine ⟨m.header.encoded, rfl, ?_, ?_⟩
    · rw [VTRMessageHeader.encoded_eq]
      rfl
    · rw [VTRMessageHeader.encoded_eq]
      exact vtremoteReadHeader_write rfl rfl
  payload := by
    have hle : m.body.length ≤ maxAllocSize := Nat.le_of_lt_succ h
    exact (wireMessage_bytes m.type ⟨m.body, hle⟩).payload
  allocated := (wireMessage_bytes m.type ⟨m.body, Nat.le_of_lt_succ h⟩).allocated

end PartedMessage

/-!
## The server's side
-/

namespace VTRWireConnection

variable (strerror : Int -> String)

def sendMessages : List PartedMessage -> WireCall Unit
  | [] => pure ()
  | m :: rest => do
      sendMessage strerror m.type m.parts
      sendMessages rest

theorem sendMessage_wire {m : PartedMessage} (hm : m.Fits)
    {c : VTRWireConnection} (hout : Reliable eintr c.outgoing) :
    exists outgoing, sendMessage strerror m.type m.parts c =
        .returned (.ok ()) { c with outgoing, sent := c.sent ++ m.wire } ∧
      Reliable eintr outgoing := by
  have hsum : (m.parts.map List.length).sum = m.body.length :=
    List.length_flatten.symm
  have hlength := hm.length
  have hcount : (m.header.encoded :: m.parts).length ≤ 2147483647 := hm.parts
  rcases PosixIo.writev_push strerror c.outgoing hcount with ⟨htaken, hrest, hresult⟩
  rcases hout with ⟨hnext, hbroken⟩
  rw [hbroken] at htaken hrest hresult
  rcases push_reliable eintr ⟨hnext, rfl⟩
    (m.header.encoded :: m.parts).flatten.length with ⟨hall, hstop, hreliable⟩
  rw [hall, List.take_length] at htaken
  rw [hstop] at hresult
  refine ⟨{ c.outgoing with next :=
    (PosixIo.writev strerror c.outgoing (m.header.encoded :: m.parts)).rest },
    ?_, ?_⟩
  · unfold sendMessage
    simp only [hsum, if_neg (show ¬ 4294967295 < m.body.length by omega)]
    show Outcome.returned (PosixIo.writev strerror c.outgoing
      (m.header.encoded :: m.parts)).result _ = _
    rw [hresult]
    show Outcome.returned _ { c with
      outgoing := _
      sent := c.sent ++ (PosixIo.writev strerror c.outgoing
        (m.header.encoded :: m.parts)).taken } = _
    rw [htaken]
    rfl
  · rw [hrest]
    exact ⟨hreliable.1, hbroken⟩

theorem sendMessages_wire {messages : List PartedMessage}
    (hfits : forall m, m ∈ messages -> m.Fits) (c : VTRWireConnection)
    (hout : Reliable eintr c.outgoing) :
    exists outgoing, sendMessages strerror messages c =
        .returned (.ok ()) { c with
          outgoing, sent := c.sent ++ messages.flatMap PartedMessage.wire } := by
  induction messages generalizing c with
  | nil =>
      refine ⟨c.outgoing, ?_⟩
      rw [List.flatMap_nil, List.append_nil]
      rfl
  | cons m rest ih =>
      have hm := hfits m List.mem_cons_self
      have hrest : forall m, m ∈ rest -> m.Fits := fun m hmem =>
        hfits m (List.mem_cons_of_mem _ hmem)
      rcases sendMessage_wire strerror hm hout with ⟨mid, hsend, hmid⟩
      rcases ih hrest { c with outgoing := mid, sent := c.sent ++ m.wire } hmid
        with ⟨last, hmore⟩
      refine ⟨last, ?_⟩
      unfold sendMessages
      rw [Call.bind_of_ok _ hsend, hmore, List.flatMap_cons, List.append_assoc]

end VTRWireConnection

/-!
## The client's side
-/

def readMessages : Nat -> HostCall (List (UInt16 × Bytes) × Option AvError)
  | 0 => pure ([], none)
  | n + 1 => do
      match ← Call.attempt vtremoteReadMsg with
      | .error e => pure ([], some e)
      | .ok (hdr, payload) =>
          let (more, stop) ← readMessages n
          pure ((hdr.type, payload) :: more, stop)

/-- The messages are read in turn, up to the first for which memory is
refused. -/
theorem readMessages_wire {messages : List PartedMessage}
    (hlength : forall m, m ∈ messages -> m.body.length < 2147483648)
    {h : Host} {rest : List (Atom Errno)}
    (hstream : h.stream =
      (messages.flatMap PartedMessage.wire).map .byte ++ rest) :
    exists obtained stop h',
      readMessages messages.length h = .returned (.ok (obtained, stop)) h' ∧
      ((obtained = messages.map PartedMessage.received ∧ stop = none ∧
          h'.stream = rest) ∨
        (obtained <+: messages.map PartedMessage.received ∧
          stop = some (averror enomem) ∧ ¬ h.Granted)) := by
  induction messages generalizing h with
  | nil => exact ⟨[], none, h, rfl, Or.inl ⟨rfl, rfl, hstream⟩⟩
  | cons m more ih =>
      have hbytes := PartedMessage.bytes (hlength m List.mem_cons_self)
      have hmore : forall m, m ∈ more -> m.body.length < 2147483648 :=
        fun m hmem => hlength m (List.mem_cons_of_mem _ hmem)
      rw [List.flatMap_cons, List.map_append, List.append_assoc] at hstream
      rw [List.length_cons]
      unfold readMessages
      by_cases hgrants : m.header.toClient.length ≠ 0 -> h.Grants
      · rcases vtremoteReadMsg_bytes hbytes hstream hgrants with
          ⟨incoming, heap, hread, hrest, _, hheap⟩
        rcases @ih hmore { h with incoming, heap } hrest with
          ⟨obtained, stop, h', hnext, hend⟩
        refine ⟨m.received :: obtained, stop, h', ?_, ?_⟩
        · rw [Call.bind_of_ok _ (Call.attempt_of_returned hread)]
          simp only
          rw [Call.bind_of_ok _ hnext]
          rfl
        · rcases hend with ⟨rfl, hstop, hstream'⟩ | ⟨hpart, hstop, hrefused⟩
          · exact Or.inl ⟨rfl, hstop, hstream'⟩
          · right
            refine ⟨?_, hstop, ?_⟩
            · rw [List.map_cons, List.cons_prefix_cons]
              exact ⟨rfl, hpart⟩
            · intro hgranted
              apply hrefused
              rcases hheap with rfl | rfl
              · exact hgranted
              · exact hgranted.malloc.2
      · have hneeds : m.header.toClient.length ≠ 0 ∧ ¬ h.Grants := by
          by_contra hcases
          apply hgrants
          intro hne
          by_contra hno
          exact hcases ⟨hne, hno⟩
        rcases vtremoteReadMsg_refused hbytes hstream hneeds.1 hneeds.2 with
          ⟨h', hread⟩
        refine ⟨[], some (averror enomem), h', ?_, Or.inr ⟨?_, rfl, ?_⟩⟩
        · rw [Call.bind_of_ok _ (Call.attempt_of_returned hread)]
          rfl
        · exact List.nil_prefix
        · intro hgranted
          exact hneeds.2 hgranted.grants

/-!
## Both sides
-/

/-- The client obtains the messages that the server sent, whatever parts they
have, however `writev` cuts them and however they arrive; it stops early only
when it is refused memory.  At no time does `writev` skip a byte or write one
twice. -/
theorem sendMessages_readMessages (strerror : Int -> String)
    (messages : List PartedMessage) (c : VTRWireConnection) (h : Host)
    (rest : List (Atom Errno)) (hfits : forall m, m ∈ messages -> m.Fits)
    (hout : Reliable eintr c.outgoing)
    (hin : h.stream =
      ((sendMessages strerror messages c).state.sent.drop c.sent.length).map
        .byte ++ rest) :
    (exists c', sendMessages strerror messages c = .returned (.ok ()) c') ∧
    (exists obtained stop h',
      readMessages messages.length h = .returned (.ok (obtained, stop)) h' ∧
      ((obtained = messages.map PartedMessage.received ∧ stop = none ∧
          h'.stream = rest) ∨
        (obtained <+: messages.map PartedMessage.received ∧
          stop = some (averror enomem) ∧ ¬ h.Granted))) ∧
    (forall (out : Schedule Errno) (parts : List (List UInt8)),
      (PosixIo.writev strerror out parts).taken <+: parts.flatten ∧
        ((PosixIo.writev strerror out parts).result = .ok () ->
          (PosixIo.writev strerror out parts).taken = parts.flatten)) := by
  rcases sendMessages_wire strerror hfits c hout with ⟨outgoing, hsend⟩
  have hbytes : (sendMessages strerror messages c).state.sent.drop
      c.sent.length = messages.flatMap PartedMessage.wire := by
    rw [hsend]
    exact List.drop_left
  rw [hbytes] at hin
  refine ⟨⟨_, hsend⟩, ?_, ?_⟩
  · exact readMessages_wire (fun m hmem => (hfits m hmem).length) hin
  · exact PosixIo.writev_taken strerror

/-- Three parts, one of them empty, cut inside a part, at its end and after an
interruption, and read in chunks of other sizes. -/
theorem sendMessages_readMessages_cut :
    exists obtained stop h',
      readMessages 1 ⟨[.data 86 [84], .fail eintr,
          .data 82 [49, 0, 1, 0, 6, 0, 0, 0], .quiet, .data 3 [7, 8],
          .data 9 []], ⟨[], none⟩, [], []⟩ =
        .returned (.ok (obtained, stop)) h' ∧
      ((obtained = [(6, [7, 8, 9])] ∧ stop = none ∧ h'.stream = []) ∨
        (obtained <+: [(6, [7, 8, 9])] ∧ stop = some (averror enomem) ∧
          ¬ Host.Granted ⟨[.data 86 [84], .fail eintr,
            .data 82 [49, 0, 1, 0, 6, 0, 0, 0], .quiet, .data 3 [7, 8],
            .data 9 []], ⟨[], none⟩, [], []⟩)) :=
  (sendMessages_readMessages (fun _ => "") [⟨.packet, [[7], [], [8, 9]]⟩]
    ⟨[], ⟨[.accept 5, .fail eintr, .accept 7, .accept 2], none⟩, [], [], [], 0⟩
    ⟨[.data 86 [84], .fail eintr, .data 82 [49, 0, 1, 0, 6, 0, 0, 0], .quiet,
      .data 3 [7, 8], .data 9 []], ⟨[], none⟩, [], []⟩ []
    (by
      intro m hmem
      rw [List.mem_singleton.mp hmem]
      exact ⟨by decide, by decide⟩)
    ⟨by
      intro answer hmem
      simp only [List.mem_cons, List.not_mem_nil, or_false] at hmem
      rcases hmem with rfl | rfl | rfl | rfl
      · exact Or.inl ⟨4, rfl⟩
      · exact Or.inr rfl
      · exact Or.inl ⟨6, rfl⟩
      · exact Or.inl ⟨1, rfl⟩, rfl⟩ (by decide +kernel)).2.1

/-- A message of empty parts, with its header one piece more than an `Int32`
can count, brings the server down. -/
theorem sendMessages_part_count :
    ¬ forall (strerror : Int -> String) (messages : List PartedMessage)
      (c : VTRWireConnection),
      (forall m, m ∈ messages -> m.body.length < 2147483648) ->
      Reliable eintr c.outgoing ->
      exists c', sendMessages strerror messages c = .returned (.ok ()) c' := by
  intro hall
  have hempty : (List.replicate 2147483647 ([] : List UInt8)).flatten = [] :=
    List.flatten_replicate_nil
  rcases hall (fun _ => "") [⟨.packet, List.replicate 2147483647 []⟩]
    ⟨[], ⟨[], none⟩, [], [], [], 0⟩ (by
      intro m hmem
      rw [List.mem_singleton.mp hmem]
      unfold PartedMessage.body
      rw [hempty]
      exact Nat.zero_lt_succ _) ⟨fun _ hmem => absurd hmem List.not_mem_nil, rfl⟩
    with ⟨c', hsend⟩
  rcases Call.bind_eq_ok hsend with ⟨_, c1, hone, _⟩
  unfold VTRWireConnection.sendMessage at hone
  have hsum : ((List.replicate 2147483647 ([] : List UInt8)).map
      List.length).sum = 0 := by
    rw [<- List.length_flatten, hempty]
    rfl
  simp only [hsum, if_neg (show ¬ 4294967295 < 0 by decide)] at hone
  rw [PosixIo.writev_trapped] at hone
  · cases hone
  · rw [List.length_cons, List.length_replicate]
    exact Nat.lt_succ_self _
  · rw [List.flatten_cons, hempty, List.append_nil]
    exact Nat.succ_pos _

end VTRemote
