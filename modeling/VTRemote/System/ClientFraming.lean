import VTRemote.Client.WorkingHost
import VTRemote.Server.VTRWireConnection

/-!
# Messages from the client to the server

What `vtremote_send_msg` writes is what `VTRWireConnection.readMessage` reads,
whatever the buffers it reads into held before, unless a request of the server
is interrupted.
-/

namespace VTRemote

open VTRWireConnection PosixIo

attribute [local irreducible] cInt

structure ClientMessage where
  type : VTRemoteMsgType
  payload : Payload
deriving DecidableEq

namespace ClientMessage

def wire (m : ClientMessage) : Bytes := wireMessage m.type m.payload

def received (m : ClientMessage) : VTRMessageHeader × List UInt8 :=
  ({ type := m.type.code, length := UInt32.ofNat m.payload.bytes.length },
    m.payload.bytes)

theorem wire_length (m : ClientMessage) :
    m.wire.length = vtremoteHeaderSize + m.payload.bytes.length := by
  unfold wire wireMessage
  rw [List.length_append, vtremoteWriteHeader_length]

theorem received_length (m : ClientMessage) :
    m.received.1.length.toNat = m.payload.bytes.length := by
  have hle : m.payload.bytes.length ≤ 2147483647 := m.payload.length_le
  apply UInt32.toNat_ofNat_of_lt'
  exact Nat.lt_of_le_of_lt hle (by decide)

end ClientMessage

/-!
## The client's side
-/

def SendRecord.written (r : SendRecord) : Bytes :=
  (wireMessage r.type r.payload).take r.accepted

def sendClientMessages : List ClientMessage -> HostCall Unit
  | [] => pure ()
  | m :: rest => do
      vtremoteSendMsg m.type m.payload
      sendClientMessages rest

theorem sendClientMessages_written (messages : List ClientMessage) {h : Host}
    (hout : Reliable eintr h.outgoing) :
    ((sendClientMessages messages h).state.log.drop h.log.length).flatMap
        SendRecord.written = messages.flatMap ClientMessage.wire := by
  have hall : exists records, (sendClientMessages messages h).state.log =
      h.log ++ records ∧ records.flatMap SendRecord.written =
        messages.flatMap ClientMessage.wire := by
    induction messages generalizing h with
    | nil => exact ⟨[], (List.append_nil _).symm, rfl⟩
    | cons m rest ih =>
        rcases vtremoteSendMsg_sent m.type m.payload h with
          ⟨r, result, hsent, hcall⟩
        rcases hsent.reliable hout with ⟨hcomplete, hleft⟩
        have hok : result = .ok () := by
          rcases hsent.result with ⟨hok, _⟩ | ⟨_, hless⟩
          · exact hok
          · unfold SendRecord.Complete at hcomplete
            omega
        rw [hok] at hcall
        rcases @ih { h with outgoing := r.left, log := h.log ++ [r] } hleft with
          ⟨records, hlog, hwritten⟩
        refine ⟨r :: records, ?_, ?_⟩
        · unfold sendClientMessages
          rw [Call.bind_of_ok _ hcall, hlog, List.append_assoc]
          rfl
        · have hr : r.written = m.wire := by
            unfold SendRecord.written ClientMessage.wire
            rw [hsent.type_eq, hsent.payload_eq, hcomplete]
            apply List.take_of_length_le
            have hlen := m.wire_length
            unfold ClientMessage.wire at hlen
            unfold SendRecord.size
            rw [hsent.payload_eq, hlen]
          rw [List.flatMap_cons, List.flatMap_cons, hr, hwritten]
  rcases hall with ⟨records, hlog, hwritten⟩
  rw [hlog, List.drop_left, hwritten]

/-!
## The server's side
-/

theorem decode_writeHeader {hdr : VTRemoteMsgHeader}
    (hmagic : hdr.magic = vtremoteProtoMagic)
    (hversion : hdr.version = vtremoteProtoVersion) :
    VTRMessageHeader.decode (vtremoteWriteHeader hdr) =
      .ok { type := hdr.type, length := hdr.length } := by
  have hfront : (ByteReader.init (vtremoteWriteHeader hdr)).ahead =
      Format.u32.encode hdr.magic ++ (Format.u16.encode hdr.version ++
        (Format.u16.encode hdr.type ++ (Format.u32.encode hdr.length ++ []))) := by
    rw [ByteReader.ahead_init, List.append_nil]
    unfold vtremoteWriteHeader
    rw [List.append_assoc, List.append_assoc]
    rfl
  rcases ByteReader.readBEUInt32_follows.read_encode hfront with ⟨r1, h1, hr1⟩
  rcases ByteReader.readBEUInt16_follows.read_encode hr1 with ⟨r2, h2, hr2⟩
  rcases ByteReader.readBEUInt16_follows.read_encode hr2 with ⟨r3, h3, hr3⟩
  rcases ByteReader.readBEUInt32_follows.read_encode hr3 with ⟨r4, h4, _⟩
  unfold VTRMessageHeader.decode
  rw [if_neg (by rw [vtremoteWriteHeader_length]; exact fun h => h rfl)]
  unfold VTRMessageHeader.read
  rw [bind_of_ok h1, bind_of_ok h2, bind_of_ok h3, bind_of_ok h4,
    if_neg (by rw [hmagic]; exact fun h => h rfl),
    if_neg (by rw [hversion]; exact fun h => h rfl)]
  rfl

section Reading

variable (strerror : Int -> String)

theorem pollReadable_data {c : VTRWireConnection}
    (hquiet : .quiet ∉ c.incoming) (hbytes : beforeFailure c.incoming ≠ []) :
    VTRWireConnection.pollReadable c = .returned (.ok ()) c := by
  unfold VTRWireConnection.pollReadable
  rcases c with ⟨incoming, outgoing, sent, headerBuf, bodyBuf, errno⟩
  cases incoming with
  | nil => exact absurd rfl hbytes
  | cons arrival rest =>
      cases arrival with
      | data b bs => rfl
      | quiet => exact absurd List.mem_cons_self hquiet
      | fail e => exact absurd rfl hbytes
      | close => exact absurd rfl hbytes

theorem bodyBuffer_eq (pool : Option BufferPool) (len : Nat)
    (c : VTRWireConnection) :
    exists buf pool' bodyBuf, bodyBuffer pool len c =
      .returned (.ok (buf, pool')) { c with bodyBuf } := by
  cases pool with
  | some pool => exact ⟨_, _, c.bodyBuf, rfl⟩
  | none => exact ⟨_, _, _, rfl⟩

theorem keepBuffer_eq (p : Prop) [Decidable p] (buf : List UInt8)
    (c : VTRWireConnection) :
    exists bodyBuf, Call.when p
        (Call.modify fun c : VTRWireConnection => { c with bodyBuf := buf }) c =
      (.returned (.ok ()) { c with bodyBuf } : Outcome Failure _ _) := by
  unfold Call.when
  by_cases h : p
  · rw [if_pos h]
    exact ⟨buf, rfl⟩
  · rw [if_neg h]
    exact ⟨c.bodyBuf, rfl⟩

theorem readExact_bytes (c : VTRWireConnection) (buffer : List UInt8)
    {bytes later : List UInt8}
    (store : VTRWireConnection -> List UInt8 -> VTRWireConnection)
    (hbytes : beforeFailure c.incoming = bytes ++ later) :
    exists rest, VTRWireConnection.readExact strerror buffer bytes.length store c =
        .returned (.ok bytes) (store { c with incoming := rest } bytes) ∧
      beforeFailure rest = later ∧ (.quiet ∈ rest -> .quiet ∈ c.incoming) := by
  rcases readExact_done strerror c.errno buffer hbytes with
    ⟨rest, hread, hrest, hquiet⟩
  refine ⟨rest, ?_, hrest, hquiet⟩
  unfold VTRWireConnection.readExact
  rw [hread]

theorem readMessage_wire {m : ClientMessage} (pool : Option BufferPool)
    {c : VTRWireConnection} {later : List UInt8} (hquiet : .quiet ∉ c.incoming)
    (hbytes : beforeFailure c.incoming = m.wire ++ later) :
    exists pool' c', readMessage strerror pool c =
        .returned (.ok (m.received, pool')) c' ∧
      beforeFailure c'.incoming = later ∧ .quiet ∉ c'.incoming := by
  have hheader : beforeFailure c.incoming =
      vtremoteWriteHeader (messageHeader m.type m.payload) ++
        (m.payload.bytes ++ later) := by
    rw [hbytes]
    exact List.append_assoc _ _ _
  have hpoll := pollReadable_data hquiet (by
    rw [hheader]
    exact List.cons_ne_nil _ _)
  rcases readExact_bytes strerror c c.headerBuf
    (fun c headerBuf => { c with headerBuf }) hheader with
    ⟨mid, hread, hmid, hmidQuiet⟩
  rw [vtremoteWriteHeader_length] at hread
  have hdecode : VTRMessageHeader.decode
      (vtremoteWriteHeader (messageHeader m.type m.payload)) =
      .ok m.received.1 := decode_writeHeader rfl rfl
  have hread_header : readHeader strerror c = .returned (.ok m.received.1)
      { c with
        incoming := mid
        headerBuf := vtremoteWriteHeader (messageHeader m.type m.payload) } := by
    unfold readHeader
    rw [Call.bind_of_ok _ hpoll, Call.get_bind, Call.bind_of_ok _ hread]
    simp only [hdecode]
    rfl
  unfold readMessage
  rw [Call.bind_of_ok _ hread_header]
  rw [m.received_length]
  by_cases hpos : 0 < m.payload.bytes.length
  · rw [if_pos hpos]
    rcases bodyBuffer_eq pool m.payload.bytes.length { c with
      incoming := mid
      headerBuf := vtremoteWriteHeader (messageHeader m.type m.payload) } with
      ⟨buf, pool', bodyBuf, hbuf⟩
    rcases readExact_bytes strerror { c with
        incoming := mid
        headerBuf := vtremoteWriteHeader (messageHeader m.type m.payload)
        bodyBuf } (resize buf m.payload.bytes.length) (fun c _ => c) hmid with
      ⟨last, hbody, hlast, hlastQuiet⟩
    rcases keepBuffer_eq (pool' = none) m.payload.bytes { c with
        incoming := last
        headerBuf := vtremoteWriteHeader (messageHeader m.type m.payload)
        bodyBuf } with ⟨kept, hkeep⟩
    refine ⟨pool', { c with
        incoming := last
        headerBuf := vtremoteWriteHeader (messageHeader m.type m.payload)
        bodyBuf := kept }, ?_, hlast, ?_⟩
    · rw [Call.bind_of_ok _ hbuf]
      simp only
      rw [Call.bind_of_ok _ hbody, Call.bind_of_ok _ hkeep]
      rfl
    · exact fun hmem => hquiet (hmidQuiet (hlastQuiet hmem))
  · have hnil : m.payload.bytes = [] := by
      apply List.eq_nil_of_length_eq_zero
      omega
    rw [if_neg hpos]
    refine ⟨pool, { c with
        incoming := mid
        headerBuf := vtremoteWriteHeader (messageHeader m.type m.payload) },
        ?_, ?_, fun hmem => hquiet (hmidQuiet hmem)⟩
    · have hreceived : m.received = (m.received.1, []) := by
        rw [<- hnil]
        rfl
      rw [hreceived]
      rfl
    · rw [hmid, hnil, List.nil_append]

theorem readExact_eq_ok {c c' : VTRWireConnection} {buffer bytes : List UInt8}
    {count : Nat} {store : VTRWireConnection -> List UInt8 -> VTRWireConnection}
    (h : VTRWireConnection.readExact strerror buffer count store c =
      .returned (.ok bytes) c')
    (hstore : forall c bytes, (store c bytes).incoming = c.incoming) :
    bytes.length = count ∧ count ≤ (beforeFailure c.incoming).length ∧
      beforeFailure c'.incoming = (beforeFailure c.incoming).drop count := by
  unfold VTRWireConnection.readExact at h
  cases hread : PosixIo.readExact strerror c.errno buffer count c.incoming with
  | starved buffer' =>
      rw [hread] at h
      cases h
  | failed error buffer' rest =>
      rw [hread] at h
      cases h
  | done buffer' rest =>
      rw [hread] at h
      cases h
      rcases readExact_eq_done strerror hread with ⟨henough, hbytes, hrest⟩
      refine ⟨?_, henough, ?_⟩
      · rw [hbytes, List.length_take, Nat.min_eq_left henough]
      · rw [hstore]
        exact hrest

theorem pollReadable_eq_ok {c c' : VTRWireConnection}
    (h : VTRWireConnection.pollReadable c = .returned (.ok ()) c') : c' = c := by
  unfold VTRWireConnection.pollReadable at h
  rcases c with ⟨incoming, outgoing, sent, headerBuf, bodyBuf, errno⟩
  cases incoming with
  | nil => cases h
  | cons arrival rest =>
      cases arrival with
      | data b bs =>
          cases h
          rfl
      | quiet => cases h
      | close =>
          cases h
          rfl
      | fail e =>
          by_cases he : e = eintr
          · simp only [PosixIo.pollReadable, if_pos he] at h
            cases h
          · simp only [PosixIo.pollReadable, if_neg he] at h
            cases h
            rfl

/-- A message that was read arrived before a failure. -/
theorem readMessage_eq_ok {pool pool' : Option BufferPool}
    {c c' : VTRWireConnection} {message : VTRMessageHeader × List UInt8}
    (h : readMessage strerror pool c = .returned (.ok (message, pool')) c') :
    vtremoteHeaderSize + message.2.length ≤ (beforeFailure c.incoming).length ∧
      beforeFailure c'.incoming = (beforeFailure c.incoming).drop
        (vtremoteHeaderSize + message.2.length) := by
  rcases Call.bind_eq_ok h with ⟨header, c1, hheader, h⟩
  rcases Call.bind_eq_ok hheader with ⟨_, c2, hpoll, hheader⟩
  rcases Call.bind_eq_ok hheader with ⟨c3, c4, hget, hheader⟩
  rcases Call.bind_eq_ok hheader with ⟨headerBuf, c5, hread, hdecode⟩
  cases hget
  rw [pollReadable_eq_ok hpoll] at hread
  rcases readExact_eq_ok strerror hread (fun _ _ => rfl) with
    ⟨_, henough, hrest⟩
  have hc : c5 = c1 := by
    cases hd : VTRMessageHeader.decode headerBuf with
    | error e =>
        simp only [hd] at hdecode
        cases hdecode
    | ok decoded =>
        simp only [hd] at hdecode
        cases hdecode
        rfl
  rw [hc] at hrest
  by_cases hpos : 0 < header.length.toNat
  · rw [if_pos hpos] at h
    rcases bodyBuffer_eq pool header.length.toNat c1 with
      ⟨buf, pool1, bodyBuf, hbuf⟩
    rw [Call.bind_of_ok _ hbuf] at h
    simp only at h
    rcases Call.bind_eq_ok h with ⟨body, c6, hbody, h⟩
    rcases readExact_eq_ok strerror hbody (fun _ _ => rfl) with
      ⟨hlen, henough', hrest'⟩
    rcases keepBuffer_eq (pool1 = none) body c6 with ⟨kept, hkeep⟩
    rw [Call.bind_of_ok _ hkeep] at h
    cases h
    have hleft : beforeFailure c1.incoming =
        (beforeFailure c.incoming).drop vtremoteHeaderSize := hrest
    simp only [hleft, List.length_drop] at henough'
    simp only [hleft, List.drop_drop] at hrest'
    simp only
    rw [hlen]
    exact ⟨by omega, hrest'⟩
  · rw [if_neg hpos] at h
    cases h
    exact ⟨henough, hrest⟩

/-- Read one message for each entry; the buffers in it are returned to the pool
first. -/
def readClientMessages :
    Option BufferPool -> List (List (List UInt8)) ->
      WireCall (List (VTRMessageHeader × List UInt8))
  | _, [] => pure []
  | pool, returned :: rest => do
      let (message, pool) ← readMessage strerror
        (pool.map fun pool => returned.foldl BufferPool.giveBack pool)
      let more ← readClientMessages pool rest
      pure (message :: more)

theorem readClientMessages_wire {messages : List ClientMessage}
    {returned : List (List (List UInt8))} (pool : Option BufferPool)
    {c : VTRWireConnection} {later : List UInt8}
    (hrounds : returned.length = messages.length) (hquiet : .quiet ∉ c.incoming)
    (hbytes : beforeFailure c.incoming =
      messages.flatMap ClientMessage.wire ++ later) :
    exists c', readClientMessages strerror pool returned c =
      .returned (.ok (messages.map ClientMessage.received)) c' := by
  induction messages generalizing pool returned c with
  | nil =>
      rw [List.eq_nil_of_length_eq_zero hrounds]
      exact ⟨c, rfl⟩
  | cons m rest ih =>
      cases returned with
      | nil => cases hrounds
      | cons buffers returned =>
          rw [List.flatMap_cons, List.append_assoc] at hbytes
          rcases readMessage_wire strerror
            (pool.map fun pool => buffers.foldl BufferPool.giveBack pool)
            hquiet hbytes with ⟨pool', c1, hread, hrest, hquiet'⟩
          rcases ih pool' (Nat.succ.inj hrounds) hquiet' hrest with ⟨c2, hmore⟩
          refine ⟨c2, ?_⟩
          unfold readClientMessages
          rw [Call.bind_of_ok _ hread]
          simp only
          rw [Call.bind_of_ok _ hmore]
          rfl

theorem readClientMessages_eq_ok {pool : Option BufferPool}
    {returned : List (List (List UInt8))} {c c' : VTRWireConnection}
    {obtained : List (VTRMessageHeader × List UInt8)}
    (h : readClientMessages strerror pool returned c =
      .returned (.ok obtained) c') :
    (obtained.map fun message => vtremoteHeaderSize + message.2.length).sum ≤
      (beforeFailure c.incoming).length := by
  induction returned generalizing pool c obtained with
  | nil =>
      cases h
      exact Nat.zero_le _
  | cons buffers returned ih =>
      rcases Call.bind_eq_ok h with ⟨⟨message, pool'⟩, c1, hread, h⟩
      rcases Call.bind_eq_ok h with ⟨more, c2, hmore, h⟩
      cases h
      rcases readMessage_eq_ok strerror hread with ⟨henough, hrest⟩
      have hsum := ih hmore
      rw [hrest, List.length_drop] at hsum
      rw [List.map_cons, List.sum_cons]
      omega

end Reading

/-!
## Both sides
-/

/-- The server obtains the messages that the client sent, whatever the pool
holds and whatever is returned to it, exactly when they arrive before a request
is interrupted. -/
theorem sendClientMessages_read_iff (strerror : Int -> String)
    (messages : List ClientMessage) (h : Host) (c : VTRWireConnection)
    (pool : Option BufferPool) (returned : List (List (List UInt8)))
    (later : List (Atom Errno)) (hrounds : returned.length = messages.length)
    (hout : Reliable eintr h.outgoing) (hquiet : .quiet ∉ c.incoming)
    (hin : atoms eintr c.incoming =
      (((sendClientMessages messages h).state.log.drop h.log.length).flatMap
        SendRecord.written).map .byte ++ later) :
    (exists c', readClientMessages strerror pool returned c =
      .returned (.ok (messages.map ClientMessage.received)) c') <->
    (messages.flatMap ClientMessage.wire).length ≤
      (beforeFailure c.incoming).length := by
  rw [sendClientMessages_written messages hout] at hin
  constructor
  · intro ⟨c', hread⟩
    have hsum := readClientMessages_eq_ok strerror hread
    have hlength : (messages.flatMap ClientMessage.wire).length =
        ((messages.map ClientMessage.received).map fun message =>
          vtremoteHeaderSize + message.2.length).sum := by
      rw [List.length_flatMap, List.map_map]
      congr 1
      apply List.map_congr_left
      intro m _
      exact m.wire_length
    rw [hlength]
    exact hsum
  · intro henough
    have hfront := beforeFailure_atoms c.incoming
    rw [hin] at hfront
    have hwire : (messages.flatMap ClientMessage.wire).map Atom.byte <+:
        (beforeFailure c.incoming).map (Atom.byte : UInt8 -> Atom Errno) :=
      List.prefix_of_prefix_length_le (List.prefix_append _ later) hfront (by
        rw [List.length_map, List.length_map]
        exact henough)
    rcases hwire with ⟨more, hmore⟩
    have hbytes : beforeFailure c.incoming =
        messages.flatMap ClientMessage.wire ++
          (beforeFailure c.incoming).drop
            (messages.flatMap ClientMessage.wire).length := by
      have htake := congrArg (List.take
        (messages.flatMap ClientMessage.wire).length) hmore
      rw [List.take_left' (List.length_map _), <- List.map_take] at htake
      have hbyte : Function.Injective (Atom.byte : UInt8 -> Atom Errno) := by
        intro a b heq
        cases heq
        rfl
      have heq := List.map_injective_iff.mpr hbyte htake
      nth_rewrite 1 [<- List.take_append_drop
        (messages.flatMap ClientMessage.wire).length (beforeFailure c.incoming)]
      rw [<- heq]
    exact readClientMessages_wire strerror pool hrounds hquiet hbytes

/-- A PING with a payload of one byte, read into an old buffer; the interruption
comes after its last byte. -/
theorem sendClientMessages_read_pooled :
    exists c', readClientMessages (fun _ => "") (some ⟨[[1, 2, 3]]⟩) [[[9, 9]]]
        ⟨[.data 86 [84, 82, 49, 0, 1, 0], .data 10 [0, 0, 0, 1], .data 7 [],
          .fail eintr], ⟨[], none⟩, [], [], [], 0⟩ =
      .returned (.ok [({ type := 10, length := 1 }, [7])]) c' :=
  (sendClientMessages_read_iff (fun _ => "") [⟨.ping, ⟨[7], by decide⟩⟩]
    ⟨[], ⟨[.accept 3], none⟩, [], []⟩
    ⟨[.data 86 [84, 82, 49, 0, 1, 0], .data 10 [0, 0, 0, 1], .data 7 [],
      .fail eintr], ⟨[], none⟩, [], [], [], 0⟩
    (some ⟨[[1, 2, 3]]⟩) [[[9, 9]]] [] rfl
    ⟨by
      intro answer hmem
      rw [List.mem_singleton.mp hmem]
      exact Or.inl ⟨2, rfl⟩, rfl⟩
    (by decide) (by decide +kernel)).mpr (by decide)

/-- The same PING, with an interruption after its second byte. -/
theorem sendClientMessages_interrupted :
    ¬ forall (strerror : Int -> String) (messages : List ClientMessage)
      (h : Host) (c : VTRWireConnection) (pool : Option BufferPool)
      (returned : List (List (List UInt8))) (later : List (Atom Errno)),
      returned.length = messages.length -> Reliable eintr h.outgoing ->
      .quiet ∉ c.incoming ->
      atoms eintr c.incoming =
        (((sendClientMessages messages h).state.log.drop h.log.length).flatMap
          SendRecord.written).map .byte ++ later ->
      exists c', readClientMessages strerror pool returned c =
        .returned (.ok (messages.map ClientMessage.received)) c' := by
  intro hall
  rcases hall (fun _ => "") [⟨.ping, ⟨[7], by decide⟩⟩]
    ⟨[], ⟨[], none⟩, [], []⟩
    ⟨[.data 86 [84], .fail eintr, .data 82 [49, 0, 1, 0], .data 10 [0, 0, 0, 1],
      .data 7 []], ⟨[], none⟩, [], [], [], 0⟩
    none [[]] [] rfl ⟨fun _ hmem => absurd hmem List.not_mem_nil, rfl⟩
    (by decide) (by decide +kernel) with ⟨c', hread⟩
  have hsum := readClientMessages_eq_ok (fun _ => "") hread
  exact absurd hsum (by decide)

end VTRemote
