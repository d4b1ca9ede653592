import VTRemote.Client.Socket

/-!
# What the socket functions take from the stream

A read is described by the atoms of the stream; how they are cut into arrivals
makes no difference to it.
-/

namespace VTRemote

/-!
## Collecting bytes
-/

/-- The error of a read that failed after `got`: a timeout between two messages
can be retried, one after the first byte cannot. -/
def readErrno (e : Errno) (got : Bytes) : Errno :=
  if e = eagain then (if got.length = 0 then eagain else eio) else e

/-- `readFull` returns what the stream says, and changes the arrivals only. -/
theorem readFull_stream (size : Nat) (h : Host) :
    exists incoming : List (Arrival Errno),
      match fillAtoms size [] h.stream with
      | .done bytes rest =>
          readFull size h = .returned (.ok bytes) { h with incoming } ∧
            atoms eintr incoming = rest ∧
            arrivalsLeft incoming + size ≤ arrivalsLeft h.incoming
      | .failed e got rest =>
          readFull size h = .returned (.error (averror (readErrno e got)))
              { h with incoming } ∧
            atoms eintr incoming = rest
      | .closed _ rest =>
          readFull size h = .returned (.error averrorEof) { h with incoming } ∧
            atoms eintr incoming = rest
      | .starved _ _ => readFull size h = .blocked { h with incoming } := by
  have hatoms := fill_atoms eintr size [] h.incoming
  have hstream : h.stream = atoms eintr h.incoming := rfl
  rw [hstream, <- hatoms]
  unfold readFull
  cases hfill : fill eintr size [] h.incoming with
  | done bytes rest => exact ⟨rest, rfl, rfl, arrivalsLeft_fill eintr hfill⟩
  | failed e got rest => exact ⟨rest, rfl, rfl⟩
  | closed got rest => exact ⟨rest, rfl, rfl⟩
  | starved got rest => exact ⟨rest, rfl⟩

theorem readFull_bytes {bytes : Bytes} {h : Host} {rest : List (Atom Errno)}
    (hstream : h.stream = bytes.map .byte ++ rest) :
    exists incoming : List (Arrival Errno),
      readFull bytes.length h = .returned (.ok bytes) { h with incoming } ∧
        atoms eintr incoming = rest ∧
        arrivalsLeft incoming + bytes.length ≤ arrivalsLeft h.incoming := by
  have hread := readFull_stream bytes.length h
  rw [hstream, fillAtoms_done] at hread
  exact hread

theorem readFull_eq_ok {size : Nat} {h h' : Host} {bytes : Bytes}
    (hread : readFull size h = .returned (.ok bytes) h') :
    bytes.length = size ∧ h.stream = bytes.map .byte ++ h'.stream ∧
      exists incoming : List (Arrival Errno), h' = { h with incoming } ∧
        arrivalsLeft incoming + size ≤ arrivalsLeft h.incoming := by
  rcases readFull_stream size h with ⟨incoming, hcase⟩
  cases hfill : fillAtoms size [] h.stream with
  | done got rest =>
      rw [hfill] at hcase
      rcases hcase with ⟨heq, hrest, hleft⟩
      rw [hread] at heq
      cases heq
      rcases fillAtoms_eq_done hfill with ⟨more, hmore, hlen, hstream⟩
      rw [List.nil_append] at hmore
      rw [<- hmore] at hlen hstream
      refine ⟨hlen, ?_, incoming, rfl, hleft⟩
      rw [hstream, <- hrest]
      rfl
  | failed e got rest =>
      rw [hfill] at hcase
      rw [hread] at hcase
      cases hcase.1
  | closed got rest =>
      rw [hfill] at hcase
      rw [hread] at hcase
      cases hcase.1
  | starved got rest =>
      rw [hfill] at hcase
      rw [hread] at hcase
      cases hcase

/-- A read fails with a code other than that of the end of the stream exactly
when a request failed. -/
theorem readFull_eq_error {size : Nat} {h h' : Host} {e : AvError}
    (hread : readFull size h = .returned (.error e) h') :
    e = averrorEof ∨ exists errno got, e = averror (readErrno errno got) ∧
      got.length < size ∧
      h.stream = got.map .byte ++ .fail errno :: h'.stream := by
  rcases readFull_stream size h with ⟨incoming, hcase⟩
  cases hfill : fillAtoms size [] h.stream with
  | done got rest =>
      rw [hfill, hread] at hcase
      cases hcase.1
  | failed errno got rest =>
      rw [hfill] at hcase
      rcases hcase with ⟨heq, hrest⟩
      rw [hread] at heq
      cases heq
      rcases fillAtoms_eq_failed hfill with ⟨more, hmore, hlen, hstream⟩
      rw [List.nil_append] at hmore
      rw [<- hmore] at hlen hstream
      right
      refine ⟨errno, got, rfl, hlen, ?_⟩
      rw [hstream, <- hrest]
      rfl
  | closed got rest =>
      rw [hfill] at hcase
      rcases hcase with ⟨heq, _⟩
      rw [hread] at heq
      injection heq with heq
      injection heq with heq
      exact Or.inl heq
  | starved got rest =>
      rw [hfill, hread] at hcase
      cases hcase

theorem readFull_fail {size : Nat} {h : Host} {errno : Errno}
    {rest : List (Atom Errno)} (hsize : 0 < size)
    (hstream : h.stream = .fail errno :: rest) :
    exists incoming : List (Arrival Errno),
      readFull size h = .returned (.error (averror errno)) { h with incoming } ∧
        atoms eintr incoming = rest := by
  have hread := readFull_stream size h
  rcases Nat.exists_eq_succ_of_ne_zero (Nat.ne_of_gt hsize) with ⟨n, rfl⟩
  rw [hstream] at hread
  have herrno : readErrno errno [] = errno := by
    unfold readErrno
    split
    · next heq => exact heq.symm
    · rfl
  simp only [fillAtoms, herrno] at hread
  exact hread

theorem readFull_eof {size : Nat} {h : Host} {rest : List (Atom Errno)}
    (hsize : 0 < size) (hstream : h.stream = .eof :: rest) :
    exists incoming : List (Arrival Errno),
      readFull size h = .returned (.error averrorEof) { h with incoming } ∧
        atoms eintr incoming = .eof :: rest := by
  have hread := readFull_stream size h
  rcases Nat.exists_eq_succ_of_ne_zero (Nat.ne_of_gt hsize) with ⟨n, rfl⟩
  rw [hstream] at hread
  exact hread

/-!
## Whole messages
-/

structure MessageBytes (hdr : VTRemoteMsgHeader) (payload bytes : Bytes) :
    Prop where
  header : exists headerBuf, bytes = headerBuf ++ payload ∧
    headerBuf.length = vtremoteHeaderSize ∧
    vtremoteReadHeader headerBuf = .ok hdr
  payload : payload.length = hdr.payloadLength
  allocated : hdr.length.toNat ≤ maxAllocSize

def Host.Grants (h : Host) : Prop := h.heap.head? ≠ some false

instance (h : Host) : Decidable h.Grants :=
  inferInstanceAs (Decidable (_ ≠ _))

theorem avMalloc_eq (h : Host) :
    avMalloc h =
      .returned (if h.Grants then .ok () else .error (averror enomem))
        { h with heap := h.heap.tail } := by
  cases h with
  | mk incoming outgoing heap log =>
      cases heap with
      | nil => rfl
      | cons grant heap =>
          cases grant with
          | false => rfl
          | true => rfl

theorem avMalloc_of_grants {h : Host} (hgrants : h.Grants) :
    avMalloc h = .returned (.ok ()) { h with heap := h.heap.tail } := by
  rw [avMalloc_eq, if_pos hgrants]

theorem avMalloc_eq_ok {h h' : Host} (halloc : avMalloc h = .returned (.ok ()) h') :
    h.Grants ∧ h' = { h with heap := h.heap.tail } := by
  rw [avMalloc_eq] at halloc
  by_cases hgrants : h.Grants
  · rw [if_pos hgrants] at halloc
    cases halloc
    exact ⟨hgrants, rfl⟩
  · rw [if_neg hgrants] at halloc
    cases halloc

theorem avMalloc_eq_error {h h' : Host} {e : AvError}
    (halloc : avMalloc h = .returned (.error e) h') : e = averror enomem := by
  rw [avMalloc_eq] at halloc
  by_cases hgrants : h.Grants
  · rw [if_pos hgrants] at halloc
    cases halloc
  · rw [if_neg hgrants] at halloc
    injection halloc with halloc
    exact (Except.error.inj halloc).symm

section Sizes

variable {size : Nat} {h h' : Host}

theorem avMallocSize_of_le (hsize : size ≤ maxAllocSize) : avMallocSize size = avMalloc :=
  if_neg (Nat.not_lt.mpr hsize)

theorem avMallocSize_eq_ok (halloc : avMallocSize size h = .returned (.ok ()) h') :
    size ≤ maxAllocSize ∧ h.Grants ∧ h' = { h with heap := h.heap.tail } := by
  by_cases hsize : size ≤ maxAllocSize
  · rw [avMallocSize_of_le hsize] at halloc
    exact ⟨hsize, avMalloc_eq_ok halloc⟩
  · unfold avMallocSize at halloc
    rw [if_pos (Nat.not_le.mp hsize)] at halloc
    cases halloc

theorem avMallocSize_eq_error {e : AvError}
    (halloc : avMallocSize size h = .returned (.error e) h') : e = averror enomem := by
  by_cases hsize : size ≤ maxAllocSize
  · rw [avMallocSize_of_le hsize] at halloc
    exact avMalloc_eq_error halloc
  · unfold avMallocSize at halloc
    rw [if_pos (Nat.not_le.mp hsize)] at halloc
    cases halloc
    rfl

end Sizes

theorem payloadLength_zero {hdr : VTRemoteMsgHeader} (h : hdr.length = 0) :
    hdr.payloadLength = 0 := by
  unfold VTRemoteMsgHeader.payloadLength cInt
  rw [h]
  simp

theorem vtremoteReadMsg_bytes {hdr : VTRemoteMsgHeader} {payload bytes : Bytes}
    {h : Host} {rest : List (Atom Errno)} (hbytes : MessageBytes hdr payload bytes)
    (hstream : h.stream = bytes.map .byte ++ rest)
    (hgrants : hdr.length ≠ 0 -> h.Grants) :
    exists (incoming : List (Arrival Errno)) (heap : List Bool),
      vtremoteReadMsg h =
          .returned (.ok (hdr, payload)) { h with incoming, heap } ∧
        atoms eintr incoming = rest ∧
        arrivalsLeft incoming < arrivalsLeft h.incoming ∧
        (heap = h.heap ∨ heap = h.heap.tail) := by
  rcases hbytes.header with ⟨headerBuf, rfl, hlen, hparse⟩
  rw [List.map_append, List.append_assoc] at hstream
  rcases readFull_bytes hstream with ⟨mid, hread, hmid, hleft⟩
  rw [hlen] at hread hleft
  have hpos : 0 < vtremoteHeaderSize := Nat.succ_pos 11
  unfold vtremoteReadMsg
  rw [Call.bind_of_ok _ hread]
  simp only [hparse]
  by_cases hzero : hdr.length = 0
  · have hnil : payload = [] := by
      apply List.eq_nil_of_length_eq_zero
      rw [hbytes.payload, payloadLength_zero hzero]
    subst hnil
    rw [if_pos hzero]
    exact ⟨mid, h.heap, rfl, hmid, by omega, Or.inl rfl⟩
  · rw [if_neg hzero]
    have hgrants' : ({ h with incoming := mid } : Host).Grants := hgrants hzero
    rw [avMallocSize_of_le hbytes.allocated,
      Call.bind_of_ok _ (avMalloc_of_grants hgrants')]
    have hstream' : ({ h with incoming := mid, heap := h.heap.tail } :
        Host).stream = payload.map .byte ++ rest := hmid
    rcases readFull_bytes hstream' with ⟨last, hread', hlast, hleft'⟩
    rw [hbytes.payload] at hread'
    rw [Call.bind_of_ok _ hread']
    have hleft'' : arrivalsLeft last + payload.length ≤ arrivalsLeft mid :=
      hleft'
    exact ⟨last, h.heap.tail, rfl, hlast, by omega, Or.inr rfl⟩

theorem vtremoteReadMsg_refused {hdr : VTRemoteMsgHeader}
    {payload bytes : Bytes} {h : Host} {rest : List (Atom Errno)}
    (hbytes : MessageBytes hdr payload bytes)
    (hstream : h.stream = bytes.map .byte ++ rest) (hlength : hdr.length ≠ 0)
    (hrefused : ¬ h.Grants) :
    exists h', vtremoteReadMsg h = .returned (.error (averror enomem)) h' := by
  rcases hbytes.header with ⟨headerBuf, rfl, hlen, hparse⟩
  rw [List.map_append, List.append_assoc] at hstream
  rcases readFull_bytes hstream with ⟨mid, hread, _, _⟩
  rw [hlen] at hread
  have hmalloc := avMalloc_eq { h with incoming := mid }
  rw [if_neg (show ¬ ({ h with incoming := mid } : Host).Grants from hrefused)]
    at hmalloc
  refine ⟨{ h with incoming := mid, heap := h.heap.tail }, ?_⟩
  unfold vtremoteReadMsg
  rw [Call.bind_of_ok _ hread]
  simp only [hparse, if_neg hlength]
  rw [avMallocSize_of_le hbytes.allocated, Call.bind_of_error _ hmalloc]

theorem vtremoteReadMsg_eq_ok {hdr : VTRemoteMsgHeader} {payload : Bytes}
    {h h' : Host}
    (hread : vtremoteReadMsg h = .returned (.ok (hdr, payload)) h') :
    exists bytes, MessageBytes hdr payload bytes ∧
      h.stream = bytes.map .byte ++ h'.stream ∧
      arrivalsLeft h'.incoming < arrivalsLeft h.incoming := by
  unfold vtremoteReadMsg at hread
  rcases Call.bind_eq_ok hread with ⟨headerBuf, h1, hheader, hread⟩
  rcases readFull_eq_ok hheader with ⟨hlen, hstream, mid, rfl, hleft⟩
  have hpos : 0 < vtremoteHeaderSize := Nat.succ_pos 11
  cases hparse : vtremoteReadHeader headerBuf with
  | error e =>
      rw [hparse] at hread
      cases hread
  | ok out =>
      rw [hparse] at hread
      by_cases hzero : out.length = 0
      · simp only [if_pos hzero] at hread
        cases hread
        refine ⟨headerBuf, ⟨⟨headerBuf, ?_, hlen, hparse⟩, ?_, ?_⟩, hstream, ?_⟩
        · exact (List.append_nil headerBuf).symm
        · exact (payloadLength_zero hzero).symm
        · rw [hzero]
          exact Nat.zero_le _
        · show arrivalsLeft mid < _
          omega
      · simp only [if_neg hzero] at hread
        rcases Call.bind_eq_ok hread with ⟨_, h2, halloc, hread⟩
        rcases Call.bind_eq_ok hread with ⟨body, h3, hbody, hread⟩
        cases hread
        rcases avMallocSize_eq_ok halloc with ⟨hsize, _, rfl⟩
        rcases readFull_eq_ok hbody with ⟨hlen', hstream', last, rfl, hleft'⟩
        refine ⟨headerBuf ++ payload, ⟨⟨headerBuf, rfl, hlen, hparse⟩, hlen', hsize⟩,
          ?_, ?_⟩
        · rw [hstream, List.map_append, List.append_assoc]
          exact congrArg _ hstream'
        · show arrivalsLeft last < _
          have hleft'' : arrivalsLeft last + hdr.payloadLength ≤
              arrivalsLeft mid := hleft'
          omega

/-!
## Sending
-/

structure Sent (type : VTRemoteMsgType) (payload : Payload) (h : Host)
    (r : SendRecord) (result : Except AvError Unit) : Prop where
  type_eq : r.type = type
  payload_eq : r.payload = payload
  result : (result = .ok () ∧ r.Complete) ∨
    ((exists e, result = .error e) ∧ r.accepted < r.size)
  dead : Dead h.outgoing -> r.accepted = 0 ∧ Dead r.left
  reliable : Reliable eintr h.outgoing -> r.Complete ∧ Reliable eintr r.left

theorem writeFull_accepted (buf : Bytes) (out : Schedule Errno) :
    ((writeFull buf out).stop = none ∧
        (writeFull buf out).accepted = buf.length) ∨
      (exists stop, (writeFull buf out).stop = some stop ∧
        (writeFull buf out).accepted < buf.length) :=
  push_accepted eintr out.broken buf.length out.next

theorem writeFull_dead {out : Schedule Errno} (h : Dead out) (buf : Bytes) :
    (writeFull buf out).accepted = 0 ∧
      Dead { out with next := (writeFull buf out).rest } :=
  push_dead eintr h buf.length

theorem writeFull_reliable {out : Schedule Errno} (h : Reliable eintr out)
    (buf : Bytes) :
    (writeFull buf out).stop = none ∧
      Reliable eintr { out with next := (writeFull buf out).rest } := by
  cases out with
  | mk next broken =>
      have hbroken : broken = none := h.2
      subst hbroken
      exact (push_reliable eintr h buf.length).2

section Records

variable {type : VTRemoteMsgType} {payload : Payload} {h : Host} {left : Schedule Errno}
  {accepted : Nat}

theorem sent_whole (hall : accepted = vtremoteHeaderSize + payload.bytes.length)
    (halive : ¬Dead h.outgoing)
    (hreliable : Reliable eintr h.outgoing -> Reliable eintr left) :
    Sent type payload h ⟨type, payload, accepted, left⟩ (.ok ()) where
  type_eq := rfl
  payload_eq := rfl
  result := Or.inl ⟨rfl, hall⟩
  dead hd := absurd hd halive
  reliable hr := ⟨hall, hreliable hr⟩

theorem sent_cut (e : AvError)
    (hshort : accepted < vtremoteHeaderSize + payload.bytes.length)
    (hdead : Dead h.outgoing -> accepted = 0 ∧ Dead left)
    (hunreliable : ¬Reliable eintr h.outgoing) :
    Sent type payload h ⟨type, payload, accepted, left⟩ (.error e) where
  type_eq := rfl
  payload_eq := rfl
  result := Or.inr ⟨⟨e, rfl⟩, hshort⟩
  dead := hdead
  reliable hr := absurd hr hunreliable

end Records

theorem not_reliable_of_stop {buf : Bytes} {out : Schedule Errno} {stop : Stop Errno}
    (hstop : (writeFull buf out).stop = some stop) : ¬Reliable eintr out := by
  intro hr
  have hnone := (writeFull_reliable hr buf).1
  rw [hstop] at hnone
  cases hnone

/-- A message is recorded with what was taken of it, and the call succeeds if
and only if that is all of it. -/
theorem vtremoteSendMsg_sent (type : VTRemoteMsgType) (payload : Payload)
    (h : Host) :
    exists r result, Sent type payload h r result ∧
      vtremoteSendMsg type payload h =
        .returned result
          { h with outgoing := r.left, log := h.log ++ [r] } := by
  let bytes := vtremoteWriteHeader (messageHeader type payload)
  -- the socket behind the header
  let mid : Schedule Errno :=
    { h.outgoing with next := (writeFull bytes h.outgoing).rest }
  have hlen : bytes.length = vtremoteHeaderSize := rfl
  have hdead := fun hd : Dead h.outgoing => writeFull_dead hd bytes
  rcases writeFull_accepted bytes h.outgoing with
    ⟨hstop, hacc⟩ | ⟨stop, hstop, hacc⟩
  · have halive : ¬Dead h.outgoing := by
      intro hd
      have hzero := (hdead hd).1
      rw [hacc, hlen] at hzero
      cases hzero
    have hreliable := fun hr : Reliable eintr h.outgoing =>
      (writeFull_reliable hr bytes).2
    by_cases hempty : payload.bytes.length = 0
    · have hall : (writeFull bytes h.outgoing).accepted =
          vtremoteHeaderSize + payload.bytes.length := by
        rw [hacc, hempty]
        rfl
      refine ⟨_, _, sent_whole hall halive hreliable, ?_⟩
      unfold vtremoteSendMsg
      simp only [bytes, hstop, if_pos hempty]
      rfl
    · have hreliable' := fun hr => (writeFull_reliable (hreliable hr) payload.bytes).2
      rcases writeFull_accepted payload.bytes mid with
        ⟨hstop', hacc'⟩ | ⟨stop, hstop', hacc'⟩
      · have hall : (writeFull bytes h.outgoing).accepted +
            (writeFull payload.bytes mid).accepted =
            vtremoteHeaderSize + payload.bytes.length :=
          congrArg₂ (· + ·) (hacc.trans hlen) hacc'
        refine ⟨_, _, sent_whole hall halive hreliable', ?_⟩
        unfold vtremoteSendMsg
        simp only [bytes, mid, hstop, hstop', if_neg hempty]
        rfl
      · have hshort : (writeFull bytes h.outgoing).accepted +
            (writeFull payload.bytes mid).accepted <
            vtremoteHeaderSize + payload.bytes.length :=
          Nat.add_lt_add_of_le_of_lt (hacc.trans hlen).le hacc'
        have hunreliable := fun hr => not_reliable_of_stop hstop' (hreliable hr)
        let left := { mid with next := (writeFull payload.bytes mid).rest }
        refine ⟨⟨type, payload, _, left⟩, _,
          sent_cut (stopError stop) hshort (absurd · halive) hunreliable, ?_⟩
        unfold vtremoteSendMsg
        simp only [bytes, mid, hstop, hstop', if_neg hempty]
        rfl
  · have hshort := Nat.lt_add_right payload.bytes.length (hlen ▸ hacc)
    have hunreliable := not_reliable_of_stop hstop
    refine ⟨_, _, sent_cut (stopError stop) hshort hdead hunreliable, ?_⟩
    unfold vtremoteSendMsg
    simp only [bytes, hstop]
    rfl

/-!
## Calls that send nothing
-/

def SendsNothing (h h' : Host) : Prop :=
  h'.log = h.log ∧ h'.outgoing = h.outgoing

instance : IsPreorder Host SendsNothing where
  refl _ := ⟨rfl, rfl⟩
  trans _ _ _ h1 h2 := ⟨h2.1.trans h1.1, h2.2.trans h1.2⟩

theorem avMalloc_sendsNothing : Call.Moves SendsNothing avMalloc := by
  intro h
  rw [avMalloc_eq]
  exact ⟨rfl, rfl⟩

theorem readFull_sendsNothing (size : Nat) :
    Call.Moves SendsNothing (readFull size) := by
  intro h
  unfold readFull
  split
  · exact ⟨rfl, rfl⟩
  · exact ⟨rfl, rfl⟩
  · exact ⟨rfl, rfl⟩
  · exact ⟨rfl, rfl⟩

/-- What reading bytes and allocating preserve, reading a message preserves. -/
theorem vtremoteReadMsg_moves {R : Host -> Host -> Prop} [IsPreorder Host R]
    (hread : forall size, Call.Moves R (readFull size))
    (hmalloc : Call.Moves R avMalloc) : Call.Moves R vtremoteReadMsg := by
  apply Call.Moves.bind (hread _)
  intro headerBuf
  cases vtremoteReadHeader headerBuf with
  | error e => exact Call.Moves.fail e
  | ok hdr =>
      show Call.Moves R (if hdr.length = 0 then _ else _)
      split
      · exact Call.Moves.pure _
      · have hsize : Call.Moves R (avMallocSize hdr.length.toNat) := by
          unfold avMallocSize
          split
          · exact Call.Moves.fail _
          · exact hmalloc
        apply Call.Moves.bind hsize
        intro _
        apply Call.Moves.bind (hread _)
        intro payload
        exact Call.Moves.pure _

theorem vtremoteReadMsg_sendsNothing :
    Call.Moves SendsNothing vtremoteReadMsg :=
  vtremoteReadMsg_moves readFull_sendsNothing avMalloc_sendsNothing

theorem checkReadable_sendsNothing :
    Call.Moves SendsNothing checkReadable := by
  intro h
  unfold checkReadable
  split
  · exact ⟨rfl, rfl⟩
  · exact ⟨rfl, rfl⟩
  · split
    · exact ⟨rfl, rfl⟩
    · split
      · exact ⟨rfl, rfl⟩
      · exact ⟨rfl, rfl⟩
  · exact ⟨rfl, rfl⟩

theorem vtremoteReadMsgNonblock_sendsNothing :
    Call.Moves SendsNothing vtremoteReadMsgNonblock := by
  apply Call.Moves.bind checkReadable_sendsNothing
  intro ready
  split
  · exact Call.Moves.fail _
  · exact vtremoteReadMsg_sendsNothing

/-!
## The arrivals that are left
-/

def ReadsOn (h h' : Host) : Prop :=
  arrivalsLeft h'.incoming ≤ arrivalsLeft h.incoming

instance : IsPreorder Host ReadsOn where
  refl _ := Nat.le_refl _
  trans _ _ _ h1 h2 := Nat.le_trans h2 h1

theorem avMalloc_readsOn : Call.Moves ReadsOn avMalloc := by
  intro h
  rw [avMalloc_eq]
  exact Nat.le_refl _

theorem vtremoteSendMsg_readsOn (type : VTRemoteMsgType) (payload : Payload) :
    Call.Moves ReadsOn (vtremoteSendMsg type payload) := by
  intro h
  rcases vtremoteSendMsg_sent type payload h with ⟨r, result, _, hcall⟩
  rw [hcall]
  exact Nat.le_refl _

theorem readFull_readsOn (size : Nat) : Call.Moves ReadsOn (readFull size) := by
  intro h
  have hle := arrivalsLeft_rest_le eintr size [] h.incoming
  unfold readFull
  cases hfill : fill eintr size [] h.incoming with
  | done bytes rest =>
      rw [hfill] at hle
      exact hle
  | failed e got rest =>
      rw [hfill] at hle
      exact hle
  | closed got rest =>
      rw [hfill] at hle
      exact hle
  | starved got rest =>
      rw [hfill] at hle
      exact hle

theorem vtremoteReadMsg_readsOn : Call.Moves ReadsOn vtremoteReadMsg :=
  vtremoteReadMsg_moves readFull_readsOn avMalloc_readsOn

theorem checkReadable_readsOn : Call.Moves ReadsOn checkReadable := by
  intro h
  unfold checkReadable
  split
  · exact Nat.le_refl _
  · next rest hincoming =>
      show arrivalsLeft rest ≤ arrivalsLeft h.incoming
      rw [hincoming]
      exact Nat.le_add_left _ _
  · next e rest hincoming =>
      split
      · show arrivalsLeft rest ≤ arrivalsLeft h.incoming
        rw [hincoming]
        exact Nat.le_add_left _ _
      · split
        · exact Nat.le_refl _
        · exact Nat.le_refl _
  · exact Nat.le_refl _

theorem vtremoteReadMsgNonblock_readsOn :
    Call.Moves ReadsOn vtremoteReadMsgNonblock := by
  apply Call.Moves.bind checkReadable_readsOn
  intro ready
  split
  · exact Call.Moves.fail _
  · exact vtremoteReadMsg_readsOn

theorem vtremoteReadMsg_consumes {h h' : Host}
    {message : VTRemoteMsgHeader × Bytes}
    (hread : vtremoteReadMsg h = .returned (.ok message) h') :
    arrivalsLeft h'.incoming < arrivalsLeft h.incoming := by
  rcases vtremoteReadMsg_eq_ok hread with ⟨_, _, _, hlt⟩
  exact hlt

theorem vtremoteReadMsgNonblock_consumes {h h' : Host}
    {message : VTRemoteMsgHeader × Bytes}
    (hread : vtremoteReadMsgNonblock h = .returned (.ok message) h') :
    arrivalsLeft h'.incoming < arrivalsLeft h.incoming := by
  rcases Call.bind_eq_ok hread with ⟨ready, h1, hready, hnext⟩
  have hmoves := checkReadable_readsOn h
  rw [hready] at hmoves
  split at hnext
  · cases hnext
  · exact Nat.lt_of_lt_of_le (vtremoteReadMsg_consumes hnext) hmoves

end VTRemote
