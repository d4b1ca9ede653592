import VTRemote.Client.Delivery

/-!
# Retriable reads

`AVERROR(EAGAIN)` from `vtremote_read_msg` makes its callers try again later.
The read is then at a message boundary, unless the timeout fell exactly between
a header and its payload.
-/

namespace VTRemote

/-- When a read of a message asks to be retried, no byte has been consumed: only
the timeout is gone, and the next message that is read stood behind it. -/
def RetriesAtBoundary (h : Host) : Prop :=
  forall h', vtremoteReadMsg h = .returned (.error (averror eagain)) h' ->
    h.stream = .fail eagain :: h'.stream ∧
      forall hdr payload h'',
        vtremoteReadMsg h' = .returned (.ok (hdr, payload)) h'' ->
        exists bytes, MessageBytes hdr payload bytes ∧
          h.stream = .fail eagain :: (bytes.map .byte ++ h''.stream)

/-- A whole header whose payload is not empty arrives, and the next request
times out. -/
def TornHeader (h : Host) : Prop :=
  exists headerBuf hdr rest, headerBuf.length = vtremoteHeaderSize ∧
    vtremoteReadHeader headerBuf = .ok hdr ∧ 0 < hdr.payloadLength ∧
    h.Grants ∧ h.stream = headerBuf.map .byte ++ .fail eagain :: rest

/-- Only a timeout before the first byte is reported as one. -/
theorem readErrno_eq_eagain {e : Errno} {got : Bytes}
    (h : readErrno e got = eagain) : e = eagain ∧ got = [] := by
  unfold readErrno at h
  by_cases he : e = eagain
  · rw [if_pos he] at h
    by_cases hgot : got.length = 0
    · exact ⟨he, List.eq_nil_of_length_eq_zero hgot⟩
    · rw [if_neg hgot] at h
      cases h
  · rw [if_neg he] at h
    exact absurd h he

theorem vtremoteReadHeader_ne_eagain {bytes : List UInt8} {e : AvError}
    (h : vtremoteReadHeader bytes = .error e) : e ≠ averror eagain := by
  have hinvalid : averrorInvaliddata ≠ averror eagain := by decide
  have heinval : averror einval ≠ averror eagain := by decide
  unfold vtremoteReadHeader at h
  split at h
  · simp only at h
    split at h
    · rw [<- Except.error.inj h]
      exact hinvalid
    · split at h
      · rw [<- Except.error.inj h]
        exact hinvalid
      · exact absurd h (by simp)
  · rw [<- Except.error.inj h]
    exact heinval

theorem readFull_eq_eagain {size : Nat} {h h' : Host}
    (hread : readFull size h = .returned (.error (averror eagain)) h') :
    0 < size ∧ h.stream = .fail eagain :: h'.stream := by
  rcases readFull_eq_error hread with heof | ⟨errno, got, he, hlen, hstream⟩
  · exact absurd heof.symm averrorEof_ne_eagain
  · rcases readErrno_eq_eagain (averror_injective he).symm with ⟨rfl, rfl⟩
    exact ⟨hlen, hstream⟩

/-- The timeout was the next thing to happen, or it tore a message. -/
theorem vtremoteReadMsg_eq_eagain {h h' : Host}
    (hread : vtremoteReadMsg h = .returned (.error (averror eagain)) h') :
    h.stream = .fail eagain :: h'.stream ∨ TornHeader h := by
  unfold vtremoteReadMsg at hread
  rcases Call.bind_eq_error hread with hheader | ⟨headerBuf, h1, hheader, hread⟩
  · exact Or.inl (readFull_eq_eagain hheader).2
  · rcases readFull_eq_ok hheader with ⟨hlen, hstream, mid, rfl, _⟩
    cases hparse : vtremoteReadHeader headerBuf with
    | error e =>
        rw [hparse] at hread
        injection hread with hread
        injection hread with hread
        exact absurd hread (vtremoteReadHeader_ne_eagain hparse)
    | ok hdr =>
        rw [hparse] at hread
        by_cases hzero : hdr.length = 0
        · simp only [if_pos hzero] at hread
          cases hread
        · simp only [if_neg hzero] at hread
          rcases Call.bind_eq_error hread with halloc | ⟨_, h2, halloc, hread⟩
          · have he : eagain = enomem :=
              averror_injective (avMallocSize_eq_error halloc)
            cases he
          · rcases Call.bind_eq_error hread with hbody | ⟨body, h3, _, hread⟩
            · rcases readFull_eq_eagain hbody with ⟨hpos, hstream'⟩
              rcases avMallocSize_eq_ok halloc with ⟨_, hgrants, rfl⟩
              right
              refine ⟨headerBuf, hdr, h'.stream, hlen, hparse, hpos, hgrants, ?_⟩
              rw [hstream]
              exact congrArg _ hstream'
            · cases hread

/-- A torn header is consumed, and the read asks to be retried all the same. -/
theorem vtremoteReadMsg_of_torn {h : Host} (htorn : TornHeader h) :
    exists h', vtremoteReadMsg h = .returned (.error (averror eagain)) h' ∧
      h.stream ≠ .fail eagain :: h'.stream := by
  rcases htorn with ⟨headerBuf, hdr, rest, hlen, hparse, hpos, hgrants, hstream⟩
  rcases readFull_bytes hstream with ⟨mid, hheader, hmid, _⟩
  rw [hlen] at hheader
  have hzero : hdr.length ≠ 0 := by
    intro hzero
    rw [payloadLength_zero hzero] at hpos
    exact Nat.lt_irrefl 0 hpos
  have hsize : hdr.length.toNat ≤ maxAllocSize := by
    -- a length above `INT_MAX` is negative as an `int`
    have hcint := cInt_uint32 hdr.length.toNat_lt
    unfold VTRemoteMsgHeader.payloadLength at hpos
    rw [hcint] at hpos
    show hdr.length.toNat ≤ 2147483647
    have hlt := hdr.length.toNat_lt
    by_contra hlarge
    rw [if_neg (by omega)] at hpos
    omega
  have hgrants' : ({ h with incoming := mid } : Host).Grants := hgrants
  have hstream' : ({ h with incoming := mid, heap := h.heap.tail } :
      Host).stream = .fail eagain :: rest := hmid
  rcases readFull_fail hpos hstream' with ⟨last, hbody, _⟩
  refine ⟨{ h with incoming := last, heap := h.heap.tail }, ?_, ?_⟩
  · unfold vtremoteReadMsg
    rw [Call.bind_of_ok _ hheader]
    simp only [hparse, if_neg hzero]
    rw [avMallocSize_of_le hsize, Call.bind_of_ok _ (avMalloc_of_grants hgrants'),
      Call.bind_of_error _ hbody]
  · rw [hstream]
    intro heq
    cases headerBuf with
    | nil => cases hlen
    | cons b bytes => cases heq

theorem not_retriesAtBoundary {h : Host} (htorn : TornHeader h) :
    ¬ RetriesAtBoundary h := by
  intro hboundary
  rcases vtremoteReadMsg_of_torn htorn with ⟨h', hread, hne⟩
  exact hne (hboundary h' hread).1

theorem retriesAtBoundary_of_not_torn {h : Host} (htorn : ¬ TornHeader h) :
    RetriesAtBoundary h := by
  intro h' hread
  rcases vtremoteReadMsg_eq_eagain hread with hstream | htorn'
  · refine ⟨hstream, ?_⟩
    intro hdr payload h'' hnext
    rcases vtremoteReadMsg_eq_ok hnext with ⟨bytes, hbytes, hstream', _⟩
    refine ⟨bytes, hbytes, ?_⟩
    rw [hstream, hstream']
  · exact absurd htorn' htorn

/-- A read that asks to be retried is at a message boundary if and only if no
timeout falls between a header and its payload. -/
theorem retriesAtBoundary_iff (h : Host) :
    RetriesAtBoundary h <-> ¬ TornHeader h := by
  constructor
  · intro hboundary htorn
    exact not_retriesAtBoundary htorn hboundary
  · exact retriesAtBoundary_of_not_torn

/-- A PACKET of one byte whose payload is late. -/
def lateHost : Host where
  incoming :=
    [.data 0x56 [0x54, 0x52, 0x31, 0, 1, 0, 6, 0, 0, 0, 1], .fail eagain,
      .data 7 []]
  outgoing := { next := [], broken := none }
  heap := []
  log := []

/-- The header is gone when the read is to be retried. -/
theorem not_retriesAtBoundary_late : ¬ RetriesAtBoundary lateHost := by
  apply not_retriesAtBoundary
  refine ⟨[0x56, 0x54, 0x52, 0x31, 0, 1, 0, 6, 0, 0, 0, 1],
    ⟨vtremoteProtoMagic, 1, 6, 1⟩, [.byte 7], rfl, by decide, by decide,
    by decide, by decide⟩

end VTRemote
