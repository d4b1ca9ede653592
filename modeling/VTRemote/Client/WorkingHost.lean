import VTRemote.Client.Delivery

/-!
# Messages on a working connection

On a connection that takes what is sent and with memory that is granted, whole
messages are sent and read.
-/

namespace VTRemote

attribute [local irreducible] cInt

def Host.Granted (h : Host) : Prop := forall grant, grant ∈ h.heap -> grant = true

instance (h : Host) : Decidable h.Granted :=
  inferInstanceAs (Decidable (forall grant, grant ∈ _ -> _))

theorem Host.Granted.grants {h : Host} (hgranted : h.Granted) : h.Grants := by
  intro hhead
  have hfalse := hgranted false (List.mem_of_mem_head? hhead)
  cases hfalse

theorem Host.Granted.malloc {h : Host} (hgranted : h.Granted) :
    avMalloc h = .returned (.ok ()) { h with heap := h.heap.tail } ∧
      ({ h with heap := h.heap.tail } : Host).Granted :=
  ⟨avMalloc_of_grants hgranted.grants,
    fun grant hgrant => hgranted grant (List.mem_of_mem_tail hgrant)⟩

/-- A working connection: what is sent is taken in the end, and memory is
granted. -/
structure Host.Working (h : Host) : Prop where
  reliable : Reliable eintr h.outgoing
  granted : h.Granted

/-!
## Sending a message
-/

/-- What the connection does while nothing is read: sending and allocating. -/
def Idles (fd fd' : Host) : Prop :=
  fd'.incoming = fd.incoming ∧ (fd.Working -> fd'.Working)

instance : IsPreorder Host Idles where
  refl _ := ⟨rfl, fun h => h⟩
  trans _ _ _ h1 h2 := ⟨h2.1.trans h1.1, fun h => h2.2 (h1.2 h)⟩

theorem avMalloc_idles : Call.Moves Idles avMalloc := by
  intro h
  rw [avMalloc_eq]
  refine ⟨rfl, ?_⟩
  intro hworking
  exact ⟨hworking.reliable, hworking.granted.malloc.2⟩

theorem vtremoteSendMsg_idles (type : VTRemoteMsgType) (payload : Payload) :
    Call.Moves Idles (vtremoteSendMsg type payload) := by
  intro h
  rcases vtremoteSendMsg_sent type payload h with ⟨r, result, hsent, hcall⟩
  rw [hcall]
  refine ⟨rfl, ?_⟩
  intro hworking
  exact ⟨(hsent.reliable hworking.reliable).2, hworking.granted⟩

theorem vtremoteSendMsg_of_working {h : Host} (hworking : h.Working)
    (type : VTRemoteMsgType) (payload : Payload) :
    exists h', vtremoteSendMsg type payload h = .returned (.ok ()) h' ∧
      Idles h h' := by
  have hidles := vtremoteSendMsg_idles type payload h
  rcases vtremoteSendMsg_sent type payload h with ⟨r, result, hsent, hcall⟩
  rw [hcall] at hidles
  refine ⟨_, ?_, hidles⟩
  rw [hcall]
  rcases hsent.result with ⟨hok, _⟩ | ⟨_, hless⟩
  · rw [hok]
  · have hcomplete := (hsent.reliable hworking.reliable).1
    unfold SendRecord.Complete at hcomplete
    omega

/-!
## Reading a message
-/

theorem messageHeader_payloadLength (type : VTRemoteMsgType)
    (payload : Payload) :
    (cInt (messageHeader type payload).length.toNat) =
      payload.bytes.length :=
  cInt_uint32_ofNat payload.length_le

theorem wireMessage_bytes (type : VTRemoteMsgType) (payload : Payload) :
    MessageBytes (messageHeader type payload) payload.bytes
      (wireMessage type payload) where
  header := ⟨_, rfl, rfl, vtremoteReadHeader_write rfl rfl⟩
  payload := by
    unfold VTRemoteMsgHeader.payloadLength
    rw [messageHeader_payloadLength, Int.toNat_natCast]
  allocated := by
    have hmod : (UInt32.ofNat payload.bytes.length).toNat ≤ payload.bytes.length :=
      Nat.mod_le _ _
    exact Nat.le_trans hmod payload.length_le

theorem messageHeader_type (type : VTRemoteMsgType) (payload : Payload) :
    VTRemoteMsgType.ofCode (messageHeader type payload).type = some type :=
  VTRemoteMsgType.ofCode_code type

theorem vtremoteReadMsg_wire {type : VTRemoteMsgType} {payload : Payload}
    {h : Host} {rest : List (Atom Errno)} (hworking : h.Working)
    (hstream : h.stream = (wireMessage type payload).map .byte ++ rest) :
    exists h', vtremoteReadMsg h =
        .returned (.ok (messageHeader type payload, payload.bytes)) h' ∧
      h'.stream = rest ∧ h'.Working := by
  rcases vtremoteReadMsg_bytes (wireMessage_bytes type payload) hstream
    (fun _ => hworking.granted.grants) with
    ⟨incoming, heap, hread, hrest, _, hheap⟩
  refine ⟨_, hread, hrest, hworking.reliable, ?_⟩
  rcases hheap with rfl | rfl
  · exact hworking.granted
  · exact hworking.granted.malloc.2

theorem vtremoteReadMsg_eof {h : Host} (hstream : h.stream = [.eof])
    (hworking : h.Working) :
    exists h', vtremoteReadMsg h = .returned (.error averrorEof) h' ∧
      h'.stream = [.eof] ∧ h'.Working := by
  rcases readFull_eof (Nat.succ_pos 11) hstream with ⟨incoming, hread, hrest⟩
  refine ⟨_, Call.bind_of_error _ hread, hrest, ?_⟩
  exact ⟨hworking.reliable, hworking.granted⟩

theorem checkReadable_cases (h : Host) (hfail : .fail eagain ∉ h.stream)
    (hne : h.stream ≠ []) :
    (exists ready incoming, ready ≤ 0 ∧ checkReadable h =
        .returned (.ok ready) { h with incoming } ∧
        atoms eintr incoming = h.stream ∧ h.incoming.head? ≠ some .close) ∨
      (checkReadable h = .returned (.ok 1) h ∧
        (h.stream = [.eof] -> h.incoming.head? = some .close)) := by
  unfold Host.stream at hfail hne ⊢
  unfold checkReadable
  cases hin : h.incoming with
  | nil =>
      rw [hin] at hne
      exact absurd rfl hne
  | cons arrival rest =>
      rw [hin] at hfail
      cases arrival with
      | data first more =>
          right
          refine ⟨rfl, ?_⟩
          intro heof
          cases heof
      | quiet =>
          left
          exact ⟨0, rest, Int.le_refl 0, rfl, rfl, by simp⟩
      | fail e =>
          by_cases he : e = eintr
          · left
            refine ⟨-1, rest, by decide, ?_, ?_, by simp⟩
            · simp only [if_pos he]
            · simp only [atoms, if_pos he]
          · by_cases heagain : e = eagain
            · refine absurd ?_ hfail
              simp only [atoms, heagain]
              exact List.mem_cons_self
            · right
              refine ⟨?_, ?_⟩
              · simp only [if_neg he, if_neg heagain]
              · intro heof
                simp only [atoms, if_neg he] at heof
                cases heof
      | close =>
          right
          exact ⟨rfl, fun _ => rfl⟩

theorem vtremoteReadMsgNonblock_cases (h : Host)
    (hfail : .fail eagain ∉ h.stream) (hne : h.stream ≠ []) :
    (exists incoming, vtremoteReadMsgNonblock h =
        .returned (.error (averror eagain)) { h with incoming } ∧
        atoms eintr incoming = h.stream ∧ h.incoming.head? ≠ some .close) ∨
      (vtremoteReadMsgNonblock h = vtremoteReadMsg h ∧
        (h.stream = [.eof] -> h.incoming.head? = some .close)) := by
  rcases checkReadable_cases h hfail hne with
    ⟨ready, incoming, hready, hpoll, hstream, hclose⟩ | ⟨hpoll, hclose⟩
  · left
    refine ⟨incoming, ?_, hstream, hclose⟩
    unfold vtremoteReadMsgNonblock
    rw [Call.bind_of_ok _ hpoll, if_pos hready]
    rfl
  · right
    refine ⟨?_, hclose⟩
    unfold vtremoteReadMsgNonblock
    rw [Call.bind_of_ok _ hpoll, if_neg (by decide)]

end VTRemote
