import VTRemote.Client.EncoderSteps
import VTRemote.Client.WorkingHost

/-!
# What a connection offers

The messages that a client finds on its connection, with the moments at which it
finds none, and how far the two reading functions of the encoder get with them.
-/

namespace VTRemote

attribute [local irreducible] cInt

/-- What comes next: a client that does not wait finds nothing, or there is a
message, or the server has closed the connection. -/
inductive WireOffer where
  | pause
  | message (hdr : VTRemoteMsgHeader) (payload : Bytes)
  | close

/-- A PACKET that can be parsed and stored. -/
def Storable (hdr : VTRemoteMsgHeader) (payload : Bytes) : Prop :=
  exists view, vtremoteParsePacket payload (cInt hdr.length.toNat) = .ok view ∧
    view.Allocatable

structure WireMessage where
  hdr : VTRemoteMsgHeader
  payload : Bytes
  bytes : Bytes
  wire : MessageBytes hdr payload bytes
  storable : VTRemoteMsgType.ofCode hdr.type = some .packet -> Storable hdr payload

def WireMessage.of (type : VTRemoteMsgType) (payload : Payload)
    (hstorable : type = .packet ->
      Storable (messageHeader type payload) payload.bytes) : WireMessage where
  hdr := messageHeader type payload
  payload := payload.bytes
  bytes := wireMessage type payload
  wire := wireMessage_bytes type payload
  storable := by
    intro htype
    rw [messageHeader_type] at htype
    exact hstorable (Option.some.inj htype)

def messageStream (messages : List WireMessage) : List (Atom Errno) :=
  (messages.flatMap WireMessage.bytes).map .byte

inductive Brings (arrivals : List (Arrival Errno)) (hdr : VTRemoteMsgHeader)
    (payload : Bytes) (rest : List (Arrival Errno)) : Prop where
  | intro {headerBuf : Bytes} {mid : List (Arrival Errno)}
      (hheader : fill eintr vtremoteHeaderSize [] arrivals = .done headerBuf mid)
      (hparse : vtremoteReadHeader headerBuf = .ok hdr)
      (hsize : hdr.length.toNat ≤ maxAllocSize)
      (hpayload : fill eintr hdr.payloadLength [] mid = .done payload rest)

inductive WireOffers : List (Arrival Errno) -> List WireOffer -> Prop where
  | nothing : WireOffers [] []
  | quiet {rest : List (Arrival Errno)} {offers : List WireOffer}
      (h : WireOffers rest offers) : WireOffers (.quiet :: rest) (.pause :: offers)
  | interrupted {rest : List (Arrival Errno)} {offers : List WireOffer}
      (h : WireOffers rest offers) : WireOffers (.fail eintr :: rest) (.pause :: offers)
  | message {b : UInt8} {bs : List UInt8} {more rest : List (Arrival Errno)}
      {hdr : VTRemoteMsgHeader} {payload : Bytes} {offers : List WireOffer}
      (hbrings : Brings (.data b bs :: more) hdr payload rest)
      (hstorable : VTRemoteMsgType.ofCode hdr.type = some .packet ->
        Storable hdr payload)
      (h : WireOffers rest offers) :
      WireOffers (.data b bs :: more) (.message hdr payload :: offers)
  | closed {rest : List (Arrival Errno)} : WireOffers (.close :: rest) [.close]

def WireOffer.messages : List WireOffer -> List (VTRemoteMsgHeader × Bytes)
  | [] => []
  | .message hdr payload :: rest => (hdr, payload) :: messages rest
  | _ :: rest => messages rest

/-!
## Every grouping of the bytes
-/

theorem brings_of_atoms {arrivals : List (Arrival Errno)}
    {hdr : VTRemoteMsgHeader} {payload bytes : Bytes} {tail : List (Atom Errno)}
    (hwire : MessageBytes hdr payload bytes)
    (hatoms : atoms eintr arrivals = bytes.map .byte ++ tail) :
    exists rest, Brings arrivals hdr payload rest ∧ atoms eintr rest = tail ∧
      arrivalsLeft rest < arrivalsLeft arrivals := by
  rcases hwire.header with ⟨headerBuf, rfl, hlen, hparse⟩
  rw [List.map_append, List.append_assoc] at hatoms
  have hheader := fill_atoms eintr vtremoteHeaderSize [] arrivals
  rw [hatoms, <- hlen, fillAtoms_done] at hheader
  cases hfill : fill eintr headerBuf.length [] arrivals with
  | done got mid =>
      rw [hfill] at hheader
      injection hheader with hgot hmid
      subst hgot
      have hpayload := fill_atoms eintr payload.length [] mid
      rw [hmid, fillAtoms_done] at hpayload
      cases hfill' : fill eintr payload.length [] mid with
      | done got' rest =>
          rw [hfill'] at hpayload
          injection hpayload with hgot' hrest
          subst hgot'
          have hleft := arrivalsLeft_fill eintr hfill
          have hleft' := arrivalsLeft_fill eintr hfill'
          rw [hlen] at hfill hleft
          rw [hwire.payload] at hfill'
          have hpos : 0 < vtremoteHeaderSize := Nat.succ_pos 11
          exact ⟨rest, ⟨hfill, hparse, hwire.allocated, hfill'⟩, hrest, by omega⟩
      | failed e got' rest =>
          rw [hfill'] at hpayload
          cases hpayload
      | closed got' rest =>
          rw [hfill'] at hpayload
          cases hpayload
      | starved got' rest =>
          rw [hfill'] at hpayload
          cases hpayload
  | failed e got mid =>
      rw [hfill] at hheader
      cases hheader
  | closed got mid =>
      rw [hfill] at hheader
      cases hheader
  | starved got mid =>
      rw [hfill] at hheader
      cases hheader

theorem MessageBytes.ne_nil {hdr : VTRemoteMsgHeader} {payload bytes : Bytes}
    (h : MessageBytes hdr payload bytes) : bytes ≠ [] := by
  rcases h.header with ⟨headerBuf, rfl, hlen, _⟩
  intro hnil
  have hzero := congrArg List.length hnil
  rw [List.length_append, hlen] at hzero
  cases (Nat.add_eq_zero_iff.mp hzero).1

/-- However the bytes of the messages arrive, and whenever the connection is
silent, they are offered. -/
theorem exists_offers {messages : List WireMessage} {tail : List (Atom Errno)}
    (htail : tail = [] ∨ tail = [.eof]) {arrivals : List (Arrival Errno)}
    (hatoms : atoms eintr arrivals = messageStream messages ++ tail) :
    exists offers, WireOffers arrivals offers ∧
      WireOffer.messages offers = messages.map fun m => (m.hdr, m.payload) := by
  induction hsize : arrivalsLeft arrivals using Nat.strong_induction_on
    generalizing arrivals messages with
  | _ size ih =>
  subst hsize
  have hlater : forall {rest : List (Arrival Errno)},
      arrivalsLeft rest < arrivalsLeft arrivals ->
      atoms eintr rest = messageStream messages ++ tail ->
      exists offers, WireOffers rest offers ∧
        WireOffer.messages offers = messages.map fun m => (m.hdr, m.payload) :=
    fun hlt hrest => ih _ hlt hrest rfl
  cases arrivals with
  | nil =>
      have hnil : messageStream messages = [] :=
        (List.append_eq_nil_iff.mp hatoms.symm).1
      cases messages with
      | nil => exact ⟨[], .nothing, rfl⟩
      | cons m messages =>
          unfold messageStream at hnil
          rw [List.map_eq_nil_iff, List.flatMap_cons, List.append_eq_nil_iff] at hnil
          exact absurd hnil.1 m.wire.ne_nil
  | cons arrival more =>
      cases arrival with
      | quiet =>
          rcases hlater (Nat.lt_add_of_pos_left Nat.one_pos) hatoms with
            ⟨offers, hoffers, hmessages⟩
          exact ⟨.pause :: offers, .quiet hoffers, hmessages⟩
      | fail e =>
          by_cases he : e = eintr
          · subst he
            rcases hlater (Nat.lt_add_of_pos_left Nat.one_pos)
              ((if_pos rfl).symm.trans hatoms) with ⟨offers, hoffers, hmessages⟩
            exact ⟨.pause :: offers, .interrupted hoffers, hmessages⟩
          · have hfail : Atom.fail e ∈ messageStream messages ++ tail := by
              rw [<- hatoms]
              unfold atoms
              rw [if_neg he]
              exact List.mem_cons_self
            rcases List.mem_append.mp hfail with hmem | hmem
            · rcases List.mem_map.mp hmem with ⟨_, _, hbyte⟩
              cases hbyte
            · rcases htail with rfl | rfl
              · cases hmem
              · cases List.mem_singleton.mp hmem
      | close =>
          cases messages with
          | nil => exact ⟨[.close], .closed, rfl⟩
          | cons m messages =>
              have hne := m.wire.ne_nil
              cases hbytes : m.bytes with
              | nil => exact absurd hbytes hne
              | cons b bs =>
                  unfold messageStream at hatoms
                  rw [List.flatMap_cons, hbytes] at hatoms
                  cases hatoms
      | data b bs =>
          cases messages with
          | nil =>
              rcases htail with rfl | rfl
              · cases hatoms
              · cases hatoms
          | cons m messages =>
              have hsplit : messageStream (m :: messages) ++ tail =
                  m.bytes.map .byte ++ (messageStream messages ++ tail) := by
                unfold messageStream
                rw [List.flatMap_cons, List.map_append, List.append_assoc]
              rcases brings_of_atoms m.wire (hatoms.trans hsplit) with
                ⟨rest, hbrings, hrest, hlt⟩
              rcases ih _ hlt hrest rfl with ⟨offers, hoffers, hmessages⟩
              refine ⟨.message m.hdr m.payload :: offers,
                .message hbrings m.storable hoffers, ?_⟩
              unfold WireOffer.messages
              rw [hmessages]
              rfl

/-- The stream of the host is made of these messages, behind which the connection
may be closed. -/
def Host.Streams (h : Host) (messages : List WireMessage) : Prop :=
  h.stream = messageStream messages ∨ h.stream = messageStream messages ++ [.eof]

instance (h : Host) (messages : List WireMessage) : Decidable (h.Streams messages) :=
  inferInstanceAs (Decidable (_ ∨ _))

theorem Host.Streams.offers {h : Host} {messages : List WireMessage}
    (hstreams : h.Streams messages) : exists offers, WireOffers h.incoming offers := by
  rcases hstreams with hstream | hstream
  · rcases exists_offers (Or.inl rfl) (hstream.trans (List.append_nil _).symm) with
      ⟨offers, hoffers, _⟩
    exact ⟨offers, hoffers⟩
  · rcases exists_offers (Or.inr rfl) hstream with ⟨offers, hoffers, _⟩
    exact ⟨offers, hoffers⟩

/-!
## How far the reading functions get
-/

/-- How the opening drain of a call ends: with nothing left that it can take at
once, with DONE, with an error, or not at all. -/
inductive DrainEnd where
  | stops
  | done
  | fails
  | waits
deriving DecidableEq

def DrainEnd.Succeeds (last : DrainEnd) : Prop := last = .stops ∨ last = .done

instance (last : DrainEnd) : Decidable last.Succeeds :=
  inferInstanceAs (Decidable (_ ∨ _))

structure Drainage where
  packets : Nat
  pings : Nat
  last : DrainEnd
  rest : List WireOffer

/-- What `vtremote_drain_available_packets` takes, with room for as many packets. -/
def drained : Nat -> List WireOffer -> Drainage
  | 0, offers => { packets := 0, pings := 0, last := .stops, rest := offers }
  | _ + 1, [] => { packets := 0, pings := 0, last := .waits, rest := [] }
  | _ + 1, .pause :: rest =>
      { packets := 0, pings := 0, last := .stops, rest := rest }
  | _ + 1, .close :: rest =>
      { packets := 0, pings := 0, last := .fails, rest := .close :: rest }
  | room + 1, .message hdr _ :: rest =>
      match VTRemoteMsgType.ofCode hdr.type with
      | some .packet =>
          let d := drained room rest
          { d with packets := d.packets + 1 }
      | some .done => { packets := 0, pings := 0, last := .done, rest := rest }
      | some .ping =>
          let d := drained (room + 1) rest
          { d with pings := d.pings + 1 }
      | some .error => { packets := 0, pings := 0, last := .fails, rest := rest }
      | _ => drained (room + 1) rest

inductive AwaitEnd where
  | packet
  | fails
  | waits
deriving DecidableEq

structure Awaited where
  pings : Nat
  last : AwaitEnd
  rest : List WireOffer

/-- What `ff_vtremote_common_receive_packet` takes until it has a packet. -/
def awaited : List WireOffer -> Awaited
  | [] => { pings := 0, last := .waits, rest := [] }
  | .pause :: rest => awaited rest
  | .close :: rest => { pings := 0, last := .fails, rest := .close :: rest }
  | .message hdr _ :: rest =>
      match VTRemoteMsgType.ofCode hdr.type with
      | some .packet => { pings := 0, last := .packet, rest := rest }
      | some .done => { pings := 0, last := .fails, rest := rest }
      | some .ping =>
          let a := awaited rest
          { a with pings := a.pings + 1 }
      | some .error => { pings := 0, last := .fails, rest := rest }
      | _ => awaited rest

end VTRemote
