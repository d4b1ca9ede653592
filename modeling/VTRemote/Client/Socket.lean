import VTRemote.Library.ByteStream
import VTRemote.Library.Call
import VTRemote.Proto.Header
import VTRemote.Proto.Payload

/-!
# Messages over a socket

Sending and receiving whole messages.  The encoder and the decoder each have a
copy of these functions; the copies are the same.

What the operating system will answer is part of the state: the arrivals on the
receiving side, the schedule of the sending side and the answers of the
allocator.  The log of the messages that were started is kept beside it.
-/

namespace VTRemote

/-- What a write buffer can hold: its size converts to `int` and `uint32_t`
without loss. -/
structure Payload where
  bytes : Bytes
  length_le : bytes.length ≤ maxAllocSize
deriving DecidableEq

namespace Payload

def empty : Payload := ⟨[], Nat.zero_le _⟩

end Payload

def VTRemoteWBuf.payload (b : VTRemoteWBuf) : Payload :=
  ⟨b.contents, b.contents_length_le⟩

/-- A message that was handed to the socket, how many of its bytes were taken,
and what the socket will answer after that. -/
structure SendRecord where
  type : VTRemoteMsgType
  payload : Payload
  accepted : Nat
  left : Schedule Errno
deriving DecidableEq

namespace SendRecord

def size (r : SendRecord) : Nat := vtremoteHeaderSize + r.payload.bytes.length

def Complete (r : SendRecord) : Prop := r.accepted = r.size

def Cut (r : SendRecord) : Prop := 0 < r.accepted ∧ r.accepted < r.size

instance (r : SendRecord) : Decidable r.Complete :=
  inferInstanceAs (Decidable (_ = _))

instance (r : SendRecord) : Decidable r.Cut :=
  inferInstanceAs (Decidable (_ ∧ _))

end SendRecord

structure Host where
  incoming : List (Arrival Errno)
  outgoing : Schedule Errno
  heap : List Bool
  log : List SendRecord
deriving DecidableEq

namespace Host

/-- What a blocking reader still gets. -/
def stream (h : Host) : List (Atom Errno) := atoms eintr h.incoming

def record (h : Host) (type : VTRemoteMsgType) (payload : Payload)
    (accepted : Nat) (rest : List (Departure Errno)) : Host :=
  let left := { h.outgoing with next := rest }
  { h with outgoing := left, log := h.log ++ [⟨type, payload, accepted, left⟩] }

end Host

abbrev HostCall (α : Type) := Call AvError Host α

/-!
## Allocation
-/

/-- Ask the allocator once; requests beyond the listed answers are granted. -/
def avMalloc : HostCall Unit := fun h =>
  match h.heap with
  | false :: heap => .returned (.error (averror enomem)) { h with heap := heap }
  | heap => .returned (.ok ()) { h with heap := heap.tail }

/-- `av_malloc` refuses a size above `INT_MAX` without asking for memory. -/
def avMallocSize (size : Nat) : HostCall Unit :=
  if maxAllocSize < size then Call.fail (averror enomem) else avMalloc

/-!
## Sending
-/

/-- `write_full`: the result code, with what was taken. -/
def writeFull (buf : Bytes) (out : Schedule Errno) : Push Errno :=
  push eintr out.broken buf.length out.next

def stopError : Stop Errno -> AvError
  | .failed e => averror e
  | .zero => averrorEof

def messageHeader (type : VTRemoteMsgType) (payload : Payload) :
    VTRemoteMsgHeader :=
  { magic := vtremoteProtoMagic
    version := vtremoteProtoVersion
    type := type.code
    length := UInt32.ofNat payload.bytes.length }

def wireMessage (type : VTRemoteMsgType) (payload : Payload) : Bytes :=
  vtremoteWriteHeader (messageHeader type payload) ++ payload.bytes

def vtremoteSendMsg (type : VTRemoteMsgType) (payload : Payload) :
    HostCall Unit := fun h =>
  let header := writeFull (vtremoteWriteHeader (messageHeader type payload))
    h.outgoing
  match header.stop with
  | some stop =>
      .returned (.error (stopError stop))
        (h.record type payload header.accepted header.rest)
  | none =>
      if payload.bytes.length = 0 then
        .returned (.ok ()) (h.record type payload header.accepted header.rest)
      else
        let body := writeFull payload.bytes
          { h.outgoing with next := header.rest }
        let h := h.record type payload (header.accepted + body.accepted)
          body.rest
        match body.stop with
        | some stop => .returned (.error (stopError stop)) h
        | none => .returned (.ok ()) h

/-!
## Receiving
-/

/-- `read_full`: a timeout can be told apart from a torn read. -/
def readFull (size : Nat) : HostCall Bytes := fun h =>
  match fill eintr size [] h.incoming with
  | .done bytes rest => .returned (.ok bytes) { h with incoming := rest }
  | .failed e got rest =>
      let e := if e = eagain then (if got.length = 0 then eagain else eio) else e
      .returned (.error (averror e)) { h with incoming := rest }
  | .closed _ rest => .returned (.error averrorEof) { h with incoming := rest }
  | .starved _ rest => .blocked { h with incoming := rest }

/-- The size passed to `read_full` for a payload, as an `int`. -/
def VTRemoteMsgHeader.payloadLength (hdr : VTRemoteMsgHeader) : Nat :=
  (cInt hdr.length.toNat).toNat

def vtremoteReadMsg : HostCall (VTRemoteMsgHeader × Bytes) := do
  let headerBuf ← readFull vtremoteHeaderSize
  match vtremoteReadHeader headerBuf with
  | .error e => Call.fail e
  | .ok hdr =>
      if hdr.length = 0 then pure (hdr, [])
      else
        avMallocSize hdr.length.toNat
        let payload ← readFull hdr.payloadLength
        pure (hdr, payload)

/-- `poll` with a timeout of zero.  An error or the end of the stream can be
read at once; a timeout of the socket only ends a read that waits. -/
def checkReadable : HostCall Int := fun h =>
  match h.incoming with
  | [] => .blocked h
  | .quiet :: rest => .returned (.ok 0) { h with incoming := rest }
  | .fail e :: rest =>
      if e = eintr then .returned (.ok (-1)) { h with incoming := rest }
      else if e = eagain then .returned (.ok 0) h
      else .returned (.ok 1) h
  | _ => .returned (.ok 1) h

def vtremoteReadMsgNonblock : HostCall (VTRemoteMsgHeader × Bytes) := do
  let ready ← checkReadable
  if ready ≤ 0 then Call.fail (averror eagain) else vtremoteReadMsg

/-- What a client asks of its connection and of the allocator.  `packetRef` is the
allocation of `av_packet_ref`, and `left` bounds the messages that can still be
read. -/
structure Link (σ : Type) where
  sendMsg : VTRemoteMsgType -> Payload -> Call AvError σ Unit
  readMsg : Call AvError σ (VTRemoteMsgHeader × Bytes)
  readMsgNonblock : Call AvError σ (VTRemoteMsgHeader × Bytes)
  malloc : Call AvError σ Unit
  packetRef : Call AvError σ Unit
  left : σ -> Nat

def hostLink : Link Host where
  sendMsg := vtremoteSendMsg
  readMsg := vtremoteReadMsg
  readMsgNonblock := vtremoteReadMsgNonblock
  malloc := avMalloc
  packetRef := avMalloc
  left h := arrivalsLeft h.incoming

end VTRemote
