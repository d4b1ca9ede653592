import VTRemote.Library.Call
import VTRemote.Proto.Header
import VTRemote.Server.PosixIo

/-!
# Messages of the server's connection

`VTRMessageHeader`, `BufferPool` and `VTRWireConnection`.
-/

namespace VTRemote

/-!
## Headers
-/

structure VTRMessageHeader where
  magic : UInt32 := vtremoteProtoMagic
  version : UInt16 := vtremoteProtoVersion
  type : UInt16
  length : UInt32
deriving DecidableEq, Repr

namespace VTRMessageHeader

open ByteReader

def encoded (h : VTRMessageHeader) : List UInt8 :=
  let writer := (ByteWriter.mk []).writeBE32 h.magic
  let writer := writer.writeBE16 h.version
  let writer := writer.writeBE16 h.type
  (writer.writeBE32 h.length).data

def read : ReaderM VTRMessageHeader := do
  let magic ← readBEUInt32
  let version ← readBEUInt16
  let type ← readBEUInt16
  let length ← readBEUInt32
  if magic ≠ vtremoteProtoMagic then
    throw (.thrown (.protocolViolation "bad magic"))
  else if version ≠ vtremoteProtoVersion then
    throw (.thrown (.protocolViolation
      ("unsupported version " ++ toString version.toNat)))
  else pure { type, length }

def decode (data : List UInt8) : Except Failure VTRMessageHeader :=
  if data.length ≠ vtremoteHeaderSize then
    .error (.thrown (.protocolViolation "header size mismatch"))
  else (read (ByteReader.init data)).map Prod.fst

def toClient (h : VTRMessageHeader) : VTRemoteMsgHeader :=
  { magic := h.magic, version := h.version, type := h.type, length := h.length }

theorem encoded_eq (h : VTRMessageHeader) :
    h.encoded = vtremoteWriteHeader h.toClient := by
  simp [encoded, ByteWriter.writeBE32, ByteWriter.writeBE16, ByteWriter.write,
    vtremoteWriteHeader, toClient]

end VTRMessageHeader

/-!
## BufferPool
-/

/-- The last buffer is the one that was returned last. -/
structure BufferPool where
  buffers : List (List UInt8)
deriving DecidableEq, Repr

namespace BufferPool

/-- `get`: a buffer that is used again is emptied. -/
def take (pool : BufferPool) : List UInt8 × BufferPool :=
  match pool.buffers.getLast? with
  | some _ => ([], { buffers := pool.buffers.dropLast })
  | none => ([], pool)

/-- `return`: the pool keeps at most twenty buffers. -/
def giveBack (pool : BufferPool) (buffer : List UInt8) : BufferPool :=
  if pool.buffers.length < 20 then { buffers := pool.buffers ++ [buffer] }
  else pool

end BufferPool

/-!
## The connection
-/

/-- The descriptor's arrivals and answers, what the kernel took, the buffers
that are kept from one call to the next, and what is left in `errno`. -/
structure VTRWireConnection where
  incoming : List (Arrival Errno)
  outgoing : Schedule Errno
  sent : List UInt8
  headerBuf : List UInt8
  bodyBuf : List UInt8
  errno : Int

abbrev WireCall (α : Type) := Call Failure VTRWireConnection α

namespace VTRWireConnection

variable (strerror : Int -> String)

def sendMessage (type : VTRemoteMsgType) (bodyParts : List (List UInt8)) :
    WireCall Unit := fun c =>
  let totalLen := (bodyParts.map List.length).sum
  -- `UInt32(totalLen)`
  if 4294967295 < totalLen then .returned (.error .trapped) c
  else
    let header := VTRMessageHeader.encoded
      { type := type.code, length := UInt32.ofNat totalLen }
    let run := PosixIo.writev strerror c.outgoing (header :: bodyParts)
    .returned run.result
      { c with
        outgoing := { c.outgoing with next := run.rest }
        sent := c.sent ++ run.taken }

/-- Whatever the kernel answers, a message goes out from its beginning, and
whole if the call returned. -/
theorem sendMessage_returned {type : VTRemoteMsgType}
    {bodyParts : List (List UInt8)} {c c' : VTRWireConnection}
    {result : Except Failure Unit}
    (h : sendMessage strerror type bodyParts c = .returned result c') :
    let message := VTRMessageHeader.encoded
      { type := type.code
        length := UInt32.ofNat (bodyParts.map List.length).sum } ++
      bodyParts.flatten
    exists taken, c'.sent = c.sent ++ taken ∧ taken <+: message ∧
      (result = .ok () -> taken = message) := by
  unfold sendMessage at h
  dsimp only at h
  split at h
  · cases h
    exact ⟨[], (List.append_nil _).symm, List.nil_prefix, nofun⟩
  · cases h
    rcases PosixIo.writev_taken strerror c.outgoing
      (VTRMessageHeader.encoded
        { type := type.code
          length := UInt32.ofNat (bodyParts.map List.length).sum } ::
        bodyParts) with ⟨hbegin, hwhole⟩
    exact ⟨_, rfl, hbegin, hwhole⟩

def pollReadable : WireCall Unit := fun c =>
  match PosixIo.pollReadable c.incoming with
  | none => .blocked c
  | some (result, rest) => .returned result { c with incoming := rest }

/-- `readExact` into a buffer, with the buffer that it leaves; `store` keeps
what is stored before a failure. -/
def readExact (buffer : List UInt8) (count : Nat)
    (store : VTRWireConnection -> List UInt8 -> VTRWireConnection) :
    WireCall (List UInt8) := fun c =>
  match PosixIo.readExact strerror c.errno buffer count c.incoming with
  | .done buffer rest => .returned (.ok buffer) (store { c with incoming := rest } buffer)
  | .failed error buffer rest =>
      .returned (.error error) (store { c with incoming := rest } buffer)
  | .starved buffer => .blocked (store { c with incoming := [] } buffer)

def readHeader : WireCall VTRMessageHeader := do
  pollReadable
  let c ← Call.get
  let headerBuf ← readExact strerror c.headerBuf vtremoteHeaderSize
    fun c headerBuf => { c with headerBuf }
  match VTRMessageHeader.decode headerBuf with
  | .error e => Call.fail e
  | .ok header => pure header

/-- The buffer that a body is read into: one of the pool, or the connection's
own. -/
def bodyBuffer (pool : Option BufferPool) (len : Nat) :
    WireCall (List UInt8 × Option BufferPool) :=
  match pool with
  | some pool => pure (pool.take.1, some pool.take.2)
  | none => do
      Call.modify fun c => { c with bodyBuf := PosixIo.resize c.bodyBuf len }
      let c ← Call.get
      pure (c.bodyBuf, none)

/-- The pool, if there is one, goes on to the next call. -/
def readMessage (pool : Option BufferPool) :
    WireCall ((VTRMessageHeader × List UInt8) × Option BufferPool) := do
  let header ← readHeader strerror
  if 0 < header.length.toNat then do
    let len := header.length.toNat
    let (buf, pool) ← bodyBuffer pool len
    let buf ← readExact strerror (PosixIo.resize buf len) len fun c _ => c
    Call.when (pool = none) (Call.modify fun c => { c with bodyBuf := buf })
    pure ((header, buf), pool)
  else pure ((header, []), pool)

end VTRWireConnection
end VTRemote
