import VTRemote.Client.Encoder
import VTRemote.Client.Handshake
import VTRemote.Server.ByteBuffer

/-!
# The HELLO exchange

The first half of `vtremote_handshake`: connect, send HELLO and read its
acknowledgement.  The encoder and the decoder send the same HELLO.
-/

namespace VTRemote

/-- A string of UTF-8 text that ends at its terminator. -/
structure CString where
  text : String
  noNul : 0 ∉ utf8Data text

namespace CString

def bytes (s : CString) : Bytes := utf8Data s.text

/-- NULL stands for the empty string. -/
def textOf (s : Option CString) : String :=
  match s with
  | some s => s.text
  | none => ""

theorem bytes_getD (s : Option CString) :
    (s.map bytes).getD [] = utf8Data (textOf s) := by
  cases s with
  | none => rfl
  | some s => rfl

end CString

def codecNameForId : AVCodecID -> String
  | .h264 => "h264"
  | .hevc => "hevc"

def clientName : String := "ffmpeg-vtremote"

/-- The buffer that HELLO is sent from; the result of
`vtremote_payload_hello` is not read. -/
def helloPayload (ffmpegVersion : CString) (token : Option CString)
    (codecId : AVCodecID) (grants : List Bool) : VTRemoteWBuf :=
  (vtremotePayloadHello (token.map CString.bytes)
    (some (utf8Data (codecNameForId codecId))) (some (utf8Data clientName))
    (some ffmpegVersion.bytes) (vtremoteWbufInit grants)).2

/-- `vtremote_send_msg` on a buffer.  A buffer that counts bytes but has lost
its block passes a NULL pointer to `send`, after the header. -/
def vtremoteSendBuffer (type : VTRemoteMsgType) (b : VTRemoteWBuf) :
    HostCall Unit := fun h =>
  if b.data = none ∧ 0 < b.size then
    let header := writeFull (vtremoteWriteHeader
      { messageHeader type Payload.empty with
        length := UInt32.ofNat b.size }) h.outgoing
    let h := h.record type b.payload header.accepted header.rest
    match header.stop with
    | some stop => .returned (.error (stopError stop)) h
    | none => .returned (.error (averror efault)) h
  else vtremoteSendMsg type b.payload h

/-- The strings and counts after the status are skipped, whether or not they
are there. -/
def vtremoteHandleHelloAck (payload : Bytes) (len : Int) : Except AvError Unit :=
  match vtremoteRbufReadU8 (vtremoteRbufInit payload len) with
  | .error e => .error e.code
  | .ok (status, _) => if status ≠ 0 then .error (averror eacces) else .ok ()

/-- What the handshake does once HELLO is sent; CONFIGURE follows. -/
def awaitHelloAck : HostCall Unit := do
  let (hdr, pl) ← vtremoteReadMsg
  if hdr.type ≠ VTRemoteMsgType.helloAck.code then
    Call.fail averrorInvaliddata
  else
    match vtremoteHandleHelloAck pl (cInt hdr.length.toNat) with
    | .error e => Call.fail e
    | .ok _ => pure ()

/-- `connect` is the answer of `connect_hostport`. -/
def vtremoteHandshakeHello (connect : Except AvError Unit)
    (ffmpegVersion : CString) (token : Option CString) (codecId : AVCodecID) :
    HostCall Unit :=
  match connect with
  | .error e => Call.fail e
  | .ok _ => do
      let h ← Call.get
      let payload := helloPayload ffmpegVersion token codecId h.heap
      Call.modify fun h => { h with heap := payload.grants }
      vtremoteSendBuffer .hello payload
      awaitHelloAck

end VTRemote
