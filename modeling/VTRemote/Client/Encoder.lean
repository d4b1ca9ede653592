import VTRemote.Client.Socket
import VTRemote.Library.Ring

/-!
# The encoder client

`ff_vtremote_encode` and the functions below it.  A function that returns a
negative code fails with it; a function whose result code is ignored is
attempted.  The times and sizes that only the summary of
`ff_vtremote_common_close` prints are left out.
-/

namespace VTRemote

/-!
## Frames, packets and the context
-/

inductive AVPixelFormat where
  | nv12
  | p010le
  | p010be
  | other (format : Int)
deriving DecidableEq, Repr

/-- `AV_PIX_FMT_P010` on a little-endian host. -/
def AVPixelFormat.p010 : AVPixelFormat := .p010le

inductive AVPictureType where
  | none
  | i
  | p
  | b
  | s
  | si
  | sp
  | bi
deriving DecidableEq, Repr

inductive AVCodecID where
  | h264
  | hevc
deriving DecidableEq, Repr

def avFrameDataA53Cc : Nat := 1

/-- The literals of `Fin 2` are the indices of the planes. -/
instance twoPlanes : NeZero (2 : Nat) := ⟨Nat.succ_ne_zero 1⟩

structure AVFrameSideData where
  type : Nat
  data : Bytes
deriving DecidableEq, Repr

/-- `data` holds the bytes behind the pointers. -/
structure AVFrame where
  format : AVPixelFormat
  data : Fin 2 -> Bytes
  linesize : Fin 2 -> Int
  width : Int
  height : Int
  pts : Int64
  duration : Int64
  pictType : AVPictureType
  sideData : List AVFrameSideData

structure AVPacket where
  data : Bytes
  pts : Int64
  dts : Int64
  duration : Int64
  flags : Nat
deriving DecidableEq, Repr

def avPktFlagKey : Nat := 1

def avNoptsValue : Int64 := Int64.minValue

/-- A packet after `av_packet_unref`. -/
instance : Inhabited AVPacket :=
  ⟨{ data := [], pts := avNoptsValue, dts := avNoptsValue, duration := 0,
     flags := 0 }⟩

/-- LZ4 and Zstd.  The destination always has the room that the bound asks for,
so what is written depends on the source only; `none` is an error. -/
structure CompressionLibraries where
  lz4CompressBound : Int -> Nat
  lz4CompressDefault : Bytes -> Option Bytes
  zstdCompressBound : Int -> Nat
  zstdCompressCCtx : Bytes -> Option Bytes

/-- A queue without slots has not been allocated. -/
structure VTRemoteEncContext (σ : Type) where
  fd : σ
  inflight : Nat
  wireCompression : Int
  codecId : AVCodecID
  connected : Bool
  flushing : Bool
  done : Bool
  inflightFrames : Nat
  framesSent : Nat
  packetsRecv : Nat
  pktQueue : Ring AVPacket
  frameBuf : VTRemoteWBuf
  compBufCap : Fin 2 -> Int
  zstdCctx : Bool

/-- The context that `ff_vtremote_common_init` leaves when it succeeds. -/
def VTRemoteEncContext.afterInit {σ : Type} (fd : σ) (inflight : Nat)
    (wireCompression : Int) (codecId : AVCodecID) : VTRemoteEncContext σ where
  fd := fd
  inflight := inflight
  wireCompression := wireCompression
  codecId := codecId
  connected := true
  flushing := false
  done := false
  inflightFrames := 0
  framesSent := 0
  packetsRecv := 0
  pktQueue := Ring.new 0
  frameBuf := vtremoteWbufInit []
  compBufCap := fun _ => 0
  zstdCctx := false

abbrev EncCall (σ α : Type) := Call AvError (VTRemoteEncContext σ) α

/-- What a call of the encoder gives back to its caller, who has cleared
`got_packet`. -/
structure EncodeReturn where
  ret : Except AvError Unit
  gotPacket : Bool
  pkt : Option AVPacket

def EncodeReturn.accepted (r : EncodeReturn) : Bool := r.ret.isOk

def EncodeReturn.delivered (r : EncodeReturn) : List AVPacket :=
  if r.gotPacket then r.pkt.toList else []

/-- An early return leaves `got_packet` alone. -/
def EncodeReturn.ofResult : Except AvError EncodeReturn -> EncodeReturn
  | .ok result => result
  | .error e => { ret := .error e, gotPacket := false, pkt := none }

section Encoder

variable {σ : Type} (link : Link σ)

def onLink {α : Type} (m : Call AvError σ α) : EncCall σ α :=
  Call.zoom VTRemoteEncContext.fd (fun s fd => { s with fd := fd }) m

def ignored {α : Type} (m : EncCall σ α) : EncCall σ Unit := do
  let _ ← Call.attempt m
  pure ()

/-!
## The packet queue
-/

def avInputBufferPaddingSize : Int := 64

def avNewPacket (size : Int) : EncCall σ Unit :=
  if size < 0 ∨ intMax - avInputBufferPaddingSize ≤ size then
    Call.fail (averror einval)
  else onLink link.malloc

def VTRemotePacketView.toAVPacket (view : VTRemotePacketView) : AVPacket where
  data := view.data
  pts := view.pts
  dts := view.dts
  duration := view.duration
  flags := if view.flags &&& 1 != 0 then avPktFlagKey else 0

def enqueuePacket (payload : Bytes) (payloadSize : Int) : EncCall σ Unit := do
  match vtremoteParsePacket payload payloadSize with
  | .error e => Call.fail e.code
  | .ok view =>
      let s ← Call.get
      if s.pktQueue.size = 0 then Call.fail averrorBug
      else
        Call.modify fun s => { s with pktQueue := s.pktQueue.store default }
        avNewPacket link (cInt view.dataLen.toNat)
        Call.modify fun s =>
          { s with pktQueue := s.pktQueue.store view.toAVPacket }
        let s ← Call.get
        if s.pktQueue.count < s.pktQueue.size then
          Call.modify fun s =>
            { s with
              pktQueue := s.pktQueue.grow
              packetsRecv := s.packetsRecv + 1 }
        else Call.fail averrorBufferTooSmall

/-- `av_packet_ref` of the first packet to `pkt`, with its result code; the
packet leaves the queue in any case. -/
def popPacket : EncCall σ (Except AvError AVPacket) := do
  let s ← Call.get
  let rc ← Call.attempt (onLink link.packetRef)
  Call.modify fun s => { s with pktQueue := s.pktQueue.pop }
  pure (rc.map fun _ => s.pktQueue.slot 0)

def releaseSlot : EncCall σ Unit :=
  Call.modify fun s => { s with inflightFrames := s.inflightFrames - 1 }

/-!
## Receiving packets
-/

/-- The cases of the two switches that do the same. -/
def handleOther (hdr : VTRemoteMsgHeader) : EncCall σ Unit :=
  match VTRemoteMsgType.ofCode hdr.type with
  | some .ping => ignored (onLink (link.sendMsg .pong Payload.empty))
  | some .error => Call.fail (averror eio)
  | _ => pure ()

/-- The switch of `vtremote_drain_available_packets`. -/
def drainMessage (hdr : VTRemoteMsgHeader) (payload : Bytes) :
    EncCall σ (Option Unit) :=
  match VTRemoteMsgType.ofCode hdr.type with
  | some .packet => do
      enqueuePacket link payload (cInt hdr.length.toNat)
      releaseSlot
      pure none
  | some .done => do
      Call.modify fun s => { s with done := true }
      pure (some ())
  | _ => do
      handleOther link hdr
      pure none

def drainRound : EncCall σ (Option Unit) := do
  let s ← Call.get
  if s.pktQueue.count < s.pktQueue.size then
    match ← Call.attempt (onLink link.readMsgNonblock) with
    | .error e => if e = averror eagain then pure (some ()) else Call.fail e
    | .ok (hdr, payload) => drainMessage link hdr payload
  else pure (some ())

/-- The callers look at the sign of the result only, so the number of packets
is left out. -/
def vtremoteDrainAvailablePackets : EncCall σ Unit := do
  let s ← Call.get
  Call.loop (drainRound link) (link.left s.fd + 1)

def takePacket : EncCall σ AVPacket := do
  match ← popPacket link with
  | .ok pkt => pure pkt
  | .error e => Call.fail e

def popReceived : EncCall σ (Option AVPacket) := do
  let s ← Call.get
  if 0 < s.pktQueue.count then
    let rc ← popPacket link
    releaseSlot
    match rc with
    | .ok pkt => pure (some pkt)
    | .error e => Call.fail e
  else Call.fail averrorBug

/-- The switch of `ff_vtremote_common_receive_packet`. -/
def receiveMessage (hdr : VTRemoteMsgHeader) (payload : Bytes) :
    EncCall σ (Option AVPacket) :=
  match VTRemoteMsgType.ofCode hdr.type with
  | some .packet => do
      enqueuePacket link payload (cInt hdr.length.toNat)
      popReceived link
  | some .done => do
      Call.modify fun s => { s with done := true }
      Call.fail averrorEof
  | _ => do
      handleOther link hdr
      pure none

def receiveRound : EncCall σ (Option AVPacket) := do
  let (hdr, payload) ← onLink link.readMsg
  receiveMessage link hdr payload

def ffVtremoteCommonReceivePacket : EncCall σ AVPacket := do
  let s ← Call.get
  if s.done then Call.fail averrorEof
  else if 0 < s.pktQueue.count then takePacket link
  else Call.loop (receiveRound link) (link.left s.fd + 1)

/-!
## Sending frames
-/

variable (libs : CompressionLibraries)

def CompressionLibraries.compressBound (wireCompression srcSize : Int) : Nat :=
  if wireCompression = 1 then libs.lz4CompressBound srcSize
  else libs.zstdCompressBound srcSize

def CompressionLibraries.compress (wireCompression : Int) (src : Bytes) :
    Option Bytes :=
  if wireCompression = 1 then libs.lz4CompressDefault src
  else if wireCompression = 2 then libs.zstdCompressCCtx src
  else some src

def planeSize (frame : AVFrame) (i : Fin 2) : UInt32 :=
  UInt32.ofInt (frame.linesize i) *
    UInt32.ofInt (if i = 0 then frame.height else frame.height.tdiv 2)

def growCompBuf (i : Fin 2) (bound : Int) : EncCall σ Unit := do
  let s ← Call.get
  Call.when (s.compBufCap i < bound) do
    onLink link.malloc
    Call.modify fun s =>
      { s with compBufCap := Function.update s.compBufCap i bound }

def createCctx : EncCall σ Unit := do
  let s ← Call.get
  Call.when (s.wireCompression = 2 ∧ ¬ s.zstdCctx) do
    onLink link.malloc
    Call.modify fun s => { s with zstdCctx := true }

def prepareCompression (frame : AVFrame) (i : Fin 2) : EncCall σ Unit := do
  let s ← Call.get
  if s.wireCompression = 1 ∨ s.wireCompression = 2 then
    let bound := libs.compressBound s.wireCompression
      (cInt (planeSize frame i).toNat)
    if bound = 0 then Call.fail averrorExternal
    else
      growCompBuf link i (cInt bound)
      createCctx link
  else pure ()

/-- One index of the arrays passed to `vtremote_payload_frame`. -/
def sendPlane (wireCompression : Int) (frame : AVFrame) (i : Fin 2) :
    Except AvError FramePlane :=
  let size := planeSize frame i
  let plane : FramePlane :=
    { data := frame.data i
      stride := UInt32.ofInt (frame.linesize i)
      height :=
        UInt32.ofInt (if i = 0 then frame.height else frame.height.tdiv 2)
      size := size }
  if wireCompression = 1 ∨ wireCompression = 2 then
    match libs.compress wireCompression
        ((frame.data i).take (cInt size.toNat).toNat) with
    | some out =>
        .ok { plane with data := out, size := UInt32.ofNat out.length }
    | none => .error averrorExternal
  else .ok plane

/-- At most 16 entries, closed captions only. -/
def sendSideData (frame : AVFrame) : List VTRemoteSideData :=
  ((frame.sideData.filter fun sd => sd.type = avFrameDataA53Cc).take 16).map
    fun sd =>
      { type := UInt32.ofNat sd.type
        size := UInt32.ofNat sd.data.length
        data := sd.data }

def orFail {α : Type} : Except AvError α -> EncCall σ α
  | .ok a => pure a
  | .error e => Call.fail e

def putFrame (frame : AVFrame) (planes : List FramePlane) : WbufPut :=
  let sd := sendSideData frame
  vtremotePayloadFrame frame.pts frame.duration
    (if frame.pictType = .i then 1 else 0) 2 planes
    (if 0 < sd.length then some sd else none) (UInt8.ofNat sd.length)

def supportedFormat (codecId : AVCodecID) (frame : AVFrame) : Bool :=
  if frame.format ≠ .nv12 ∧ frame.format ≠ .p010le ∧
    frame.format ≠ AVPixelFormat.p010 then false
  else if codecId = .h264 ∧ frame.format ≠ .nv12 then false
  else true

/-- The end of `ff_vtremote_common_send_frame`: the payload is written to the
reusable buffer and sent. -/
def sendPayload (frame : AVFrame) (planes : List FramePlane) :
    EncCall σ Unit := do
  let s ← Call.get
  let put := putFrame frame planes (vtremoteWbufReset s.frameBuf)
  Call.modify fun s => { s with frameBuf := put.2 }
  if h : put.1 < 0 then Call.fail ⟨put.1, h⟩
  else
    onLink (link.sendMsg .frame put.2.payload)
    Call.modify fun s =>
      { s with
        inflightFrames := s.inflightFrames + 1
        framesSent := s.framesSent + 1 }

def ffVtremoteCommonSendFrame : Option AVFrame -> EncCall σ Unit
  | none => do
      let s ← Call.get
      if ¬ s.connected then Call.fail (averror epipe)
      else
        Call.modify fun s => { s with flushing := true }
        onLink (link.sendMsg .flush Payload.empty)
  | some frame => do
      let s ← Call.get
      if ¬ s.connected then Call.fail (averror epipe)
      else if ¬ supportedFormat s.codecId frame then Call.fail (averror einval)
      else
        prepareCompression link libs frame 0
        let plane0 ← orFail (sendPlane libs s.wireCompression frame 0)
        prepareCompression link libs frame 1
        let plane1 ← orFail (sendPlane libs s.wireCompression frame 1)
        sendPayload link frame [plane0, plane1]

/-!
## The encode callback
-/

def allocateQueue : EncCall σ Unit := do
  let s ← Call.get
  if s.pktQueue.size = 0 then
    onLink link.malloc
    Call.modify fun s =>
      { s with pktQueue := Ring.new (max 4 (s.inflight * 2)) }
  else pure ()

/-- A packet is queued: it is returned, and the frame is sent if the window
allows. -/
def returnQueued (frame : Option AVFrame) : EncCall σ EncodeReturn := do
  let rc ← popPacket link
  let s ← Call.get
  Call.when (frame.isSome ∧ s.inflightFrames < s.inflight)
    (ignored (ffVtremoteCommonSendFrame link libs frame))
  pure
    { ret := rc.map fun _ => ()
      gotPacket := true
      pkt := rc.toOption }

/-- `if (ret < 0 && ret != AVERROR_EOF) return ret;` -/
def unlessEof (m : EncCall σ Unit) : EncCall σ Unit := do
  match ← Call.attempt m with
  | .ok _ => pure ()
  | .error e => if e = averrorEof then pure () else Call.fail e

/-- The limit is reached: wait for a packet, then send the frame. -/
def waitForPacket (frame : Option AVFrame) : EncCall σ EncodeReturn := do
  match ← Call.attempt (ffVtremoteCommonReceivePacket link) with
  | .ok pkt =>
      ignored (ffVtremoteCommonSendFrame link libs frame)
      pure { ret := .ok (), gotPacket := true, pkt := some pkt }
  | .error e => pure { ret := .error e, gotPacket := false, pkt := none }

def finishCall (frame : Option AVFrame) : EncCall σ EncodeReturn := do
  let s ← Call.get
  if frame.isNone ∨ s.flushing then
    match ← Call.attempt (ffVtremoteCommonReceivePacket link) with
    | .ok pkt => pure { ret := .ok (), gotPacket := true, pkt := some pkt }
    | .error e =>
        pure
          { ret := if frame.isSome then .ok () else .error e
            gotPacket := false
            pkt := none }
  else pure { ret := .ok (), gotPacket := false, pkt := none }

/-- The part of the function behind the first send of the frame. -/
def encodeSubmitted (frame : Option AVFrame) (draining : Bool) :
    EncCall σ EncodeReturn := do
  let s ← Call.get
  if frame.isSome ∧ s.inflight ≤ s.inflightFrames then
    waitForPacket link libs frame
  else
    Call.when (frame.isNone ∧ draining)
      (unlessEof (ffVtremoteCommonSendFrame link libs none))
    finishCall link frame

/-- The part of the function behind the drain, when no packet is queued. -/
def encodeUnqueued (frame : Option AVFrame) (draining : Bool) :
    EncCall σ EncodeReturn := do
  let s ← Call.get
  Call.when (frame.isSome ∧ s.inflightFrames < s.inflight)
    (unlessEof (ffVtremoteCommonSendFrame link libs frame))
  encodeSubmitted link libs frame draining

/-- `ff_vtremote_encode` up to the end of its drain. -/
def openingDrain : EncCall σ Unit := do
  allocateQueue link
  match ← Call.attempt (vtremoteDrainAvailablePackets link) with
  | .ok _ => pure ()
  | .error e => if e = averror eagain then pure () else Call.fail e

def encodeBody (frame : Option AVFrame) (draining : Bool) :
    EncCall σ EncodeReturn := do
  openingDrain link
  let s ← Call.get
  if 0 < s.pktQueue.count then returnQueued link libs frame
  else encodeUnqueued link libs frame draining

def ffVtremoteEncode (frame : Option AVFrame) (draining : Bool) :
    EncCall σ EncodeReturn := do
  let result ← Call.attempt (encodeBody link libs frame draining)
  pure (EncodeReturn.ofResult result)

/-!
## Runs
-/

structure EncodeInput where
  frame : Option AVFrame
  draining : Bool

def encodeRun : List EncodeInput -> EncCall σ (List EncodeReturn)
  | [] => pure []
  | input :: rest => do
      let result ← ffVtremoteEncode link libs input.frame input.draining
      let results ← encodeRun rest
      pure (result :: results)

/-!
## A small frame
-/

def smallFrame : AVFrame where
  format := .nv12
  data i := if i = 0 then [1, 2] else [3]
  linesize _ := 1
  width := 1
  height := 2
  pts := 0
  duration := 1
  pictType := .i
  sideData := []

def noCompression : CompressionLibraries where
  lz4CompressBound srcSize := srcSize.toNat
  lz4CompressDefault src := some src
  zstdCompressBound srcSize := srcSize.toNat
  zstdCompressCCtx src := some src

end Encoder
end VTRemote
