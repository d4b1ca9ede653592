import VTRemote.Client.Encoder

/-!
# The decoder client

`ff_vtremote_decode` and the functions below it, in the manner of the encoder
client.
-/

namespace VTRemote

/-- LZ4 and Zstd: what a compressed block gives in a destination of some size;
`none` is an error. -/
structure DecompressionLibraries where
  lz4DecompressSafe : Bytes -> Int -> Option Bytes
  zstdDecompressDCtx : Bytes -> Int -> Option Bytes

structure FrameBuffer where
  data : Fin 2 -> Bytes
  linesize : Fin 2 -> Int

/-- What the decoder uses of its `AVCodecContext`: the planes that `get_buffer2`
gives, `internal->last_pkt_props`, and the side data that `side_data_map` makes
of the stream's and of that packet's.  For an empty picture `ff_get_buffer` gives
no frame. -/
structure AVCodecContext where
  pixFmt : AVPixelFormat
  width : Int
  height : Int
  size_pos : 0 < width ∧ 0 < height
  getBuffer : FrameBuffer
  lastPktProps : AVPacket
  propsSideData : AVPacket -> List AVFrameSideData

def unreferencedPacket : AVPacket where
  data := []
  pts := avNoptsValue
  dts := avNoptsValue
  duration := 0
  flags := 0

/-- `extract_packet_props` of the packet that `decode_get_packet` has got; while
the decoder is drained it gets none. -/
def AVCodecContext.extractPacketProps (avctx : AVCodecContext) :
    Option AVPacket -> AVCodecContext
  | some pkt => { avctx with lastPktProps := { pkt with data := [] } }
  | none => avctx

structure VTRemoteDecContext (σ : Type) where
  fd : σ
  wireCompression : Int
  flushing : Bool
  done : Bool
  pktBuf : VTRemoteWBuf
  compBufCap : Fin 2 -> Int
  zstdDctx : Bool

/-- The context that `ff_vtremote_dec_init` leaves when it succeeds. -/
def VTRemoteDecContext.afterInit {σ : Type} (fd : σ) (wireCompression : Int) :
    VTRemoteDecContext σ where
  fd := fd
  wireCompression := wireCompression
  flushing := false
  done := false
  pktBuf := vtremoteWbufInit []
  compBufCap := fun _ => 0
  zstdDctx := false

abbrev DecCall (σ α : Type) := Call AvError (VTRemoteDecContext σ) α

/-- What a call of the decoder gives back to its caller, who has cleared
`got_frame`. -/
structure DecodeReturn where
  ret : Except AvError Unit
  gotFrame : Bool
  frame : Option AVFrame

def DecodeReturn.accepted (r : DecodeReturn) : Bool := r.ret.isOk

def DecodeReturn.ofResult : Except AvError (Option AVFrame) -> DecodeReturn
  | .ok frame => { ret := .ok (), gotFrame := frame.isSome, frame := frame }
  | .error e => { ret := .error e, gotFrame := false, frame := none }

/-!
## Planes
-/

def VTRemoteFrameView.plane (view : VTRemoteFrameView) (i : Fin 2) :
    VTRemotePlaneView :=
  view.planes.getD i { stride := 0, height := 0, dataLen := 0, data := [] }

/-- The size of a plane without compression. -/
def VTRemotePlaneView.expected (plane : VTRemotePlaneView) : Int :=
  cInt (cInt plane.stride.toNat * cInt plane.height.toNat)

def DecompressionLibraries.decompress (libs : DecompressionLibraries)
    (wireCompression : Int) (plane : VTRemotePlaneView) :
    Except AvError VTRemotePlaneView :=
  let out :=
    if wireCompression = 1 then libs.lz4DecompressSafe plane.data plane.expected
    else libs.zstdDecompressDCtx plane.data plane.expected
  match out with
  | some data =>
      if data.length = plane.expected then
        .ok { plane with data := data, dataLen := UInt32.ofInt plane.expected }
      else .error averrorInvaliddata
  | none => .error averrorInvaliddata

/-- A `memcpy` between two planes: its arguments as offsets from the pointers
of the planes, and its count. -/
structure RowMemcpy where
  dst : Int
  src : Int
  count : Nat
deriving DecidableEq, Repr

/-- An `int` passed for a `size_t`. -/
def sizeT (n : Int) : Nat := (n % 18446744073709551616).toNat

/-- The calls of `memcpy` in the loop over the rows. -/
def fillRows (plane : VTRemotePlaneView) (dstStride : Int) : List RowMemcpy :=
  let srcStride := cInt plane.stride.toNat
  let rows := cInt plane.height.toNat
  let rowBytes := min srcStride dstStride
  (List.range rows.toNat).map fun (y : Nat) =>
    { dst := cInt (y * dstStride)
      src := cInt (y * srcStride)
      count := sizeT rowBytes }

/-- The destination after a copy that stays inside both planes; C says nothing
of the others. -/
def RowMemcpy.apply (src dst : Bytes) (c : RowMemcpy) : Bytes :=
  VTRemoteWBuf.overwrite dst c.dst.toNat ((src.drop c.src.toNat).take c.count)

def copyPlane (frame : AVFrame) (view : VTRemoteFrameView) (i : Fin 2) : Bytes :=
  (fillRows (view.plane i) (frame.linesize i)).foldl
    (RowMemcpy.apply (view.plane i).data) (frame.data i)

/-- `ff_decode_frame_props`: the frame takes the times of the last packet. -/
def AVCodecContext.decodeFrameProps (avctx : AVCodecContext) (frame : AVFrame) :
    AVFrame :=
  { frame with
    pts := avctx.lastPktProps.pts
    duration := avctx.lastPktProps.duration
    sideData := frame.sideData ++ avctx.propsSideData avctx.lastPktProps }

/-- The frame as `fill_frame_from_view` passes it to `ff_get_buffer`. -/
def requestedFrame (avctx : AVCodecContext) (frame : AVFrame)
    (view : VTRemoteFrameView) : AVFrame :=
  { frame with
    format := avctx.pixFmt
    width := avctx.width
    height := avctx.height
    pts := view.pts
    duration := view.duration }

/-- The frame before the side data of the view is added. -/
def filledFrame (avctx : AVCodecContext) (frame : AVFrame)
    (view : VTRemoteFrameView) : AVFrame :=
  let frame := avctx.decodeFrameProps (requestedFrame avctx frame view)
  let frame := { frame with
    data := avctx.getBuffer.data
    linesize := avctx.getBuffer.linesize }
  { frame with data := copyPlane frame view }

def VTRemoteSideData.toAVFrameSideData (sd : VTRemoteSideData) :
    AVFrameSideData :=
  { type := sd.type.toNat, data := sd.data }

section Decoder

variable {σ : Type} (link : Link σ)

def onDecLink {α : Type} (m : Call AvError σ α) : DecCall σ α :=
  Call.zoom VTRemoteDecContext.fd (fun s fd => { s with fd := fd }) m

/-!
## Frames
-/

def growDecBuf (i : Fin 2) (expected : Int) : DecCall σ Unit := do
  let s ← Call.get
  Call.when (s.compBufCap i < expected) do
    onDecLink link.malloc
    Call.modify fun s =>
      { s with compBufCap := Function.update s.compBufCap i expected }

def createDctx : DecCall σ Unit := do
  let s ← Call.get
  Call.when (s.wireCompression ≠ 1 ∧ ¬ s.zstdDctx) do
    onDecLink link.malloc
    Call.modify fun s => { s with zstdDctx := true }

variable (libs : DecompressionLibraries) (avctx : AVCodecContext)

/-- One round of the loop of `decompress_frame`. -/
def decompressPlane (view : VTRemoteFrameView) (i : Fin 2) :
    DecCall σ VTRemotePlaneView := do
  let plane := view.plane i
  if plane.expected ≤ 0 then Call.fail averrorInvaliddata
  else
    growDecBuf link i plane.expected
    createDctx link
    let s ← Call.get
    match libs.decompress s.wireCompression plane with
    | .ok plane => pure plane
    | .error e => Call.fail e

def decompressFrame (view : VTRemoteFrameView) :
    DecCall σ VTRemoteFrameView :=
  if view.planeCount < 2 then Call.fail averrorInvaliddata
  else do
    let plane0 ← decompressPlane link libs view 0
    let plane1 ← decompressPlane link libs view 1
    pure { view with planes := plane0 :: plane1 :: view.planes.drop 2 }

/-- An entry for which no memory is granted is left out. -/
def addSideData : List VTRemoteSideData -> DecCall σ (List AVFrameSideData)
  | [] => pure []
  | sd :: rest => do
      let granted ← Call.attempt (onDecLink link.malloc)
      let added ← addSideData rest
      match granted with
      | .ok _ => pure (sd.toAVFrameSideData :: added)
      | .error _ => pure added

def fillFrameFromView (frame : AVFrame) (view : VTRemoteFrameView) :
    DecCall σ AVFrame :=
  if view.planeCount < 2 then Call.fail averrorInvaliddata
  else do
    -- `ff_get_buffer`, whose other steps are in `filledFrame`
    onDecLink link.malloc
    let filled := filledFrame avctx frame view
    let added ← addSideData link (view.sideData.take view.sideDataCount.toNat)
    pure { filled with sideData := filled.sideData ++ added }

/-- The case of a FRAME message. -/
def decodeFrame (frame : AVFrame) (payload : Bytes) (payloadSize : Int) :
    DecCall σ AVFrame := do
  match vtremoteParseFrame payload payloadSize with
  | .error e => Call.fail e.code
  | .ok view =>
      let s ← Call.get
      if s.wireCompression = 1 ∨ s.wireCompression = 2 then
        let view ← decompressFrame link libs view
        fillFrameFromView link avctx frame view
      else fillFrameFromView link avctx frame view

/-!
## The decode callback
-/

/-- The switch of `ff_vtremote_decode`. -/
def decodeMessage (frame : AVFrame) (hdr : VTRemoteMsgHeader)
    (payload : Bytes) : DecCall σ (Option (Option AVFrame)) :=
  match VTRemoteMsgType.ofCode hdr.type with
  | some .frame => do
      let frame ← decodeFrame link libs avctx frame payload
        (cInt hdr.length.toNat)
      pure (some (some frame))
  | some .done => do
      Call.modify fun s => { s with done := true }
      Call.fail averrorEof
  | some .ping => do
      let _ ← Call.attempt (onDecLink (link.sendMsg .pong Payload.empty))
      pure none
  | some .error => Call.fail (averror eio)
  | _ => pure none

def decodeRound (frame : AVFrame) : DecCall σ (Option (Option AVFrame)) := do
  match ← Call.attempt (onDecLink link.readMsg) with
  | .error e => if e = averror eagain then pure (some none) else Call.fail e
  | .ok (hdr, payload) => decodeMessage link libs avctx frame hdr payload

def putPacket (pkt : AVPacket) : WbufPut :=
  let pts := if pkt.pts = avNoptsValue then 0 else pkt.pts
  let dts := if pkt.dts = avNoptsValue then pts else pkt.dts
  let dur := if 0 < pkt.duration then pkt.duration else 0
  vtremotePayloadPacket pts dts dur
    (if pkt.flags &&& avPktFlagKey ≠ 0 then 1 else 0)
    (some pkt.data) (UInt32.ofNat pkt.data.length)

/-- A packet is sent; without one, FLUSH is, once. -/
def decodeSend : Option AVPacket -> DecCall σ Unit
  | some pkt => do
      let s ← Call.get
      let put := putPacket pkt (vtremoteWbufReset s.pktBuf)
      Call.modify fun s => { s with pktBuf := put.2 }
      if h : put.1 < 0 then Call.fail ⟨put.1, h⟩
      else onDecLink (link.sendMsg .packet put.2.payload)
  | none => do
      let s ← Call.get
      Call.when (¬ s.flushing) do
        Call.modify fun s => { s with flushing := true }
        onDecLink (link.sendMsg .flush Payload.empty)

/-- A packet without data counts as none. -/
def packetToSend (pkt : Option AVPacket) : Option AVPacket :=
  pkt.filter fun pkt => 0 < pkt.data.length

def decodeBody (frame : AVFrame) (pkt : Option AVPacket) :
    DecCall σ (Option AVFrame) := do
  let s ← Call.get
  if s.done then Call.fail averrorEof
  else
    decodeSend link (packetToSend pkt)
    let s ← Call.get
    Call.loop (decodeRound link libs avctx frame) (link.left s.fd + 1)

def ffVtremoteDecode (frame : AVFrame) (pkt : Option AVPacket) :
    DecCall σ DecodeReturn := do
  let result ← Call.attempt (decodeBody link libs avctx frame pkt)
  pure (DecodeReturn.ofResult result)

/-!
## Runs
-/

/-- Calls with the given packets; the caller passes an empty frame each time. -/
def decodeRun (avctx : AVCodecContext) (frame : AVFrame) :
    List (Option AVPacket) -> DecCall σ (List DecodeReturn)
  | [] => pure []
  | pkt :: rest => do
      let avctx := avctx.extractPacketProps pkt
      let result ← ffVtremoteDecode link libs avctx frame pkt
      let results ← decodeRun avctx frame rest
      pure (result :: results)

end Decoder
end VTRemote
