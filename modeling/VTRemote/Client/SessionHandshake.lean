import VTRemote.Client.AvccConversion
import VTRemote.Client.Connecting
import VTRemote.Client.Decoder

/-!
# The life of a client

`vtremote_handshake`, what `init` does around it, and `close`.  The encoder and the
decoder each have a copy; a `HandshakeSide` has what the copies do not share.
-/

namespace VTRemote

attribute [local irreducible] cInt

/-!
## Messages
-/

/-- What the handshake asks of its connection and of the allocator. -/
structure HandshakeLink (σ : Type) where
  fill : WbufPut -> σ -> VTRemoteWBuf × σ
  sendBuffer : VTRemoteMsgType -> VTRemoteWBuf -> Call AvError σ Unit
  readMsg : Call AvError σ (VTRemoteMsgHeader × Bytes)
  malloc : Call AvError σ Unit

def hostHandshakeLink : HandshakeLink Host where
  fill put h :=
    let b := (put (vtremoteWbufInit h.heap)).2
    (b, { h with heap := b.grants })
  sendBuffer := vtremoteSendBuffer
  readMsg := vtremoteReadMsg
  malloc := avMalloc

section Messages

variable {σ : Type} (link : HandshakeLink σ)

/-- A message in a buffer of its own; the result of the writes is not read. -/
def sendPut (type : VTRemoteMsgType) (put : WbufPut) : Call AvError σ Unit := fun s =>
  let (b, s) := link.fill put s
  link.sendBuffer type b s

def awaitAck {β : Type} (type : VTRemoteMsgType)
    (handle : Bytes -> Int -> Except AvError β) : Call AvError σ β := do
  let (hdr, pl) ← link.readMsg
  if hdr.type ≠ type.code then Call.fail averrorInvaliddata
  else
    match handle pl (cInt hdr.length.toNat) with
    | .error e => Call.fail e
    | .ok result => pure result

def sayHello (ffmpegVersion : CString) (token : Option CString) (codecId : AVCodecID) :
    Call AvError σ Unit := do
  sendPut link .hello (vtremotePayloadHello (token.map CString.bytes)
    (some (utf8Data (codecNameForId codecId))) (some (utf8Data clientName))
    (some ffmpegVersion.bytes))
  awaitAck link .helloAck vtremoteHandleHelloAck

end Messages

/-- `awaitHelloAck` is the case of HELLO. -/
theorem awaitAck_hello :
    awaitAck hostHandshakeLink .helloAck vtremoteHandleHelloAck = awaitHelloAck := by
  unfold awaitAck awaitHelloAck
  apply congrArg (vtremoteReadMsg >>= ·)
  funext message
  rcases message with ⟨hdr, pl⟩
  dsimp only
  cases vtremoteHandleHelloAck pl (cInt hdr.length.toNat) with
  | error e => rfl
  | ok _ => rfl

/-- Once it is connected, the client says HELLO as both handshakes do. -/
theorem vtremoteHandshakeHello_connected (u : Unit) (ffmpegVersion : CString)
    (token : Option CString) (codecId : AVCodecID) :
    vtremoteHandshakeHello (.ok u) ffmpegVersion token codecId =
      sayHello hostHandshakeLink ffmpegVersion token codecId := by
  unfold vtremoteHandshakeHello sayHello
  rw [awaitAck_hello]
  rfl

/-!
## Two sides
-/

/-- What the handshakes of an encoder and of a decoder do not share.  The mode is the
first option, and an acknowledgement leaves a `β` in the codec context. -/
structure HandshakeSide (β : Type) where
  mode : String
  options : List ConfigureOption
  width : Int32
  height : Int32
  pixFmt : AVPixelFormat
  timeBase : AVRational
  framerate : AVRational
  extradata : Option Bytes
  extradataSize : Int32
  handleAck : Bytes -> Int -> Except AvError β

/-- `vtremote_handle_configure_ack` of the encoder; an access out of range is no
result of it. -/
def encoderAck (alloc : Allocator) (codecId : AVCodecID) (payload : Bytes) (len : Int) :
    Except AvError AnnexbOut :=
  match configureAckExtradata alloc codecId payload len { out := none, outSize := 0 } with
  | none => .error (averror efault)
  | some (ret, annexb) => if h : ret < 0 then .error ⟨ret, h⟩ else .ok annexb

def encoderSide (alloc : Allocator) (codecId : AVCodecID) (avctx : AVEncoderContext)
    (s : VTRemoteEncOptions) : HandshakeSide AnnexbOut where
  mode := "encode"
  options := (configureOptions avctx s).tail
  width := avctx.width
  height := avctx.height
  pixFmt := avctx.pixFmt
  timeBase := avctx.timeBase
  framerate := avctx.framerate
  extradata := none
  extradataSize := 0
  handleAck := encoderAck alloc codecId

/-- The fields of `AVCodecContext` that the CONFIGURE of a decoder is made of. -/
structure AVDecoderContext where
  width : Int32
  height : Int32
  pixFmt : AVPixelFormat
  timeBase : AVRational
  framerate : AVRational
  colorRange : Int32
  colorspace : Int32
  colorPrimaries : Int32
  colorTrc : Int32
  extradata : Bytes
  extradata_length : extradata.length ≤ 2147483647

def decoderOptions (avctx : AVDecoderContext) (wireCompression : Int32) :
    List ConfigureOption :=
  [ numberOption "wire_compression" (0 < wireCompression) wireCompression.toInt,
    numberOption "color_range" (avctx.colorRange ≠ avcolRangeUnspecified)
      avctx.colorRange.toInt,
    numberOption "colorspace" (avctx.colorspace ≠ avcolSpcUnspecified)
      avctx.colorspace.toInt,
    numberOption "color_primaries" (avctx.colorPrimaries ≠ avcolPriUnspecified)
      avctx.colorPrimaries.toInt,
    numberOption "color_trc" (avctx.colorTrc ≠ avcolTrcUnspecified)
      avctx.colorTrc.toInt ]

def pixFmtFromWire (pix : UInt8) : Option AVPixelFormat :=
  if pix = 1 then some .nv12 else if pix = 2 then some .p010le else none

/-- `vtremote_handle_configure_ack` of the decoder: the pixel format afterwards. -/
def decoderAck (old : AVPixelFormat) (payload : Bytes) (len : Int) :
    Except AvError AVPixelFormat :=
  match vtremoteHandleConfigureAck payload len with
  | .error e => .error e.code
  | .ok view => .ok ((pixFmtFromWire view.reportedPix).getD old)

def decoderSide (avctx : AVDecoderContext) (wireCompression : Int32) :
    HandshakeSide AVPixelFormat where
  mode := "decode"
  options := decoderOptions avctx wireCompression
  width := avctx.width
  height := avctx.height
  pixFmt := avctx.pixFmt
  timeBase := avctx.timeBase
  framerate := avctx.framerate
  extradata := some avctx.extradata
  extradataSize := Int32.ofNat avctx.extradata.length
  handleAck := decoderAck avctx.pixFmt

/-!
## The context
-/

structure OptionEntry where
  key : String
  block : Nat
  value : String
deriving DecidableEq

/-- `opts`, `opt_count` and `opt_cap`. -/
structure OptionArray where
  block : Option Nat
  entries : List OptionEntry
  cap : Nat
deriving DecidableEq

def OptionArray.empty : OptionArray where
  block := none
  entries := []
  cap := 0

/-- The private context as far as it is opened and closed, with the process around it.
`strings` are the blocks of the options, `wildFrees` the calls of `vtremote_wbuf_free`
on a buffer that was not initialised, `netUsers` the calls of `vtremote_net_init` less
those of `vtremote_net_close`. -/
structure InitContext (σ : Type) where
  socket : σ
  sockets : SocketTable
  fd : Int
  connected : Bool
  strings : Ledger
  opts : OptionArray
  wildFrees : Nat
  netUsers : Int

/-- What `avcodec_open2` has allocated is zero. -/
def InitContext.allocated {σ : Type} (socket : σ) (sockets : SocketTable) :
    InitContext σ where
  socket := socket
  sockets := sockets
  fd := 0
  connected := false
  strings := Ledger.empty
  opts := OptionArray.empty
  wildFrees := 0
  netUsers := 0

abbrev InitCall (σ α : Type) := Call AvError (InitContext σ) α

section Client

variable {σ β : Type}

def onTable {α : Type} (m : TableCall α) : InitCall σ α :=
  Call.zoom InitContext.sockets (fun s sockets => { s with sockets := sockets }) m

def onSocket {α : Type} (m : Call AvError σ α) : InitCall σ α :=
  Call.zoom InitContext.socket (fun s socket => { s with socket := socket }) m

variable (link : HandshakeLink σ)

/-!
## Options
-/

/-- `av_strdup` and `av_asprintf`. -/
def duplicate : InitCall σ (Option Nat) := do
  match ← Call.attempt (onSocket link.malloc) with
  | .error _ => pure none
  | .ok _ => do
      let s ← Call.get
      Call.modify fun s => { s with strings := s.strings.acquire }
      pure (some s.strings.next)

/-- The old block of an array that has moved is released. -/
def InitContext.moveOpts (s : InitContext σ) : InitContext σ :=
  let strings := s.strings.releaseAll s.opts.block.toList
  { s with
    strings := strings.acquire
    opts :=
      { s.opts with
        block := some strings.next
        cap := if s.opts.cap = 0 then 16 else s.opts.cap * 2 } }

def vtremoteAddOpt (key : String) (block : Option Nat) (value : String) :
    InitCall σ Unit :=
  match block with
  | none => Call.fail (averror einval)
  | some block => do
      let s ← Call.get
      Call.when (s.opts.cap ≤ s.opts.entries.length) do
        match ← Call.attempt (onSocket link.malloc) with
        | .error _ => Call.fail (averror enomem)
        | .ok _ => Call.modify InitContext.moveOpts
      Call.modify fun s =>
        { s with
          opts := { s.opts with entries := s.opts.entries ++ [⟨key, block, value⟩] } }

/-- Whether there is a value for the mode is left to `vtremote_add_opt`. -/
def addMode (mode : String) : InitCall σ Unit := do
  let block ← duplicate link
  vtremoteAddOpt link "mode" block mode

def addOption (option : ConfigureOption) : InitCall σ Unit :=
  Call.when option.sent do
    match ← duplicate link with
    | none => Call.fail (averror enomem)
    | some block => vtremoteAddOpt link option.key (some block) option.value

def addOptions : List ConfigureOption -> InitCall σ Unit
  | [] => pure ()
  | option :: rest => do
      addOption link option
      addOptions rest

def InitContext.freeOptions (s : InitContext σ) : InitContext σ :=
  { s with
    strings := s.strings.releaseAll
      (s.opts.entries.map OptionEntry.block ++ s.opts.block.toList)
    opts := OptionArray.empty }

/-!
## The handshake
-/

variable (side : HandshakeSide β)

def configurePut (pixFmt : UInt8) (options : List (String × String)) : WbufPut :=
  vtremotePayloadConfigure (uint32OfInt32 side.width) (uint32OfInt32 side.height) pixFmt
    (uint32OfInt32 side.timeBase.num) (uint32OfInt32 side.timeBase.den)
    (uint32OfInt32 side.framerate.num) (uint32OfInt32 side.framerate.den)
    (options.map optionKV) options.length side.extradata
    (uint32OfInt32 side.extradataSize)

def OptionArray.options (a : OptionArray) : List (String × String) :=
  a.entries.map fun entry => (entry.key, entry.value)

/-- Up to the pixel format; `cfg` is not initialised yet. -/
def buildOptions : InitCall σ UInt8 := do
  addMode link side.mode
  addOptions link side.options
  match wirePixFmt side.pixFmt with
  | .error e => Call.fail e
  | .ok pixFmt => pure pixFmt

def sendConfigure : InitCall σ Unit := do
  match ← Call.attempt (buildOptions link side) with
  | .error e => do
      -- `goto cfg_fail` enters the scope of `cfg` behind its initialisation
      Call.modify fun s => { s.freeOptions with wildFrees := s.wildFrees + 1 }
      Call.fail e
  | .ok pixFmt => do
      let s ← Call.get
      let put := configurePut side pixFmt s.opts.options
      let result ← Call.attempt (onSocket (sendPut link .configure put))
      Call.modify InitContext.freeOptions
      match result with
      | .error e => Call.fail e
      | .ok _ => pure ()

variable (ffmpegVersion : CString) (token : Option CString) (codecId : AVCodecID)

def exchange : InitCall σ β := do
  onSocket (sayHello link ffmpegVersion token codecId)
  sendConfigure link side
  onSocket (awaitAck link .configureAck side.handleAck)

def orClose (fd : Nat) (m : InitCall σ β) : InitCall σ β := do
  match ← Call.attempt m with
  | .ok result => pure result
  | .error e => do
      onTable (SocketTable.closeSocket fd)
      Call.modify fun s => { s with fd := -1 }
      Call.fail e

variable (getaddrinfo : Resolver)

def vtremoteHandshake (hostport : Bytes) : InitCall σ β := do
  let fd ← onTable (connectHostport getaddrinfo hostport)
  Call.modify fun s => { s with fd := (fd : Int) }
  let result ← orClose fd (exchange link side ffmpegVersion token codecId)
  Call.modify fun s => { s with connected := true }
  pure result

/-- `ff_vtremote_common_init` and `ff_vtremote_dec_init`; `netInit` is the answer of
`WSAStartup`, where there is one. -/
def ffVtremoteInit (netInit : Except AvError Unit) (host : Option Bytes) :
    InitCall σ β := do
  Call.modify fun s => { s with fd := -1 }
  match host, netInit with
  | none, _ => Call.fail (averror einval)
  | some _, .error e => Call.fail e
  | some hostport, .ok _ => do
      Call.modify fun s => { s with netUsers := s.netUsers + 1 }
      match ← Call.attempt (vtremoteHandshake link side ffmpegVersion token codecId
        getaddrinfo hostport) with
      | .ok result => pure result
      | .error e => do
          Call.modify fun s => { s with netUsers := s.netUsers - 1 }
          Call.fail e

/-- `ff_vtremote_common_close` and `ff_vtremote_dec_close`. -/
def ffVtremoteClose : InitCall σ Unit := do
  let s ← Call.get
  Call.when (0 ≤ s.fd) (onTable (SocketTable.closeSocket s.fd.toNat))
  Call.modify fun s => { s with netUsers := s.netUsers - 1 }

/-- `init` of a codec.  A decoder asks for its pixel format first; an encoder asks
for nothing. -/
def codecInit (format : Except AvError Unit) (netInit : Except AvError Unit)
    (host : Option Bytes) : InitCall σ β :=
  match format with
  | .error e => Call.fail e
  | .ok _ => ffVtremoteInit link side ffmpegVersion token codecId getaddrinfo netInit host

/-- `avcodec_open2`, calls of the codec on its connection, and the end.  The codecs let
`close` be called behind an `init` that failed. -/
def codecLife {α : Type} (format : Except AvError Unit) (netInit : Except AvError Unit)
    (host : Option Bytes) (calls : β -> Call AvError σ α) :
    InitCall σ (Except AvError α) := do
  let opened ← Call.attempt (codecInit link side ffmpegVersion token codecId getaddrinfo
    format netInit host)
  match opened with
  | .error e => do
      ffVtremoteClose
      pure (.error e)
  | .ok result => do
      let answer ← Call.attempt (onSocket (calls result))
      ffVtremoteClose
      pure answer

end Client
end VTRemote
