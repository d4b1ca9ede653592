import VTRemote.Library.RowCopy
import VTRemote.Server.SessionConfiguration
import VTRemote.Server.Timebase

/-!
# Frames into the encoder

`handleFrameMessage` of the VideoToolbox session: it reads the planes of a
FRAME, copies them into a pixel buffer of the compression session and hands
that to the encoder.  The pixel buffer is what the framework's pool answers.
-/

namespace VTRemote

def swiftDiv (a b : Nat) : Except Failure Nat :=
  if b = 0 then .error .trapped else .ok (a / b)

/-!
## Pixel buffers
-/

/-- A plane of a locked pixel buffer, behind its base address. -/
structure DestPlane where
  stride : Nat
  height : Nat
  bytes : Nat -> UInt8

/-- The planes by their index; `none` where the base address is nil. -/
structure PixelBuffer where
  plane : Nat -> Option DestPlane

/-!
## processPlane
-/

/-- The loop over the rows, with the offsets that it computes. -/
def rowCopies (destStride stride copyBytes height : Nat) :
    Except Failure (List Copy) :=
  (List.range height).mapM fun row => do
    let dst ← swiftInt (row * destStride)
    let src ← swiftInt (row * stride)
    pure { dst, src, count := copyBytes }

/-- The calls of `memcpy`: one for a plane without padding, else one a row. -/
def planeCopies (destStride stride rowBytes expectedSize : Nat) :
    Except Failure (List Copy) :=
  if stride = destStride ∧ stride = rowBytes then
    .ok [{ dst := 0, src := 0, count := expectedSize }]
  else do
    let height ← swiftDiv expectedSize stride
    let copyBytes := min rowBytes (min stride destStride)
    rowCopies destStride stride copyBytes height

def thrownViolation (msg : String) : Failure := .thrown (.protocolViolation msg)

/-- Decompression into `temp`.  Its base address is unwrapped by force, which
an empty buffer need not have. -/
def decompressTemp (codecs : PlaneCodecs) (wireCompression : Int)
    (raw : List UInt8) (expectedSize : Nat) : Except Failure (List UInt8) := do
  if expectedSize = 0 then throw Failure.trapped
  else
    let success ←
      if wireCompression = 1 then codecs.lz4Decompress raw expectedSize
      else pure (codecs.zstdDecompress raw expectedSize)
    match success with
    | some temp => pure temp
    | none => throw (thrownViolation "Decompress failed")

structure PlaneCopy where
  dest : DestPlane
  source : List UInt8
  copies : List Copy

def PlaneCopy.filled (c : PlaneCopy) : DestPlane :=
  { c.dest with
    bytes := Copy.applyAll (fun offset => c.source.getD offset 0) c.copies
      c.dest.bytes }

def processPlane (codecs : PlaneCodecs) (wireCompression : Int)
    (dest : Option DestPlane) (raw : List UInt8)
    (expectedSize stride rowBytes : Nat) :
    Except Failure (Option PlaneCopy) := do
  match dest with
  | none => pure none
  | some dest =>
      if wireCompression = 0 then
        if raw.length < expectedSize then
          throw (thrownViolation "plane too small")
        else
          let copies ← planeCopies dest.stride stride rowBytes expectedSize
          pure (some { dest, source := raw, copies })
      else
        let temp ← decompressTemp codecs wireCompression raw expectedSize
        let copies ← planeCopies dest.stride stride rowBytes expectedSize
        pure (some { dest, source := temp, copies })

/-- `concurrentPerform` over two planes: a trap in either ends the process,
and then the first error is thrown. -/
def concurrentPerform {α : Type} (plane0 plane1 : Except Failure α) :
    Except Failure (α × α) :=
  match plane0, plane1 with
  | .error .trapped, _ => .error .trapped
  | _, .error .trapped => .error .trapped
  | .error e, _ => .error e
  | _, .error e => .error e
  | .ok a, .ok b => .ok (a, b)

theorem concurrentPerform_eq_ok {α : Type} {plane0 plane1 : Except Failure α}
    {a b : α} (h : concurrentPerform plane0 plane1 = .ok (a, b)) :
    plane0 = .ok a ∧ plane1 = .ok b := by
  cases plane0 with
  | error e0 =>
      cases e0 with
      | trapped => cases h
      | thrown e0 =>
          cases plane1 with
          | error e1 => cases e1 <;> cases h
          | ok b' => cases h
  | ok a' =>
      cases plane1 with
      | error e1 => cases e1 <;> cases h
      | ok b' =>
          cases h
          exact ⟨rfl, rfl⟩

/-!
## handleFrameMessage
-/

/-- What `handleFrameMessage` reads before it touches the pixel buffer. -/
structure FramePlanes where
  ptsTicks : Int64
  durationTicks : Int64
  flags : UInt32
  y : PlaneMessage
  uv : PlaneMessage
deriving DecidableEq, Repr

/-- `max(0, stride * height)`. -/
def PlaneMessage.size (p : PlaneMessage) : Nat :=
  p.stride.toNat * p.height.toNat

open ByteReader

def readFramePlanes : ReaderM FramePlanes := do
  let ptsTicks ← readBEUInt64
  let durationTicks ← readBEUInt64
  let flags ← readBEUInt32
  let planes ← readUInt8
  readRequire (planes == 2) expectedTwoPlanes
  let y ← readPlane
  let uv ← readPlane
  pure
    { ptsTicks := ptsTicks.toInt64
      durationTicks := durationTicks.toInt64
      flags, y, uv }

/-- The reads of a FRAME are those before and those after the copies. -/
theorem readFrameMessage_eq :
    readFrameMessage = (do
      let planes ← readFramePlanes
      let sideData ← readSideData
      pure
        { ptsTicks := planes.ptsTicks
          durationTicks := planes.durationTicks
          flags := planes.flags
          planes := [planes.y, planes.uv]
          sideData }) := by
  simp only [readFrameMessage, readFramePlanes, bind_assoc, pure_bind]

/-- What `VTCompressionSessionEncodeFrame` is called with. -/
structure EncodeFrame where
  y : Option PlaneCopy
  uv : Option PlaneCopy
  presentationTimeStamp : CMTime
  forceKey : Bool
  sideData : List (List UInt8)

def EncodeFrame.imageBuffer (frame : EncodeFrame) : PixelBuffer where
  plane
    | 0 => frame.y.map PlaneCopy.filled
    | 1 => frame.uv.map PlaneCopy.filled
    | _ => none

/-- The state that `handleFrameMessage` works on.  `compressionSession` says
whether there is one. -/
structure VideoToolboxCodecSession where
  config : Option ClientConfiguration := none
  compressionSession : Bool := false
  forceKeyframeNext : Bool := false
deriving DecidableEq, Repr

namespace VideoToolboxCodecSession

def bytesPerSample (config : ClientConfiguration) : Nat :=
  if config.pixelFormat = 2 then 2 else 1

def captions (sideData : List SideDataMessage) : List (List UInt8) :=
  (sideData.filter fun sd => sd.type == 2).map SideDataMessage.data

/-- What `handleFrameMessage` does with the planes that it read, and with the
side data behind them.  `pool` is what the session's pool answers, a pixel
buffer or the error thrown for want of one. -/
def encodePlanes (codecs : PlaneCodecs) (s : VideoToolboxCodecSession)
    (config : ClientConfiguration) (pool : Except VTRemotedError PixelBuffer)
    (planes : FramePlanes) (reader : ByteReader) :
    Except Failure (VideoToolboxCodecSession × EncodeFrame) := do
  let stride0 := planes.y.stride.toNat
  let stride1 := planes.uv.stride.toNat
  let expectedY ← swiftInt planes.y.size
  let expectedUV ← swiftInt planes.uv.size
  let pBuffer ← pool.mapError Failure.thrown
  let rowBytesY ← swiftInt (config.width * bytesPerSample config)
  let rowBytesUV ← swiftInt (config.width * bytesPerSample config)
  let (y, uv) ← concurrentPerform
    (processPlane codecs config.wireCompression (pBuffer.plane 0)
      planes.y.data expectedY stride0 rowBytesY)
    (processPlane codecs config.wireCompression (pBuffer.plane 1)
      planes.uv.data expectedUV stride1 rowBytesUV)
  let (sideData, _) ← readSideData reader
  let pts ← cmTime planes.ptsTicks config.timebase
  let forceKey := planes.flags &&& 1 != 0 || s.forceKeyframeNext
  pure ({ s with forceKeyframeNext := false },
    { y, uv
      presentationTimeStamp := pts
      forceKey
      sideData := captions sideData })

def handleFrameMessage (codecs : PlaneCodecs) (s : VideoToolboxCodecSession)
    (pool : Except VTRemotedError PixelBuffer) (payload : List UInt8) :
    Except Failure (VideoToolboxCodecSession × Option EncodeFrame) := do
  match s.config with
  | none => throw (thrownViolation "FRAME before CONFIGURE")
  | some config =>
      if config.mode ≠ .encode then pure (s, none)
      else if s.compressionSession = false then
        throw (.thrown .videoToolboxUnavailable)
      else
        let (planes, reader) ← readFramePlanes (ByteReader.init payload)
        let (s, frame) ← encodePlanes codecs s config pool planes reader
        pure (s, some frame)

/-!
## What a frame that was submitted says about its FRAME
-/

variable {codecs : PlaneCodecs} {s s' : VideoToolboxCodecSession}
  {pool : Except VTRemotedError PixelBuffer} {frame : EncodeFrame}

theorem encodePlanes_eq_ok {config : ClientConfiguration} {planes : FramePlanes}
    {reader : ByteReader}
    (h : s.encodePlanes codecs config pool planes reader = .ok (s', frame)) :
    exists expectedY expectedUV buffer rowBytes sideData reader',
      swiftInt planes.y.size = .ok expectedY ∧
      swiftInt planes.uv.size = .ok expectedUV ∧ pool = .ok buffer ∧
      swiftInt (config.width * bytesPerSample config) = .ok rowBytes ∧
      processPlane codecs config.wireCompression (buffer.plane 0) planes.y.data
        expectedY planes.y.stride.toNat rowBytes = .ok frame.y ∧
      processPlane codecs config.wireCompression (buffer.plane 1) planes.uv.data
        expectedUV planes.uv.stride.toNat rowBytes = .ok frame.uv ∧
      readSideData reader = .ok (sideData, reader') ∧
      frame.sideData = captions sideData ∧
      s' = { s with forceKeyframeNext := false } ∧
      frame.forceKey = (planes.flags &&& 1 != 0 || s.forceKeyframeNext) := by
  unfold encodePlanes at h
  rcases swift_bind_eq_ok h with ⟨expectedY, hsizeY, h⟩
  rcases swift_bind_eq_ok h with ⟨expectedUV, hsizeUV, h⟩
  rcases swift_bind_eq_ok h with ⟨buffer, hpool, h⟩
  rcases swift_bind_eq_ok h with ⟨rowBytes, hrowY, h⟩
  rcases swift_bind_eq_ok h with ⟨rowBytesUV, hrowUV, h⟩
  rcases swift_bind_eq_ok h with ⟨⟨y, uv⟩, hplanes, h⟩
  rcases swift_bind_eq_ok h with ⟨⟨sideData, reader'⟩, hside, h⟩
  rcases swift_bind_eq_ok h with ⟨pts, _, h⟩
  cases h
  rw [hrowY] at hrowUV
  cases hrowUV
  rcases concurrentPerform_eq_ok hplanes with ⟨hy, huv⟩
  cases pool with
  | error e => cases hpool
  | ok buffer' =>
      cases hpool
      exact ⟨expectedY, expectedUV, buffer, rowBytes, sideData, reader', hsizeY,
        hsizeUV, rfl, hrowY, hy, huv, hside, rfl, rfl, rfl⟩

theorem handleFrameMessage_eq_ok {payload : List UInt8}
    (h : s.handleFrameMessage codecs pool payload = .ok (s', some frame)) :
    exists config planes reader, s.config = some config ∧
      readFramePlanes (ByteReader.init payload) = .ok (planes, reader) ∧
      s.encodePlanes codecs config pool planes reader = .ok (s', frame) := by
  unfold handleFrameMessage at h
  split at h
  · cases h
  · rename_i config hconfig
    split at h
    · cases h
    · split at h
      · cases h
      · rcases swift_bind_eq_ok h with ⟨⟨planes, reader⟩, hread, h⟩
        rcases swift_bind_eq_ok h with ⟨⟨s1, frame1⟩, hencode, h⟩
        cases h
        exact ⟨config, planes, reader, hconfig, hread, hencode⟩

end VideoToolboxCodecSession
end VTRemote
