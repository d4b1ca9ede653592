import VTRemote.Server.VideoToolboxCodecSession

/-!
# The stub codec session

`StubCodecSession` and the `TimestampTracker` that it asks whether to answer a
frame.  A handler returns the session it leaves and the message it sends, if
it sends one.
-/

namespace VTRemote

/-!
## Timestamps
-/

structure TimestampTracker where
  lastDtsTicks : Int64 := Int64.minValue
  lastPtsTicks : Int64 := Int64.minValue
deriving DecidableEq, Repr

namespace TimestampTracker

inductive Result where
  | skip
  | emit (dts : Int64)
deriving DecidableEq, Repr

def clampToPts (ptsTicks dts : Int64) : Int64 :=
  if ptsTicks < dts then ptsTicks else dts

/-- The sum `lastDtsTicks + 1` traps at the largest tick. -/
def process (t : TimestampTracker) (ptsTicks dtsTicks : Int64) :
    Except Failure (Result × TimestampTracker) := do
  if ptsTicks = t.lastPtsTicks ∧ t.lastPtsTicks ≠ Int64.minValue then
    pure (.skip, t)
  else
    let dts := clampToPts ptsTicks dtsTicks
    let dts ←
      if t.lastDtsTicks ≠ Int64.minValue ∧ dts ≤ t.lastDtsTicks then
        if t.lastDtsTicks = Int64.maxValue then throw Failure.trapped
        else pure (t.lastDtsTicks + 1)
      else pure dts
    let dts := clampToPts ptsTicks dts
    pure (.emit dts, { lastDtsTicks := dts, lastPtsTicks := ptsTicks })

end TimestampTracker

/-!
## The session
-/

inductive SessionMode where
  | encode
  | decode
deriving DecidableEq, Repr

/-- The fields of `SessionConfiguration` that the stub reads. -/
structure SessionConfiguration where
  mode : SessionMode
  width : Nat
  height : Nat
  pixelFormat : UInt8
  wireCompression : Int
deriving DecidableEq, Repr

structure StubCodecSession where
  config : Option SessionConfiguration := none
  timestampTracker : TimestampTracker := {}
deriving DecidableEq, Repr

namespace StubCodecSession

open ByteReader

def configure (configuration : SessionConfiguration) :
    List UInt8 × StubCodecSession :=
  ([], { config := some configuration, timestampTracker := {} })

def thrown (msg : String) : Failure := .thrown (.protocolViolation msg)

def planeData (codecs : PlaneCodecs) (wireCompression : Int)
    (raw : List UInt8) (expectedSize : Nat) :
    Except Failure (List UInt8) :=
  if wireCompression = 1 then
    match codecs.lz4DecompressData raw expectedSize with
    | .ok (some decoded) => .ok decoded
    | .ok none => .error (thrown "LZ4 decode failed")
    | .error e => .error e
  else if wireCompression = 2 then
    match codecs.zstdDecompressData raw expectedSize with
    | some decoded => .ok decoded
    | none => .error (thrown "Zstd decode failed")
  else .ok raw

def readStubPlane (codecs : PlaneCodecs) (wireCompression : Int) :
    ReaderM (List UInt8) := do
  let stride ← readBEUInt32
  let height ← readBEUInt32
  let len ← readBEUInt32
  let raw ← readBytes len.toNat
  let expectedSize ← swiftInt (stride.toNat * height.toNat)
  planeData codecs wireCompression raw expectedSize

structure StubFrame where
  pts : Int64
  dur : Int64
  flags : UInt32
  planes : List (List UInt8)
deriving DecidableEq, Repr

def readStubFrame (codecs : PlaneCodecs) (wireCompression : Int) :
    ReaderM StubFrame := do
  let pts ← readBEUInt64
  let dur ← readBEUInt64
  let flags ← readBEUInt32
  let planeCount ← readUInt8
  readRequire (planeCount == 2) expectedTwoPlanes
  let planes ← readTimes (readStubPlane codecs wireCompression) 2
  pure { pts := pts.toInt64, dur := dur.toInt64, flags, planes }

/-- The first bytes of the luma plane behind a start code. -/
def annexB (planes : List (List UInt8)) : List UInt8 :=
  [0, 0, 0, 1] ++ (planes.headD []).take 16

def packetBody (pts dts dur : Int64) (flags : UInt32) (annexB : List UInt8) :
    Except Failure (List UInt8) :=
  encodedSampleMessage pts dts dur (flags &&& 1 != 0) annexB

def handleFrameMessage (codecs : PlaneCodecs) (s : StubCodecSession)
    (payload : List UInt8) :
    Except Failure (StubCodecSession × Option (List UInt8)) := do
  match s.config with
  | none => throw (thrown "FRAME before CONFIGURE")
  | some configuration =>
      if configuration.mode ≠ .encode then pure (s, none)
      else
        let (frame, _) ← readStubFrame codecs configuration.wireCompression
          (ByteReader.init payload)
        let (result, tracker) ←
          s.timestampTracker.process frame.pts frame.pts
        let s := { s with timestampTracker := tracker }
        match result with
        | .skip => pure (s, none)
        | .emit dts =>
            let body ← packetBody frame.pts dts frame.dur frame.flags
              (annexB frame.planes)
            pure (s, some body)

def readStubPacket : ReaderM (UInt64 × UInt64) := do
  let pts ← readBEUInt64
  let _ ← readBEUInt64
  let dur ← readBEUInt64
  let _ ← readBEUInt32
  let dataLen ← readBEUInt32
  let _ ← readBytes dataLen.toNat
  pure (pts, dur)

def maybeCompress (codecs : PlaneCodecs) (wireCompression : Int)
    (data : List UInt8) : Except Failure (List UInt8) := do
  let _ ← PlaneCodecs.narrowCount wireCompression data
  if wireCompression = 1 then
    match codecs.lz4Compress data with
    | some compressed => pure compressed
    | none => throw (thrown "LZ4 compress failed")
  else if wireCompression = 2 then
    match codecs.zstdCompress data with
    | some compressed => pure compressed
    | none => throw (thrown "Zstd compress failed")
  else pure data

def writePlane (w : ByteWriter) (stride height : Nat) (data : List UInt8) :
    Except Failure ByteWriter := do
  let stride ← swiftUInt32 stride
  let height ← swiftUInt32 height
  let count ← swiftUInt32 data.length
  pure ((((w.writeBE32 stride).writeBE32 height).writeBE32 count).write data)

theorem writePlane_of_le (w : ByteWriter) {stride height : Nat}
    {data : List UInt8} (hstride : stride ≤ swiftUInt32Max)
    (hheight : height ≤ swiftUInt32Max) (hdata : data.length ≤ swiftUInt32Max) :
    exists w', writePlane w stride height data = .ok w' := by
  unfold writePlane
  rw [swiftUInt32_of_le hstride, swiftUInt32_of_le hheight,
    swiftUInt32_of_le hdata]
  exact ⟨_, rfl⟩

/-- The black frame that stands for a decoded packet. -/
def frameBody (codecs : PlaneCodecs) (configuration : SessionConfiguration)
    (pts dur : UInt64) : Except Failure (List UInt8) := do
  let bytesPerSample := if configuration.pixelFormat = 2 then 2 else 1
  let yStride ← swiftInt (configuration.width * bytesPerSample)
  let uvStride ← swiftInt (configuration.width * bytesPerSample)
  let yHeight := configuration.height
  let uvHeight := configuration.height / 2
  let yBytes ← swiftInt (yStride * yHeight)
  let uvBytes ← swiftInt (uvStride * uvHeight)
  let yPlane ← maybeCompress codecs configuration.wireCompression
    (List.replicate yBytes 0)
  let uvPlane ← maybeCompress codecs configuration.wireCompression
    (List.replicate uvBytes 0)
  let writer := (ByteWriter.mk []).writeBE64 pts
  let writer := writer.writeBE64 dur
  let writer := writer.writeBE32 0
  let writer := writer.writeUInt8 2
  let writer ← writePlane writer yStride yHeight yPlane
  let writer ← writePlane writer uvStride uvHeight uvPlane
  pure writer.data

def handlePacketMessage (codecs : PlaneCodecs) (s : StubCodecSession)
    (payload : List UInt8) :
    Except Failure (StubCodecSession × Option (List UInt8)) := do
  match s.config with
  | none => throw (thrown "PACKET before CONFIGURE")
  | some configuration =>
      if configuration.mode ≠ .decode then pure (s, none)
      else
        let ((pts, dur), _) ← readStubPacket (ByteReader.init payload)
        let body ← frameBody codecs configuration pts dur
        pure (s, some body)

end StubCodecSession
end VTRemote
