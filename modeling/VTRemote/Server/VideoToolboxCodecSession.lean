import VTRemote.Server.ByteBuffer

/-!
# Messages of the VideoToolbox session

The reading sequences of `handleFrameMessage` and `handlePacketMessage` and the
writing sequences of `handleEncodedSampleBuffer` and `handleDecodedFrame`.  The
values that the framework supplies are arguments; what it does with the values
read is not part of the messages.
-/

namespace VTRemote

/-!
## Swift integers

Arithmetic that leaves the range of its type traps.
-/

def swiftInt (n : Nat) : Except Failure Nat :=
  if n ≤ 9223372036854775807 then .ok n else .error .trapped

theorem swiftInt_of_le {n : Nat} (h : n ≤ 9223372036854775807) :
    swiftInt n = .ok n :=
  if_pos h

theorem swiftInt_of_lt {n : Nat} (h : 9223372036854775807 < n) :
    swiftInt n = .error .trapped :=
  if_neg (Nat.not_le_of_lt h)

theorem swiftInt_eq_ok_iff {n m : Nat} :
    swiftInt n = .ok m <-> n ≤ 9223372036854775807 ∧ m = n := by
  constructor
  · intro h
    rcases Nat.lt_or_ge 9223372036854775807 n with hlt | hle
    · rw [swiftInt_of_lt hlt] at h
      cases h
    · rw [swiftInt_of_le hle] at h
      cases h
      exact ⟨hle, rfl⟩
  · intro h
    rcases h with ⟨hle, rfl⟩
    exact swiftInt_of_le hle

def swiftUInt32 (n : Nat) : Except Failure UInt32 :=
  if n ≤ 4294967295 then .ok (UInt32.ofNat n) else .error .trapped

def swiftUInt32Max : Nat := 4294967295

theorem swiftUInt32_of_le {n : Nat} (h : n ≤ swiftUInt32Max) :
    swiftUInt32 n = .ok (UInt32.ofNat n) :=
  if_pos h

theorem swiftUInt32_eq_ok {n : Nat} {v : UInt32} (h : swiftUInt32 n = .ok v) :
    n < 2 ^ 32 ∧ v = UInt32.ofNat n := by
  unfold swiftUInt32 at h
  split at h
  · rename_i hle
    cases h
    exact ⟨Nat.lt_succ_of_le hle, rfl⟩
  · cases h

def swiftInt32 (n : Nat) : Except Failure Nat :=
  if n ≤ 2147483647 then .ok n else .error .trapped

theorem swiftInt32_of_le {n : Nat} (h : n ≤ 2147483647) :
    swiftInt32 n = .ok n :=
  if_pos h

theorem swiftInt32_of_lt {n : Nat} (h : 2147483647 < n) :
    swiftInt32 n = .error .trapped :=
  if_neg (Nat.not_le_of_lt h)

/-!
## Plane compression
-/

/-- The functions of `LZ4Codec` and `ZstdCodec` that compress, which return nil
on failure, and what the libraries decode into a destination of the given size,
`none` for an error code. -/
structure PlaneCodecs where
  lz4Compress : List UInt8 -> Option (List UInt8)
  lz4DecompressSafe : List UInt8 -> Nat -> Option (List UInt8)
  zstdCompress : List UInt8 -> Option (List UInt8)
  zstdDecompressRaw : List UInt8 -> Nat -> Option (List UInt8)

namespace PlaneCodecs

def ofSize (decoded : Option (List UInt8)) (expectedSize : Nat) :
    Option (List UInt8) :=
  decoded.filter fun bytes => bytes.length = expectedSize

/-- `LZ4Codec.decompressRaw`, with the bytes that it leaves. -/
def lz4Decompress (codecs : PlaneCodecs) (src : List UInt8)
    (expectedSize : Nat) : Except Failure (Option (List UInt8)) := do
  if expectedSize = 0 then pure (some [])
  else
    let _ ← swiftInt32 src.length
    let _ ← swiftInt32 expectedSize
    pure (ofSize (codecs.lz4DecompressSafe src expectedSize) expectedSize)

def zstdDecompress (codecs : PlaneCodecs) (src : List UInt8)
    (expectedSize : Nat) : Option (List UInt8) :=
  if expectedSize = 0 then some []
  else ofSize (codecs.zstdDecompressRaw src expectedSize) expectedSize

/-- `LZ4Codec.decompress`: without bytes the library is not called. -/
def lz4DecompressData (codecs : PlaneCodecs) (data : List UInt8)
    (expectedSize : Nat) : Except Failure (Option (List UInt8)) := do
  if data.isEmpty ∧ 0 < expectedSize then
    let _ ← swiftInt32 expectedSize
    pure none
  else codecs.lz4Decompress data expectedSize

def zstdDecompressData (codecs : PlaneCodecs) (data : List UInt8)
    (expectedSize : Nat) : Option (List UInt8) :=
  if data.isEmpty ∧ 0 < expectedSize then none
  else codecs.zstdDecompress data expectedSize

/-- `LZ4Codec.compress` narrows the count of its bytes to 32 bits. -/
def narrowCount (wireCompression : Int) (raw : List UInt8) :
    Except Failure Nat :=
  if wireCompression = 1 then swiftInt32 raw.length else .ok raw.length

def compress (codecs : PlaneCodecs) (wireCompression : Int)
    (raw : List UInt8) : Option (List UInt8) :=
  if wireCompression = 1 then codecs.lz4Compress raw
  else if wireCompression = 2 then codecs.zstdCompress raw
  else some raw

end PlaneCodecs

/-!
## Reading FRAME and PACKET
-/

structure PlaneMessage where
  stride : UInt32
  height : UInt32
  data : List UInt8
deriving DecidableEq, Repr

structure SideDataMessage where
  type : UInt32
  data : List UInt8
deriving DecidableEq, Repr

/-- Every value that is read, also those that are then ignored. -/
structure FrameMessage where
  ptsTicks : Int64
  durationTicks : Int64
  flags : UInt32
  planes : List PlaneMessage
  sideData : List SideDataMessage
deriving DecidableEq, Repr

structure PacketMessage where
  ptsTicks : Int64
  dtsTicks : Int64
  durTicks : Int64
  flags : UInt32
  annexB : List UInt8
deriving DecidableEq, Repr

open ByteReader

def readPlane : ReaderM PlaneMessage := do
  let stride ← readBEUInt32
  let height ← readBEUInt32
  let len ← readBEUInt32
  let data ← sliceRange len.toNat
  pure { stride, height, data }

def readSideDataEntry : ReaderM SideDataMessage := do
  let type ← readBEUInt32
  let size ← readBEUInt32
  let data ← readBytes size.toNat
  pure { type, data }

def readSideData : ReaderM (List SideDataMessage) := fun r =>
  if 0 < r.remaining then
    (do
      let sideDataCount ← readUInt8
      readTimes readSideDataEntry sideDataCount.toNat) r
  else .ok ([], r)

def expectedTwoPlanes : Failure :=
  .thrown (.protocolViolation "expected 2 planes")

def readFrameMessage : ReaderM FrameMessage := do
  let ptsTicks ← readBEUInt64
  let durationTicks ← readBEUInt64
  let flags ← readBEUInt32
  let planes ← readUInt8
  readRequire (planes == 2) expectedTwoPlanes
  let plane0 ← readPlane
  let plane1 ← readPlane
  let sideData ← readSideData
  pure
    { ptsTicks := ptsTicks.toInt64
      durationTicks := durationTicks.toInt64
      flags
      planes := [plane0, plane1]
      sideData }

def readPacketMessage : ReaderM PacketMessage := do
  let ptsTicks ← readBEUInt64
  let dtsTicks ← readBEUInt64
  let durTicks ← readBEUInt64
  let flags ← readBEUInt32
  let dataLen ← readBEUInt32
  let annexB ← readBytes dataLen.toNat
  pure
    { ptsTicks := ptsTicks.toInt64
      dtsTicks := dtsTicks.toInt64
      durTicks := durTicks.toInt64
      flags
      annexB }

/-!
## Writing PACKET and FRAME
-/

/-- The PACKET body that `handleEncodedSampleBuffer` sends. -/
def encodedSampleMessage (ptsTicks dtsTicks durTicks : Int64) (isKey : Bool)
    (annex : List UInt8) : Except Failure (List UInt8) := do
  let count ← swiftUInt32 annex.length
  let writer := ByteWriter.mk []
  let writer := writer.writeBE64 ptsTicks.toUInt64
  let writer := writer.writeBE64 dtsTicks.toUInt64
  let writer := writer.writeBE64 durTicks.toUInt64
  let writer := writer.writeBE32 (if isKey then 1 else 0)
  let writer := writer.writeBE32 count
  let writer := writer.write annex
  pure writer.data

structure PixelBufferPlane where
  stride : Nat
  height : Nat
  raw : List UInt8
  raw_length : raw.length = stride * height

/-- The two parts sent for one plane, `none` when compression fails. -/
def planeParts (codecs : PlaneCodecs) (wireCompression : Int)
    (plane : PixelBufferPlane) :
    Except Failure (Option (List UInt8 × List UInt8)) := do
  let _ ← swiftInt (plane.stride * plane.height)
  let stride ← swiftUInt32 plane.stride
  let height ← swiftUInt32 plane.height
  let planeMeta := (ByteWriter.mk []).writeBE32 stride
  let planeMeta := planeMeta.writeBE32 height
  let _ ← PlaneCodecs.narrowCount wireCompression plane.raw
  match codecs.compress wireCompression plane.raw with
  | none => pure none
  | some compressed =>
      let count ← swiftUInt32 compressed.length
      let planeMeta := planeMeta.writeBE32 count
      pure (some (planeMeta.data, compressed))

/-- The parts that `handleDecodedFrame` sends, `none` when it sends nothing. -/
def decodedFrameParts (codecs : PlaneCodecs) (wireCompression : Int)
    (ptsTicks durTicks : Int64) (plane0 plane1 : PixelBufferPlane) :
    Except Failure (Option (List (List UInt8))) := do
  let writer := (ByteWriter.mk []).writeBE64 ptsTicks.toUInt64
  let writer := writer.writeBE64 durTicks.toUInt64
  let writer := writer.writeBE32 0
  let writer := writer.writeUInt8 2
  let res0 ← planeParts codecs wireCompression plane0
  let res1 ← planeParts codecs wireCompression plane1
  match res0, res1 with
  | some (meta0, data0), some (meta1, data1) =>
      pure (some [writer.data, meta0, data0, meta1, data1])
  | _, _ => pure none

end VTRemote
