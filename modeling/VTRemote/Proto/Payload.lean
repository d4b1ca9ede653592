import VTRemote.Proto.Buffer

/-!
# Payload writers and parsers

The high-level payload helpers of `vtremote_proto.c`.  Pointers into a payload
are modelled by the bytes they point to.
-/

namespace VTRemote

/-!
## Writers
-/

structure VTRemoteKV where
  key : Option Bytes
  value : Option Bytes
deriving DecidableEq, Repr

structure VTRemoteSideData where
  type : UInt32
  size : UInt32
  data : Bytes
deriving DecidableEq, Repr

/-- One index of the parallel arrays `planes`, `strides`, `heights`, `sizes`. -/
structure FramePlane where
  data : Bytes
  stride : UInt32
  height : UInt32
  size : UInt32
deriving DecidableEq, Repr

def vtremotePayloadHello (token requestedCodec clientName clientBuildId :
    Option Bytes) : WbufPut := fun b =>
  (((vtremoteWbufPutStr token).orThen
    (vtremoteWbufPutStr requestedCodec)).orThen
    (vtremoteWbufPutStr clientName)).orThen
    (vtremoteWbufPutStr clientBuildId) (vtremoteWbufReset b)

/-- `if (len && data) ret |= vtremote_wbuf_put_bytes(b, data, len);` -/
def putIfAny (data : Option Bytes) (len : UInt32) : WbufPut :=
  match data with
  | some bytes =>
      if len = 0 then WbufPut.done
      else vtremoteWbufPutBytes bytes (cInt len.toNat)
  | none => WbufPut.done

/-- The loop over the options; each round ends with a check of `ret`. -/
def putOptions : List VTRemoteKV -> WbufPut
  | [] => WbufPut.done
  | kv :: rest =>
      ((vtremoteWbufPutStr kv.key).orThen
        (vtremoteWbufPutStr kv.value)).orReturn (putOptions rest)

def vtremotePayloadConfigure (width height : UInt32) (pixFmt : UInt8)
    (timeBaseNum timeBaseDen frNum frDen : UInt32)
    (options : List VTRemoteKV) (optionsCount : Int)
    (extradata : Option Bytes) (extradataLen : UInt32) : WbufPut := fun b =>
  if optionsCount < 0 then ((averror einval).code, b)
  else
    let fixed :=
      (((((((vtremoteWbufPutU32 width).orThen
        (vtremoteWbufPutU32 height)).orThen
        (vtremoteWbufPutU8 pixFmt)).orThen
        (vtremoteWbufPutU32 timeBaseNum)).orThen
        (vtremoteWbufPutU32 timeBaseDen)).orThen
        (vtremoteWbufPutU32 frNum)).orThen
        (vtremoteWbufPutU32 frDen)).orThen
        (vtremoteWbufPutU16 (UInt16.ofInt optionsCount))
    fixed.orReturn ((putOptions (options.take optionsCount.toNat)).orReturn
      ((vtremoteWbufPutU32 extradataLen).orReturn
        (putIfAny extradata extradataLen))) (vtremoteWbufReset b)

/-- The loop over the planes; `ret` is checked before and after the data. -/
def putPlanes : List FramePlane -> WbufPut
  | [] => WbufPut.done
  | p :: rest =>
      ((((vtremoteWbufPutU32 p.stride).orThen
        (vtremoteWbufPutU32 p.height)).orThen
        (vtremoteWbufPutU32 p.size)).orReturn
        (vtremoteWbufPutBytes p.data (cInt p.size.toNat))).orReturn
        (putPlanes rest)

/-- The loop over the side data, entered with the result of `first`. -/
def putSideData (first : WbufPut) : List VTRemoteSideData -> WbufPut
  | [] => first
  | sd :: rest =>
      (((first.orThen (vtremoteWbufPutU32 sd.type)).orThen
        (vtremoteWbufPutU32 sd.size)).orReturn
        (vtremoteWbufPutBytes sd.data (cInt sd.size.toNat))).orReturn
        (putSideData WbufPut.done rest)

/-- `if (side_data_count > 0 && side_data)` and its body. -/
def putSideDataSection (sideData : Option (List VTRemoteSideData))
    (sideDataCount : UInt8) : WbufPut :=
  match sideData with
  | some entries =>
      if sideDataCount = 0 then WbufPut.done
      else
        putSideData (vtremoteWbufPutU8 sideDataCount)
          (entries.take sideDataCount.toNat)
  | none => WbufPut.done

def vtremotePayloadFrame (pts duration : Int64) (flags : UInt32)
    (planeCount : UInt8) (planes : List FramePlane)
    (sideData : Option (List VTRemoteSideData)) (sideDataCount : UInt8) :
    WbufPut := fun b =>
  let fixed :=
    (((vtremoteWbufPutU64 pts.toUInt64).orThen
      (vtremoteWbufPutU64 duration.toUInt64)).orThen
      (vtremoteWbufPutU32 flags)).orThen
      (vtremoteWbufPutU8 planeCount)
  fixed.orReturn ((putPlanes (planes.take planeCount.toNat)).orReturn
    (putSideDataSection sideData sideDataCount)) (vtremoteWbufReset b)

def vtremotePayloadPacket (pts dts duration : Int64) (flags : UInt32)
    (data : Option Bytes) (dataLen : UInt32) : WbufPut := fun b =>
  let fixed :=
    ((((vtremoteWbufPutU64 pts.toUInt64).orThen
      (vtremoteWbufPutU64 dts.toUInt64)).orThen
      (vtremoteWbufPutU64 duration.toUInt64)).orThen
      (vtremoteWbufPutU32 flags)).orThen
      (vtremoteWbufPutU32 dataLen)
  fixed.orReturn (putIfAny data dataLen) (vtremoteWbufReset b)

theorem Appends.putSized {src : Bytes} {len : UInt32}
    (h : len.toNat = src.length) :
    Appends (vtremoteWbufPutBytes src (cInt len.toNat)) src := by
  have hcint := cInt_uint32 len.toNat_lt
  by_cases hsmall : len.toNat < 2147483648
  · rw [if_pos hsmall] at hcint
    have hput := Appends.putBytes src len.toNat
    rw [Int.toNat_natCast, h, List.take_length] at hput
    rw [hcint, h]
    exact hput
  · -- the length is negative as an `int`
    rw [if_neg hsmall] at hcint
    have hlt : len.toNat < 4294967296 := len.toNat_lt
    apply Appends.of_cases
    intro b
    left
    unfold vtremoteWbufPutBytes
    rw [if_pos (by omega)]
    exact (averror einval).neg

theorem putIfAny_appends {data : Option Bytes} {len : UInt32}
    (h : len.toNat = (data.getD []).length) :
    Appends (putIfAny data len) (data.getD []) := by
  cases data with
  | none => exact Appends.done
  | some bytes =>
      unfold putIfAny
      by_cases hzero : len = 0
      · have hnil : bytes = [] := by
          apply List.eq_nil_of_length_eq_zero
          rw [<- Option.getD_some (a := bytes) (b := []), <- h, hzero]
          rfl
        simp only [if_pos hzero, hnil]
        exact Appends.done
      · simp only [if_neg hzero]
        exact Appends.putSized h

theorem Succeeds.putSized {src : Bytes} {len : UInt32}
    (h : len.toNat = src.length) :
    Succeeds (vtremoteWbufPutBytes src (cInt len.toNat)) src.length := by
  intro b hb hpos hmax
  have hcint : cInt len.toNat = src.length := by
    unfold maxAllocSize at hmax
    rw [h, cInt_natCast (by omega)]
  have hput : vtremoteWbufPutBytes src (cInt len.toNat) b = wbufPut src b := by
    unfold vtremoteWbufPutBytes
    rw [hcint, if_neg (Int.not_lt.mpr (Int.natCast_nonneg _)), Int.toNat_natCast,
      List.take_length]
  rw [hput]
  exact wbufPut_succeeds src b hb hpos hmax

theorem putIfAny_succeeds {data : Option Bytes} {len : UInt32}
    (h : len.toNat = (data.getD []).length) :
    Succeeds (putIfAny data len) (data.getD []).length := by
  cases data with
  | none => exact Succeeds.done
  | some bytes =>
      unfold putIfAny
      by_cases hzero : len = 0
      · have hlen : (Option.getD (some bytes) []).length = 0 := by
          rw [<- h, hzero]
          rfl
        simp only [if_pos hzero]
        rw [hlen]
        exact Succeeds.done
      · simp only [if_neg hzero]
        exact Succeeds.putSized h

theorem vtremotePayloadPacket_succeeds (pts dts duration : Int64)
    (flags : UInt32) {data : Bytes} {b : VTRemoteWBuf} (hb : b.Granted)
    (hle : data.length + 32 ≤ maxAllocSize) :
    (vtremotePayloadPacket pts dts duration flags (some data)
        (UInt32.ofNat data.length) b).1 = 0 ∧
      (vtremotePayloadPacket pts dts duration flags (some data)
        (UInt32.ofNat data.length) b).2.Granted := by
  have hlen : (UInt32.ofNat data.length).toNat =
      (Option.getD (some data) []).length := by
    apply UInt32.toNat_ofNat_of_lt'
    unfold maxAllocSize at hle
    show data.length < 4294967296
    omega
  have hfixed := Succeeds.orThen (by decide)
    (Succeeds.orThen (by decide)
      (Succeeds.orThen (by decide)
        (Succeeds.orThen (by decide)
          (vtremoteWbufPutU64_succeeds pts.toUInt64)
          (vtremoteWbufPutU64_succeeds dts.toUInt64))
        (vtremoteWbufPutU64_succeeds duration.toUInt64))
      (vtremoteWbufPutU32_succeeds flags))
    (vtremoteWbufPutU32_succeeds (UInt32.ofNat data.length))
  have hall := Succeeds.orReturn (by decide) hfixed (putIfAny_succeeds hlen)
  have hreset : (vtremoteWbufReset b).Granted :=
    ⟨VTRemoteWBuf.sound_reset b, hb.grants⟩
  have hsize : (vtremoteWbufReset b).size + (8 + 8 + 8 + 4 + 4 +
      (Option.getD (some data) []).length) = data.length + 32 := by
    show 0 + (32 + data.length) = _
    omega
  rcases hall _ hreset (by rw [hsize]; omega) (by rw [hsize]; exact hle) with
    ⟨hret, hgranted, _⟩
  exact ⟨hret, hgranted⟩

/-!
## Parsers

Reads fail with one code, so a sequence of `ret |=` reads that is checked at
its end fails with the code of the first read that failed.
-/

structure VTRemotePacketView where
  pts : Int64
  dts : Int64
  duration : Int64
  flags : UInt32
  data : Bytes
  dataLen : UInt32
deriving DecidableEq, Repr

structure VTRemotePlaneView where
  stride : UInt32
  height : UInt32
  dataLen : UInt32
  data : Bytes
deriving DecidableEq, Repr

/-- The arrays hold the entries that were filled. -/
structure VTRemoteFrameView where
  pts : Int64
  duration : Int64
  flags : UInt32
  planeCount : UInt8
  planes : List VTRemotePlaneView
  sideDataCount : UInt8
  sideData : List VTRemoteSideData
deriving DecidableEq, Repr

/-- `if (n > (uint32_t)(r.size - r.pos)) return AVERROR_INVALIDDATA;`, then the
`n` bytes at the position. -/
def rbufPeek (n : UInt32) : RbufRead Bytes := fun r =>
  if (UInt32.ofInt (r.size - r.pos)) < n then .error (.returned averrorInvaliddata)
  else .ok (r.ahead.take n.toNat, r)

/-- `rbufPeek` followed by `r.pos += n`. -/
def rbufSection (n : UInt32) : RbufRead Bytes := do
  let data ← rbufPeek n
  fun r => .ok (data, r.advance n.toNat)

def packetView : RbufRead VTRemotePacketView := do
  let pts ← vtremoteRbufReadU64
  let dts ← vtremoteRbufReadU64
  let dur ← vtremoteRbufReadU64
  let flags ← vtremoteRbufReadU32
  let dataLen ← vtremoteRbufReadU32
  let data ← rbufPeek dataLen
  pure
    { pts := pts.toInt64
      dts := dts.toInt64
      duration := dur.toInt64
      flags := flags
      data := data
      dataLen := dataLen }

def vtremoteParsePacket (payload : Bytes) (payloadSize : Int) :
    Except (AccessError AvError) VTRemotePacketView :=
  if payloadSize < 8 + 8 + 8 + 4 + 4 then .error (.returned (averror einval))
  else (packetView (vtremoteRbufInit payload payloadSize)).map Prod.fst

def planeView : RbufRead VTRemotePlaneView := do
  let stride ← vtremoteRbufReadU32
  let height ← vtremoteRbufReadU32
  let dataLen ← vtremoteRbufReadU32
  let data ← rbufSection dataLen
  pure { stride := stride, height := height, dataLen := dataLen, data := data }

def sideDataView : RbufRead VTRemoteSideData := do
  let type ← vtremoteRbufReadU32
  let size ← vtremoteRbufReadU32
  let data ← rbufSection size
  pure { type := type, size := size, data := data }

def sideDataSection : RbufRead (List VTRemoteSideData) := fun r =>
  if r.pos < r.size then
    (do
      let sdCount ← vtremoteRbufReadU8
      readTimes sideDataView sdCount.toNat) r
  else .ok ([], r)

def frameView : RbufRead VTRemoteFrameView := do
  let pts ← vtremoteRbufReadU64
  let dur ← vtremoteRbufReadU64
  let flags ← vtremoteRbufReadU32
  let planeCount ← vtremoteRbufReadU8
  readRequire (planeCount ≤ 4) (.returned averrorInvaliddata)
  let planes ← readTimes planeView planeCount.toNat
  let sideData ← sideDataSection
  pure
    { pts := pts.toInt64
      duration := dur.toInt64
      flags := flags
      planeCount := planeCount
      planes := planes
      -- the view has room for eight entries; the rest are read and dropped
      sideDataCount := UInt8.ofNat (min sideData.length 8)
      sideData := sideData.take 8 }

def vtremoteParseFrame (payload : Bytes) (payloadSize : Int) :
    Except (AccessError AvError) VTRemoteFrameView :=
  if payloadSize < 8 + 8 + 4 + 1 then .error (.returned (averror einval))
  else (frameView (vtremoteRbufInit payload payloadSize)).map Prod.fst

/-!
## Bounds checks
-/

theorem VTRemoteRBuf.WellFormed.left {r : VTRemoteRBuf} (h : r.WellFormed) :
    (UInt32.ofInt (r.size - r.pos)).toNat = r.ahead.length := by
  have hlen := h.ahead_length
  have hmax := h.size_le
  have hpos := h.pos_nonneg
  have hlt : r.ahead.length < 2 ^ 32 := by
    unfold intMax at hmax
    omega
  rw [<- hlen]
  exact uint32_ofInt_toNat hlt

theorem rbufPeek_eq {r : VTRemoteRBuf} (h : r.WellFormed) (n : UInt32) :
    rbufPeek n r =
      if r.ahead.length < n.toNat then .error (.returned averrorInvaliddata)
      else .ok (r.ahead.take n.toNat, r) := by
  unfold rbufPeek
  simp only [UInt32.lt_iff_toNat_lt, h.left]

theorem rbufSection_follows (n : UInt32) :
    RbufFollows (rbufSection n) (Decoder.take n.toNat) := by
  intro r bytes rest hok hd
  rcases Decoder.take_eq_some hd with ⟨hahead, hlen⟩
  have hadv := hok.advance hahead
  have hpeek := rbufPeek_eq hok n
  rw [hahead, <- hlen, List.take_left, if_neg (by simp)] at hpeek
  refine ⟨r.advance bytes.length, ?_, hadv.1, hadv.2⟩
  unfold rbufSection
  rw [bind_of_ok hpeek, <- hlen]

end VTRemote
