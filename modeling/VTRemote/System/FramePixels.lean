import VTRemote.Formats.SentFrame
import VTRemote.Server.CopyBounds
import VTRemote.Server.FrameTraps

/-!
# Pixels on their way to the encoder

A frame leaves the client as two planes of `height` and `height / 2` rows, and
the server copies `width * bytesPerSample` bytes of each row of both.  Half of
an odd height or width is rounded down by this, while the chroma plane of such
a frame is rounded up.
-/

namespace VTRemote

open Grammar

attribute [local irreducible] cInt

/-!
## Frames on both sides
-/

structure Biplanar where
  width : Nat
  height : Nat
  bps : Nat
  width_pos : 1 ≤ width
  height_pos : 1 ≤ height

namespace Biplanar

def rows (g : Biplanar) (i : Fin 2) : Nat :=
  if i = 0 then g.height else (g.height + 1) / 2

def rowSize (g : Biplanar) (i : Fin 2) : Nat :=
  if i = 0 then g.width * g.bps else 2 * ((g.width + 1) / 2) * g.bps

def wireRows (g : Biplanar) (i : Fin 2) : Nat :=
  if i = 0 then g.height else g.height / 2

theorem wireRows_le (g : Biplanar) (i : Fin 2) : g.wireRows i ≤ g.rows i := by
  unfold wireRows rows
  split
  · exact Nat.le_refl _
  · exact Nat.div_le_div_right (Nat.le_succ _)

theorem width_le_rowSize (g : Biplanar) (i : Fin 2) :
    g.width * g.bps ≤ g.rowSize i := by
  unfold rowSize
  split
  · exact Nat.le_refl _
  · exact Nat.mul_le_mul_right g.bps (by omega)

end Biplanar

/-- A frame of the client, with its line sizes and full planes. -/
structure ClientFrame (g : Biplanar) (lineSize : Fin 2 -> Nat)
    (frame : AVFrame) : Prop where
  format : frame.format = .nv12 ∧ g.bps = 1 ∨ frame.format = .p010le ∧ g.bps = 2
  width : frame.width = g.width
  height : frame.height = g.height
  linesize : forall i, frame.linesize i = lineSize i
  row : forall i, g.rowSize i ≤ lineSize i
  small : forall i, lineSize i * g.rows i < 2 ^ 31
  data : forall i, lineSize i * g.rows i ≤ (frame.data i).length

structure ServerReady (g : Biplanar) (wireCompression : Int)
    (dest : Fin 2 -> DestPlane) (s : VideoToolboxCodecSession)
    (config : ClientConfiguration) (buffer : PixelBuffer) : Prop where
  configured : s.config = some config
  session : s.compressionSession = true
  mode : config.mode = .encode
  width : config.width = g.width
  bps : VideoToolboxCodecSession.bytesPerSample config = g.bps
  wireCompression : config.wireCompression = wireCompression
  timescale : config.timebase.den ≤ swiftInt32Max
  plane : forall i : Fin 2, buffer.plane i = some (dest i)
  height : forall i, (dest i).height = g.rows i
  row : forall i, g.rowSize i ≤ (dest i).stride
  fits : forall i, (dest i).height * (dest i).stride ≤ swiftIntMax

/-- What the client's libraries compress, those of the server restore.  LZ4
returns a length of type `int`, Zstd one below its bound. -/
structure Restores (libs : CompressionLibraries) (codecs : PlaneCodecs) :
    Prop where
  lz4 : forall src out, libs.lz4CompressDefault src = some out ->
    out.length ≤ swiftInt32Max ∧
      codecs.lz4DecompressSafe out src.length = some src
  zstd : forall src out, src.length < 2 ^ 31 ->
    libs.zstdCompressCCtx src = some out ->
    out.length < 2 ^ 32 ∧ codecs.zstdDecompressRaw out src.length = some src

/-!
## A plane on the wire
-/

section Plane

variable {g : Biplanar} {lineSize : Fin 2 -> Nat} {frame : AVFrame}
  {libs : CompressionLibraries} {codecs : PlaneCodecs} {wireCompression : Int}
  {i : Fin 2} {plane : FramePlane}

theorem ClientFrame.wireSize_lt (h : ClientFrame g lineSize frame)
    (i : Fin 2) : lineSize i * g.wireRows i < 2 ^ 31 :=
  Nat.lt_of_le_of_lt (Nat.mul_le_mul_left _ (g.wireRows_le i)) (h.small i)

theorem ClientFrame.lineSize_pos (h : ClientFrame g lineSize frame)
    (i : Fin 2) : 0 < lineSize i := by
  have hbps : 0 < g.bps := by
    rcases h.format with ⟨_, hbps⟩ | ⟨_, hbps⟩
    · rw [hbps]
      exact Nat.one_pos
    · rw [hbps]
      exact Nat.two_pos
  exact Nat.lt_of_lt_of_le (Nat.mul_pos g.width_pos hbps)
    (Nat.le_trans (g.width_le_rowSize i) (h.row i))

theorem ClientFrame.wireRows_lt (h : ClientFrame g lineSize frame)
    (i : Fin 2) : g.wireRows i < 2 ^ 31 :=
  Nat.lt_of_le_of_lt (Nat.le_mul_of_pos_left _ (h.lineSize_pos i))
    (h.wireSize_lt i)

theorem ClientFrame.lineSize_lt (h : ClientFrame g lineSize frame)
    (i : Fin 2) : lineSize i < 2 ^ 31 := by
  refine Nat.lt_of_le_of_lt (Nat.le_mul_of_pos_right _ ?_) (h.small i)
  have hheight := g.height_pos
  unfold Biplanar.rows
  split
  · exact hheight
  · omega

theorem ClientFrame.wireHeight (h : ClientFrame g lineSize frame)
    (i : Fin 2) :
    (if i = 0 then frame.height else frame.height.tdiv 2) =
      (g.wireRows i : Int) := by
  unfold Biplanar.wireRows
  rw [h.height]
  split
  · rfl
  · rw [Int.tdiv_eq_ediv_of_nonneg (Int.natCast_nonneg _)]
    rfl

theorem ClientFrame.planeSize_toNat (h : ClientFrame g lineSize frame)
    (i : Fin 2) : (planeSize frame i).toNat = lineSize i * g.wireRows i := by
  have hsize := h.wireSize_lt i
  have hrows := h.wireRows_lt i
  have hline := h.lineSize_lt i
  unfold planeSize
  rw [h.wireHeight, h.linesize]
  rw [UInt32.toNat_mul, uint32_ofInt_toNat (by omega),
    uint32_ofInt_toNat (by omega)]
  exact Nat.mod_eq_of_lt (by omega)

def wireBytes (g : Biplanar) (lineSize : Fin 2 -> Nat) (frame : AVFrame)
    (i : Fin 2) : List UInt8 :=
  (frame.data i).take (lineSize i * g.wireRows i)

theorem ClientFrame.wireBytes_length (h : ClientFrame g lineSize frame)
    (i : Fin 2) :
    (wireBytes g lineSize frame i).length = lineSize i * g.wireRows i := by
  have hle := Nat.mul_le_mul_left (lineSize i) (g.wireRows_le i)
  unfold wireBytes
  rw [List.length_take, Nat.min_eq_left (Nat.le_trans hle (h.data i))]

/-- A plane on the wire has the sizes of the client's, and holds its bytes in a
form that the server can restore. -/
structure Carried (g : Biplanar) (lineSize : Fin 2 -> Nat) (frame : AVFrame)
    (codecs : PlaneCodecs) (wireCompression : Int) (i : Fin 2)
    (plane : FramePlane) : Prop where
  stride : plane.stride.toNat = lineSize i
  height : plane.height.toNat = g.wireRows i
  size : plane.size.toNat ≤ plane.data.length
  length : wireCompression = 1 -> plane.cut.data.length ≤ swiftInt32Max
  source : planeSource codecs wireCompression plane.cut.data
    (lineSize i * g.wireRows i) = some (wireBytes g lineSize frame i)

theorem PlaneCodecs.ofSize_some {raw : List UInt8} {size : Nat}
    (h : raw.length = size) : PlaneCodecs.ofSize (some raw) size = some raw := by
  unfold PlaneCodecs.ofSize
  rw [Option.filter_some, if_pos (decide_eq_true h)]

theorem ClientFrame.stride_toNat (h : ClientFrame g lineSize frame) (i : Fin 2) :
    (UInt32.ofInt (frame.linesize i)).toNat = lineSize i := by
  rw [h.linesize, uint32_ofInt_toNat]
  exact Nat.lt_trans (h.lineSize_lt i) (by decide)

theorem ClientFrame.height_toNat (h : ClientFrame g lineSize frame) (i : Fin 2) :
    (UInt32.ofInt (if i = 0 then frame.height else frame.height.tdiv 2)).toNat =
      g.wireRows i := by
  rw [h.wireHeight, uint32_ofInt_toNat]
  exact Nat.lt_trans (h.wireRows_lt i) (by decide)

theorem ClientFrame.take_planeSize (h : ClientFrame g lineSize frame) (i : Fin 2) :
    (frame.data i).take (cInt (planeSize frame i).toNat).toNat =
      wireBytes g lineSize frame i := by
  have hsmall := h.wireSize_lt i
  have hcint := cInt_uint32 (planeSize frame i).toNat_lt
  rw [h.planeSize_toNat i] at hcint ⊢
  rw [hcint, if_pos (show _ < 2147483648 from hsmall), Int.toNat_natCast]
  rfl

theorem carried_of_source (h : ClientFrame g lineSize frame)
    (hstride : plane.stride = UInt32.ofInt (frame.linesize i))
    (hheight : plane.height =
      UInt32.ofInt (if i = 0 then frame.height else frame.height.tdiv 2))
    (hsize : plane.size.toNat = plane.data.length)
    (hlength : wireCompression = 1 -> plane.data.length ≤ swiftInt32Max)
    (hsource : planeSource codecs wireCompression plane.data
      (lineSize i * g.wireRows i) = some (wireBytes g lineSize frame i)) :
    Carried g lineSize frame codecs wireCompression i plane := by
  have hcut : plane.cut.data = plane.data := by
    unfold FramePlane.cut
    rw [hsize, List.take_length]
  constructor
  · rw [hstride]
    exact h.stride_toNat i
  · rw [hheight]
    exact h.height_toNat i
  · exact Nat.le_of_eq hsize
  · rw [hcut]
    exact hlength
  · rw [hcut]
    exact hsource

theorem sendPlane_carried (h : ClientFrame g lineSize frame)
    (hrestores : Restores libs codecs)
    (hwire : wireCompression = 0 ∨ wireCompression = 1 ∨ wireCompression = 2)
    (hsend : sendPlane libs wireCompression frame i = .ok plane) :
    Carried g lineSize frame codecs wireCompression i plane := by
  have hsize := h.planeSize_toNat i
  have hsmall := h.wireSize_lt i
  have hlength := h.wireBytes_length i
  unfold sendPlane at hsend
  dsimp only at hsend
  rw [h.take_planeSize i] at hsend
  rcases hwire with rfl | rfl | rfl
  · rw [if_neg (by decide)] at hsend
    cases hsend
    have hdata : lineSize i * g.wireRows i ≤ (frame.data i).length :=
      Nat.le_trans (Nat.mul_le_mul_left _ (g.wireRows_le i)) (h.data i)
    have hcut : ((frame.data i).take (planeSize frame i).toNat) =
        wireBytes g lineSize frame i := by
      rw [hsize]
      rfl
    constructor
    · exact h.stride_toNat i
    · exact h.height_toNat i
    · rw [hsize]
      exact hdata
    · intro h
      cases h
    · unfold FramePlane.cut planeSource
      rw [if_pos rfl, hcut, hlength, if_neg (Nat.lt_irrefl _)]
  all_goals
    rw [if_pos (by decide)] at hsend
  · cases hout : libs.compress 1 (wireBytes g lineSize frame i) with
    | none =>
        rw [hout] at hsend
        cases hsend
    | some out =>
        rw [hout] at hsend
        cases hsend
        rcases hrestores.lz4 _ out hout with ⟨hle, hdecoded⟩
        rw [hlength] at hdecoded
        apply carried_of_source h rfl rfl
        · exact UInt32.toNat_ofNat_of_lt' (Nat.lt_of_le_of_lt hle (by decide))
        · exact fun _ => hle
        · unfold planeSource PlaneCodecs.decoded
          rw [if_neg (by decide), if_pos rfl, hdecoded]
          exact PlaneCodecs.ofSize_some hlength
  · cases hout : libs.compress 2 (wireBytes g lineSize frame i) with
    | none =>
        rw [hout] at hsend
        cases hsend
    | some out =>
        rw [hout] at hsend
        cases hsend
        have hshort : (wireBytes g lineSize frame i).length < 2 ^ 31 := by
          rw [hlength]
          exact hsmall
        rcases hrestores.zstd _ out hshort hout with ⟨hlt, hdecoded⟩
        rw [hlength] at hdecoded
        apply carried_of_source h rfl rfl
        · exact UInt32.toNat_ofNat_of_lt' hlt
        · exact fun h => nomatch h
        · unfold planeSource PlaneCodecs.decoded
          rw [if_neg (by decide), if_neg (by decide), hdecoded]
          exact PlaneCodecs.ofSize_some hlength

/-!
## A plane in the pixel buffer
-/

variable {dest : Fin 2 -> DestPlane} {s : VideoToolboxCodecSession}
  {config : ClientConfiguration} {buffer : PixelBuffer}

def arrivedPlane (g : Biplanar) (lineSize : Fin 2 -> Nat) (frame : AVFrame)
    (dest : Fin 2 -> DestPlane) (i : Fin 2) : PlaneCopy where
  dest := dest i
  source := wireBytes g lineSize frame i
  copies := planeRuns (dest i).stride (lineSize i) (g.width * g.bps)
    (g.wireRows i)

theorem copySafe_of_ready (hframe : ClientFrame g lineSize frame)
    (hserver : ServerReady g wireCompression dest s config buffer)
    (i : Fin 2) :
    CopySafe (dest i).stride (lineSize i) (g.width * g.bps)
      (g.wireRows i) := by
  refine .inr ⟨Nat.ne_of_gt (hframe.lineSize_pos i), ?_⟩
  refine Nat.le_trans (Nat.mul_le_mul_right _ ?_) (hserver.fits i)
  rw [hserver.height]
  exact Nat.le_trans (Nat.sub_le _ 1) (g.wireRows_le i)

theorem processPlane_arrived (hframe : ClientFrame g lineSize frame)
    (hserver : ServerReady g wireCompression dest s config buffer)
    (hcarried : Carried g lineSize frame codecs wireCompression i plane)
    (hsome : wireCompression = 0 ∨ 0 < g.wireRows i) :
    processPlane codecs wireCompression (some (dest i)) plane.cut.data
        plane.cut.toWire.toMessage.size plane.stride.toNat (g.width * g.bps) =
      .ok (some (arrivedPlane g lineSize frame dest i)) := by
  have hsize := hframe.wireSize_lt i
  have hle : lineSize i * g.wireRows i ≤ swiftIntMax :=
    Nat.le_trans (Nat.le_of_lt hsize) (by decide)
  have hmessage : plane.cut.toWire.toMessage.size =
      lineSize i * g.wireRows i := by
    show plane.stride.toNat * plane.height.toNat = _
    rw [hcarried.stride, hcarried.height]
  have hsafe : wireCompression = 0 ∨ DecompressSafe wireCompression
      plane.cut.data (lineSize i * g.wireRows i) := by
    rcases hsome with hzero | hpos
    · exact .inl hzero
    · exact .inr ⟨Nat.mul_pos (hframe.lineSize_pos i) hpos, fun hlz4 =>
        ⟨hcarried.length hlz4, Nat.le_of_lt_succ hsize⟩⟩
  rw [hmessage, hcarried.stride, processPlane_eq codecs wireCompression _ _ hle,
    if_pos hsafe, hcarried.source]
  dsimp only
  rw [if_pos (copySafe_of_ready hframe hserver i)]
  rfl

theorem arrivedPlane_bytes (hframe : ClientFrame g lineSize frame)
    (hserver : ServerReady g wireCompression dest s config buffer)
    (i : Fin 2) (row : Nat) {col : Nat} (hcol : col < g.rowSize i) :
    (arrivedPlane g lineSize frame dest i).filled.bytes
        (row * (dest i).stride + col) =
      if row < g.wireRows i ∧ col < g.width * g.bps then
        (frame.data i).getD (row * lineSize i + col) 0
      else (dest i).bytes (row * (dest i).stride + col) := by
  have hwidth := g.width_le_rowSize i
  have hfilled : (arrivedPlane g lineSize frame dest i).filled.bytes
      (row * (dest i).stride + col) = _ :=
    planeRuns_filled (fun offset => (wireBytes g lineSize frame i).getD offset 0)
      (dest i).bytes (Nat.le_trans hwidth (hframe.row i))
      (Nat.le_trans hwidth (hserver.row i))
      (Nat.lt_of_lt_of_le hcol (hserver.row i))
  rw [hfilled]
  split
  · rename_i hinside
    have hlt : row * lineSize i + col < lineSize i * g.wireRows i :=
      calc row * lineSize i + col
          < row * lineSize i + lineSize i :=
            Nat.add_lt_add_left (Nat.lt_of_lt_of_le hcol (hframe.row i)) _
        _ = (row + 1) * lineSize i := (Nat.succ_mul row (lineSize i)).symm
        _ ≤ g.wireRows i * lineSize i :=
            Nat.mul_le_mul_right (lineSize i) hinside.1
        _ = lineSize i * g.wireRows i := Nat.mul_comm _ _
    unfold wireBytes
    rw [List.getD_eq_getElem?_getD, List.getD_eq_getElem?_getD,
      List.getElem?_take_of_lt hlt]
  · rfl

end Plane

/-!
## The frame in the pixel buffer
-/

theorem VideoToolboxCodecSession.handleFrameMessage_of_planes
    {codecs : PlaneCodecs} {s : VideoToolboxCodecSession}
    {config : ClientConfiguration} {buffer : PixelBuffer}
    {payload rest : List UInt8} {planes : FramePlanes}
    {y uv : Option PlaneCopy} (hconfig : s.config = some config)
    (hsession : s.compressionSession = true) (hmode : config.mode = .encode)
    (hplanes : framePlanes payload = some (planes, rest))
    (hside : Frame.decodeSideData rest ≠ none)
    (hsizeY : planes.y.size ≤ swiftIntMax)
    (hsizeUV : planes.uv.size ≤ swiftIntMax)
    (hrow : config.rowBytes ≤ swiftIntMax)
    (hden : config.timebase.den ≤ swiftInt32Max)
    (hy : processPlane codecs config.wireCompression (buffer.plane 0)
      planes.y.data planes.y.size planes.y.stride.toNat config.rowBytes = .ok y)
    (huv : processPlane codecs config.wireCompression (buffer.plane 1)
      planes.uv.data planes.uv.size planes.uv.stride.toNat config.rowBytes =
        .ok uv) :
    exists s' frame, s.handleFrameMessage codecs (.ok buffer) payload =
      .ok (s', some frame) ∧ frame.y = y ∧ frame.uv = uv := by
  rcases readFramePlanes_follows (ByteReader.init payload) planes rest trivial
    hplanes with ⟨reader, hread, _, hrest⟩
  rw [<- hrest] at hside
  rcases readSideData_cases reader with
    ⟨hnone, _⟩ | ⟨sideData, reader', _, hreadSide⟩
  · exact absurd hnone hside
  rcases cmTime_of_le hden planes.ptsTicks with ⟨time, htime⟩
  have hrow' : swiftInt (config.width * bytesPerSample config) =
      .ok config.rowBytes := swiftInt_of_le hrow
  unfold handleFrameMessage
  rw [hconfig]
  dsimp only
  rw [if_neg (not_not.mpr hmode), if_neg (by rw [hsession]; decide), hread]
  show exists s' frame, (encodePlanes codecs s config (.ok buffer) planes
    reader >>= fun p => pure (p.1, some p.2)) = _ ∧ _
  unfold encodePlanes
  rw [swiftInt_of_le hsizeY, swiftInt_of_le hsizeUV, hrow']
  simp only [bind, Except.bind, Except.mapError, hy, huv, concurrentPerform,
    hreadSide, htime]
  exact ⟨_, _, rfl, rfl, rfl⟩

section Frame

variable {g : Biplanar} {lineSize : Fin 2 -> Nat} {frame : AVFrame}
  {libs : CompressionLibraries} {codecs : PlaneCodecs} {wireCompression : Int}
  {dest : Fin 2 -> DestPlane} {s : VideoToolboxCodecSession}
  {config : ClientConfiguration} {buffer : PixelBuffer} {payload : Payload}

theorem FrameCarries.decode (hframe : ClientFrame g lineSize frame)
    (hrestores : Restores libs codecs)
    (hwire : wireCompression = 0 ∨ wireCompression = 1 ∨ wireCompression = 2)
    (hcarries : FrameCarries libs wireCompression frame payload) :
    exists plane0 plane1 planes rest,
      Carried g lineSize frame codecs wireCompression 0 plane0 ∧
      Carried g lineSize frame codecs wireCompression 1 plane1 ∧
      framePlanes payload.bytes = some (planes, rest) ∧
      Frame.decodeSideData rest ≠ none ∧
      planes.y = plane0.cut.toWire.toMessage ∧
      planes.uv = plane1.cut.toWire.toMessage := by
  rcases hcarries with ⟨plane0, plane1, hsend0, hsend1, hbytes⟩
  have h0 := sendPlane_carried hframe hrestores hwire hsend0
  have h1 := sendPlane_carried hframe hrestores hwire hsend1
  have hfits : (sentFrame frame [plane0, plane1]).Fits :=
    sentFrame_fits h0.size h1.size
  have hdecode := framePlanes_encode hfits rfl
  rw [<- hbytes] at hdecode
  have hside := Frame.decodeSideData_encode hfits.sideData hfits.sideDataData
  refine ⟨plane0, plane1, _, _, h0, h1, hdecode, ?_, rfl, rfl⟩
  rw [hside]
  exact Option.some_ne_none _

/-- Every visible byte of the frame is in the buffer that the encoder is given,
at its row and column. -/
def PixelsArrive (g : Biplanar) (lineSize : Fin 2 -> Nat) (frame : AVFrame)
    (codecs : PlaneCodecs) (s : VideoToolboxCodecSession)
    (buffer : PixelBuffer) (payload : Payload) : Prop :=
  exists s' sent,
    s.handleFrameMessage codecs (.ok buffer) payload.bytes =
      .ok (s', some sent) ∧
    forall (i : Fin 2) (row col : Nat), row < g.rows i -> col < g.rowSize i ->
      exists d, sent.imageBuffer.plane i = some d ∧
        d.bytes (row * d.stride + col) =
          (frame.data i).getD (row * lineSize i + col) 0

/-- The buffer had the chroma bytes that are not copied: those of the row that
half an odd height leaves out, and of the column of an odd width. -/
def AlreadyThere (g : Biplanar) (lineSize : Fin 2 -> Nat) (frame : AVFrame)
    (dest : Fin 2 -> DestPlane) : Prop :=
  forall row col, row < g.rows 1 -> col < g.rowSize 1 ->
    g.height / 2 ≤ row ∨ g.width * g.bps ≤ col ->
    (dest 1).bytes (row * (dest 1).stride + col) =
      (frame.data 1).getD (row * lineSize 1 + col) 0

theorem alreadyThere_of_even (hwidth : 2 ∣ g.width) (hheight : 2 ∣ g.height)
    (lineSize : Fin 2 -> Nat) (frame : AVFrame) (dest : Fin 2 -> DestPlane) :
    AlreadyThere g lineSize frame dest := by
  intro row col hrow hcol houtside
  rcases hwidth with ⟨w, hw⟩
  rcases hheight with ⟨h, hh⟩
  unfold Biplanar.rows at hrow
  unfold Biplanar.rowSize at hcol
  rw [if_neg (by decide)] at hrow hcol
  rcases houtside with hbelow | hbehind
  · omega
  · have hround : 2 * ((g.width + 1) / 2) = g.width := by omega
    rw [hround] at hcol
    exact absurd hcol (Nat.not_lt_of_le hbehind)

/-- A frame of the server with the planes that arrived has the visible bytes of
the client's exactly if it had those that are not copied. -/
theorem arrived_iff (hframe : ClientFrame g lineSize frame)
    (hserver : ServerReady g wireCompression dest s config buffer)
    {sent : EncodeFrame}
    (hy : sent.y = some (arrivedPlane g lineSize frame dest 0))
    (huv : sent.uv = some (arrivedPlane g lineSize frame dest 1)) :
    (forall (i : Fin 2) (row col : Nat), row < g.rows i -> col < g.rowSize i ->
      exists d, sent.imageBuffer.plane i = some d ∧
        d.bytes (row * d.stride + col) =
          (frame.data i).getD (row * lineSize i + col) 0) <->
      AlreadyThere g lineSize frame dest := by
  have hplane : forall i : Fin 2, sent.imageBuffer.plane i =
      some (arrivedPlane g lineSize frame dest i).filled := by
    intro i
    match i with
    | 0 => exact congrArg (Option.map PlaneCopy.filled) hy
    | 1 => exact congrArg (Option.map PlaneCopy.filled) huv
  constructor
  · intro h row col hrow hcol houtside
    rcases h 1 row col hrow hcol with ⟨d, hd, hbyte⟩
    rw [hplane] at hd
    cases hd
    have hkept := arrivedPlane_bytes hframe hserver 1 row hcol
    rw [if_neg] at hkept
    · rw [<- hkept]
      exact hbyte
    · intro h
      rcases h with ⟨hinside, hwithin⟩
      rcases houtside with hbelow | hbehind
      · exact Nat.not_lt_of_le hbelow hinside
      · exact Nat.not_lt_of_le hbehind hwithin
  · intro h i row col hrow hcol
    refine ⟨_, hplane i, ?_⟩
    show (arrivedPlane g lineSize frame dest i).filled.bytes
      (row * (dest i).stride + col) = _
    rw [arrivedPlane_bytes hframe hserver i row hcol]
    split
    · rfl
    · rename_i houtside
      match i with
      | 0 => exact absurd ⟨hrow, hcol⟩ houtside
      | 1 =>
          refine h row col hrow hcol ?_
          rcases Nat.lt_or_ge row (g.wireRows 1) with hrow' | hrow'
          · exact .inr (Nat.le_of_not_lt fun hlt => houtside ⟨hrow', hlt⟩)
          · exact .inl hrow'

theorem survives_height (hframe : ClientFrame g lineSize frame)
    (hserver : ServerReady g wireCompression dest s config buffer)
    (hrestores : Restores libs codecs)
    (hwire : wireCompression = 0 ∨ wireCompression = 1 ∨ wireCompression = 2)
    (hcarries : FrameCarries libs wireCompression frame payload)
    (hsurvives : s.handleFrameMessage codecs (.ok buffer) payload.bytes ≠
      .error .trapped) : wireCompression = 0 ∨ 2 ≤ g.height := by
  rcases hcarries.decode hframe hrestores hwire with
    ⟨plane0, plane1, planes, rest, _, h1, hplanes, _, _, huv⟩
  have hsafe := (s.handleFrameMessage_survives_iff codecs _ _).mp hsurvives
    config hserver.configured hserver.mode hserver.session planes rest hplanes
  have hplane := (hsafe.uv buffer rfl _ (hserver.plane 1)).1
  rw [hserver.wireCompression, huv] at hplane
  refine hplane.imp_right fun hdecompress => ?_
  have hpos : 0 < plane1.stride.toNat * plane1.height.toNat := hdecompress.1
  rw [h1.height] at hpos
  have hrows : 0 < g.height / 2 := Nat.pos_of_mul_pos_left hpos
  exact Nat.le_of_not_lt fun hlt => by omega

theorem planes_arrive (hframe : ClientFrame g lineSize frame)
    (hserver : ServerReady g wireCompression dest s config buffer)
    (hrestores : Restores libs codecs)
    (hwire : wireCompression = 0 ∨ wireCompression = 1 ∨ wireCompression = 2)
    (hcarries : FrameCarries libs wireCompression frame payload)
    (hsome : wireCompression = 0 ∨ 2 ≤ g.height) :
    exists s' sent,
      s.handleFrameMessage codecs (.ok buffer) payload.bytes =
        .ok (s', some sent) ∧
      sent.y = some (arrivedPlane g lineSize frame dest 0) ∧
      sent.uv = some (arrivedPlane g lineSize frame dest 1) := by
  rcases hcarries.decode hframe hrestores hwire with
    ⟨plane0, plane1, planes, rest, h0, h1, hplanes, hside, hy, huv⟩
  have hsize : forall i {plane : FramePlane},
      Carried g lineSize frame codecs wireCompression i plane ->
      plane.cut.toWire.toMessage.size ≤ swiftIntMax := by
    intro i plane hcarried
    show plane.stride.toNat * plane.height.toNat ≤ swiftIntMax
    rw [hcarried.stride, hcarried.height]
    exact Nat.le_trans (Nat.le_of_lt (hframe.wireSize_lt i)) (by decide)
  have hrow : config.rowBytes = g.width * g.bps := by
    unfold ClientConfiguration.rowBytes
    rw [hserver.width, hserver.bps]
  have hrowLe : g.width * g.bps ≤ swiftIntMax :=
    Nat.le_trans (Nat.le_trans (g.width_le_rowSize 0) (hframe.row 0))
      (Nat.le_trans (Nat.le_of_lt (hframe.lineSize_lt 0)) (by decide))
  have hrows : 2 ≤ g.height -> 0 < g.wireRows 1 := by
    intro hle
    exact Nat.div_pos hle Nat.two_pos
  have hcopy0 := processPlane_arrived hframe hserver h0 (.inr g.height_pos)
  have hcopy1 := processPlane_arrived hframe hserver h1
    (hsome.imp_right hrows)
  apply VideoToolboxCodecSession.handleFrameMessage_of_planes
    hserver.configured hserver.session hserver.mode hplanes hside
    (hy ▸ hsize 0 h0) (huv ▸ hsize 1 h1) (hrow ▸ hrowLe) hserver.timescale
  · rw [hrow, hserver.wireCompression, hy]
    exact (hserver.plane 0) ▸ hcopy0
  · rw [hrow, hserver.wireCompression, huv]
    exact (hserver.plane 1) ▸ hcopy1

theorem PixelsArrive.alreadyThere (hframe : ClientFrame g lineSize frame)
    (hserver : ServerReady g wireCompression dest s config buffer)
    (hrestores : Restores libs codecs)
    (hwire : wireCompression = 0 ∨ wireCompression = 1 ∨ wireCompression = 2)
    (hcarries : FrameCarries libs wireCompression frame payload)
    (h : PixelsArrive g lineSize frame codecs s buffer payload) :
    (wireCompression = 0 ∨ 2 ≤ g.height) ∧
      AlreadyThere g lineSize frame dest := by
  rcases h with ⟨s', sent, hsent, hbytes⟩
  have hsome := survives_height hframe hserver hrestores hwire hcarries
    (by rw [hsent]; exact fun h => nomatch h)
  rcases planes_arrive hframe hserver hrestores hwire hcarries hsome with
    ⟨s1, sent1, hsent1, hy1, huv1⟩
  rw [hsent] at hsent1
  cases hsent1
  exact ⟨hsome, (arrived_iff hframe hserver hy1 huv1).mp hbytes⟩

/-- The frames whose pixels survive the trip to the encoder. -/
theorem pixels_arrive_iff (hframe : ClientFrame g lineSize frame)
    (hserver : ServerReady g wireCompression dest s config buffer)
    (hrestores : Restores libs codecs)
    (hwire : wireCompression = 0 ∨ wireCompression = 1 ∨ wireCompression = 2)
    (hcarries : FrameCarries libs wireCompression frame payload) :
    PixelsArrive g lineSize frame codecs s buffer payload <->
      (wireCompression = 0 ∨ 2 ≤ g.height) ∧
        AlreadyThere g lineSize frame dest := by
  constructor
  · exact PixelsArrive.alreadyThere hframe hserver hrestores hwire hcarries
  · intro h
    rcases h with ⟨hsome, hthere⟩
    rcases planes_arrive hframe hserver hrestores hwire hcarries hsome with
      ⟨s', sent, hsent, hy, huv⟩
    exact ⟨s', sent, hsent, (arrived_iff hframe hserver hy huv).mpr hthere⟩

end Frame

/-!
## Frames of one and of two rows
-/

private def nv12Frame (more : Fin 2) : AVFrame where
  format := .nv12
  data i := if i = 0 then [1, 2, 3, 4] else [5, 6]
  linesize _ := 2
  width := 2
  height := more.val + 1
  pts := 0
  duration := 1
  pictType := .i
  sideData := []

private def nv12Size (more : Fin 2) : Biplanar where
  width := 2
  height := more.val + 1
  bps := 1
  width_pos := by decide
  height_pos := Nat.le_add_left 1 more.val

private def nv12Config (more : Fin 2) : ClientConfiguration :=
  { mode := .encode, width := 2, height := more.val + 1, pixelFormat := 1
    wireCompression := 0, codec := .h264, timebase := ⟨1, 25⟩ }

private def nv12Dest (more : Fin 2) (i : Fin 2) : DestPlane :=
  { stride := 4, height := (nv12Size more).rows i, bytes := fun _ => 0 }

private def nv12Buffer (more : Fin 2) : PixelBuffer where
  plane n := some (nv12Dest more (Fin.ofNat 2 n))

private def nv12Planes (more : Fin 2) : List FramePlane :=
  [⟨[1, 2, 3, 4], 2, UInt32.ofNat (more.val + 1),
      2 * UInt32.ofNat (more.val + 1)⟩,
    ⟨[5, 6], 2, UInt32.ofNat more.val, 2 * UInt32.ofNat more.val⟩]

private def nv12Payload (more : Fin 2) : Payload :=
  (putFrame (nv12Frame more) (nv12Planes more) (vtremoteWbufInit [])).2.payload

private def copyingCodecs : PlaneCodecs :=
  ⟨some, fun src _ => some src, some, fun src _ => some src⟩

private def copyingLibraries : CompressionLibraries where
  lz4CompressBound srcSize := srcSize.toNat
  lz4CompressDefault src :=
    if src.length ≤ swiftInt32Max then some src else none
  zstdCompressBound srcSize := srcSize.toNat
  zstdCompressCCtx src := some src

private theorem copying_restores : Restores copyingLibraries copyingCodecs where
  lz4 src out h := by
    unfold copyingLibraries at h
    dsimp only at h
    split at h
    · rename_i hle
      cases h
      exact ⟨hle, rfl⟩
    · cases h
  zstd src out hlt h := by
    cases h
    exact ⟨Nat.lt_trans hlt (by decide), rfl⟩

private theorem nv12_client (more : Fin 2) :
    ClientFrame (nv12Size more) (fun _ => 2) (nv12Frame more) where
  format := .inl ⟨rfl, rfl⟩
  width := rfl
  height := rfl
  linesize _ := rfl
  row := by decide +revert
  small := by decide +revert
  data := by decide +revert

private theorem nv12_ready (more : Fin 2) :
    ServerReady (nv12Size more) 0 (nv12Dest more)
      ⟨some (nv12Config more), true, false⟩ (nv12Config more)
      (nv12Buffer more) where
  configured := rfl
  session := rfl
  mode := rfl
  width := rfl
  bps := rfl
  wireCompression := rfl
  timescale := by
    show 25 ≤ swiftInt32Max
    decide
  plane i := by
    match i with
    | 0 => rfl
    | 1 => rfl
  height _ := rfl
  row := by decide +revert
  fits := by decide +revert

private theorem nv12_carries (more : Fin 2) :
    FrameCarries copyingLibraries 0 (nv12Frame more) (nv12Payload more) := by
  match more with
  | 0 => exact ⟨_, _, rfl, rfl, by decide +kernel⟩
  | 1 => exact ⟨_, _, rfl, rfl, by decide +kernel⟩

/-- Two rows of two pixels arrive. -/
theorem pixels_arrive_two_rows :
    PixelsArrive (nv12Size 1) (fun _ => 2) (nv12Frame 1) copyingCodecs
      ⟨some (nv12Config 1), true, false⟩ (nv12Buffer 1) (nv12Payload 1) :=
  (pixels_arrive_iff (nv12_client 1) (nv12_ready 1) copying_restores
    (.inl rfl) (nv12_carries 1)).mpr
    ⟨.inl rfl, alreadyThere_of_even (by decide) (by decide) _ _ _⟩

/-- The chroma row of a frame of one row does not. -/
theorem pixels_of_odd_height_lost :
    ¬ forall (g : Biplanar) (lineSize : Fin 2 -> Nat) (frame : AVFrame)
        (libs : CompressionLibraries) (codecs : PlaneCodecs)
        (wireCompression : Int) (dest : Fin 2 -> DestPlane)
        (s : VideoToolboxCodecSession) (config : ClientConfiguration)
        (buffer : PixelBuffer) (payload : Payload),
      ClientFrame g lineSize frame ->
      ServerReady g wireCompression dest s config buffer ->
      Restores libs codecs ->
      (wireCompression = 0 ∨ wireCompression = 1 ∨ wireCompression = 2) ->
      FrameCarries libs wireCompression frame payload ->
      PixelsArrive g lineSize frame codecs s buffer payload := by
  intro h
  have hframe := nv12_client 0
  have hserver := nv12_ready 0
  have hcarries := nv12_carries 0
  have harrive := h _ _ _ _ _ _ _ _ _ _ _ hframe hserver copying_restores
    (.inl rfl) hcarries
  have hthere := (PixelsArrive.alreadyThere hframe hserver copying_restores
    (.inl rfl) hcarries harrive).2
  have hbyte := hthere 0 0 (by decide) (by decide) (.inl (by decide))
  exact absurd hbyte (by decide)

end VTRemote
