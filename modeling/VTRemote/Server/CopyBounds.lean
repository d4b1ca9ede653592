import VTRemote.Formats.FramePlanes
import VTRemote.Server.PlaneCopies

/-!
# The bounds of the copies

A copy of rows is clamped to the bytes that a row has on both sides, but the
number of rows is the one on the wire.  The copies that `handleFrameMessage`
made read what is there, and stay in the pixel buffer for the frames that have
no more rows than it.
-/

namespace VTRemote

open Grammar

theorem readSideData_eq_ok {r r' : ByteReader} {sideData : List SideDataMessage}
    (h : readSideData r = .ok (sideData, r')) :
    exists entries tail, Frame.decodeSideData r.ahead = some (entries, tail) ∧
      sideData = entries.map SideData.toMessage := by
  cases hd : Frame.decodeSideData r.ahead with
  | none =>
      rcases readSideData_refuses.of_map trivial hd with ⟨e, he⟩
      rw [he] at h
      cases h
  | some result =>
      rcases result with ⟨entries, tail⟩
      rcases readSideData_follows.of_map trivial hd with ⟨r1, hread, _, _⟩
      rw [hread] at h
      cases h
      exact ⟨entries, tail, rfl, rfl⟩

def ClientConfiguration.rowBytes (config : ClientConfiguration) : Nat :=
  config.width * VideoToolboxCodecSession.bytesPerSample config

namespace VideoToolboxCodecSession

/-- A frame that was handed to the encoder received the planes that the
payload holds, and the captions behind them. -/
theorem handleFrameMessage_received {codecs : PlaneCodecs}
    {s s' : VideoToolboxCodecSession} {pool : Except VTRemotedError PixelBuffer}
    {payload : List UInt8} {frame : EncodeFrame}
    (h : s.handleFrameMessage codecs pool payload = .ok (s', some frame)) :
    exists config buffer planes rest,
      s.config = some config ∧ pool = .ok buffer ∧
      framePlanes payload = some (planes, rest) ∧
      PlaneReceived codecs config.wireCompression config.rowBytes (buffer.plane 0)
        planes.y frame.y ∧
      PlaneReceived codecs config.wireCompression config.rowBytes (buffer.plane 1)
        planes.uv frame.uv ∧
      exists entries tail, Frame.decodeSideData rest = some (entries, tail) ∧
        frame.sideData = captions (entries.map SideData.toMessage) := by
  rcases handleFrameMessage_eq_ok h with
    ⟨config, planes, reader, hconfig, hread, hencode⟩
  rcases encodePlanes_eq_ok hencode with ⟨_, _, buffer, rowBytes, _, _, hsizeY,
    hsizeUV, hpool, hrow, hy, huv, hside, hsideData, _, _⟩
  rcases swiftInt_eq_ok_iff.mp hsizeY with ⟨hleY, rfl⟩
  rcases swiftInt_eq_ok_iff.mp hsizeUV with ⟨hleUV, rfl⟩
  rcases swiftInt_eq_ok_iff.mp hrow with ⟨_, rfl⟩
  cases hd : framePlanes payload with
  | none =>
      rcases readFramePlanes_refuses (ByteReader.init payload) trivial hd with
        ⟨e, he⟩
      rw [he] at hread
      cases hread
  | some result =>
      rcases result with ⟨planes', rest⟩
      rcases readFramePlanes_follows (ByteReader.init payload) planes' rest trivial
        hd with ⟨r', hread', _, hrest⟩
      rw [hread'] at hread
      cases hread
      rcases readSideData_eq_ok hside with ⟨entries, tail, hentries, rfl⟩
      rw [hrest] at hentries
      exact ⟨config, buffer, planes, rest, hconfig, hpool, rfl,
        processPlane_eq_ok hleY hy, processPlane_eq_ok hleUV huv,
        entries, tail, hentries, hsideData⟩

end VideoToolboxCodecSession

/-- The copies of a frame write below `planeHeight * destStride` and read
below the end of the bytes that they copy from. -/
def EncodeFrame.CopiesWithin (frame : EncodeFrame) : Prop :=
  forall copy, (frame.y = some copy ∨ frame.uv = some copy) ->
    Copy.Within (copy.dest.height * copy.dest.stride) copy.source.length
      copy.copies

/-- A plane has no more rows than its destination, or no bytes in them. -/
def RowsFit (rowBytes : Nat) (dest : Option DestPlane) (p : PlaneMessage) :
    Prop :=
  forall d, dest = some d ->
    min rowBytes (min p.stride.toNat d.stride) = 0 ∨ p.height.toNat ≤ d.height

theorem PlaneReceived.within_iff {codecs : PlaneCodecs} {wireCompression : Int}
    {rowBytes : Nat} {dest : Option DestPlane} {p : PlaneMessage}
    {copy : Option PlaneCopy}
    (h : PlaneReceived codecs wireCompression rowBytes dest p copy) :
    (forall c, copy = some c ->
      Copy.Within (c.dest.height * c.dest.stride) c.source.length c.copies) <->
      RowsFit rowBytes dest p := by
  rcases h with ⟨rfl, rfl⟩ | ⟨d, source, rfl, hsource, rfl⟩
  · exact iff_of_true (fun _ hc => nomatch hc) fun _ hd => nomatch hd
  · have hwithin : Copy.Within (d.height * d.stride) source.length
        (planeRuns d.stride p.stride.toNat rowBytes p.height.toNat) <-> _ :=
      planeRuns_within_iff (planeSource_length hsource)
    constructor
    · intro hall d' hd
      cases hd
      exact hwithin.mp (hall _ rfl)
    · intro hfit c hc
      cases hc
      exact hwithin.mpr (hfit d rfl)

/-- The frames whose copies stay inside the planes on both sides. -/
theorem handleFrameMessage_copies_within_iff {codecs : PlaneCodecs}
    {s s' : VideoToolboxCodecSession} {config : ClientConfiguration}
    {buffer : PixelBuffer} {payload rest : List UInt8} {planes : FramePlanes}
    {frame : EncodeFrame} (hconfig : s.config = some config)
    (hplanes : framePlanes payload = some (planes, rest))
    (h : s.handleFrameMessage codecs (.ok buffer) payload =
      .ok (s', some frame)) :
    frame.CopiesWithin <->
      RowsFit config.rowBytes (buffer.plane 0) planes.y ∧
      RowsFit config.rowBytes (buffer.plane 1) planes.uv := by
  rcases VideoToolboxCodecSession.handleFrameMessage_received h with
    ⟨config', buffer', planes', rest', hconfig', hbuffer, hplanes', hy, huv, _⟩
  rw [hconfig] at hconfig'
  rw [hplanes] at hplanes'
  cases hconfig'
  cases hbuffer
  cases hplanes'
  rw [<- hy.within_iff, <- huv.within_iff]
  constructor
  · intro hall
    exact ⟨fun c hc => hall c (.inl hc), fun c hc => hall c (.inr hc)⟩
  · intro h c h'
    rcases h with ⟨hall0, hall1⟩
    rcases h' with hc | hc
    · exact hall0 c hc
    · exact hall1 c hc

private def smallFrameBody (lumaRows : UInt8) : List UInt8 :=
  List.replicate 20 0 ++ [2] ++
    [0, 0, 0, 2, 0, 0, 0, lumaRows, 0, 0, 0, 2 * lumaRows] ++
    List.replicate (2 * lumaRows.toNat) 7 ++
    [0, 0, 0, 2, 0, 0, 0, 1, 0, 0, 0, 2, 8, 9]

private def smallConfiguration : ClientConfiguration :=
  { mode := .encode, width := 2, height := 2, pixelFormat := 1
    wireCompression := 0, codec := .h264, timebase := ⟨1, 25⟩ }

private def smallBuffer : PixelBuffer where
  plane
    | 0 => some { stride := 4, height := 2, bytes := fun _ => 0 }
    | _ => some { stride := 4, height := 1, bytes := fun _ => 0 }

private def noCodecs : PlaneCodecs :=
  ⟨fun _ => none, fun _ _ => none, fun _ => none, fun _ _ => none⟩

private def smallEncode (lumaRows : Nat) : EncodeFrame :=
  { y := some
      { dest := { stride := 4, height := 2, bytes := fun _ => 0 }
        source := List.replicate (2 * lumaRows) 7
        copies := (List.range lumaRows).map fun row => ⟨row * 4, row * 2, 2⟩ }
    uv := some
      { dest := { stride := 4, height := 1, bytes := fun _ => 0 }
        source := [8, 9]
        copies := [⟨0, 0, 2⟩] }
    presentationTimeStamp := { value := 0, timescale := 25 }
    forceKey := false
    sideData := [] }

/-- A frame of the configured size. -/
theorem handleFrameMessage_copies_within_small :
    (smallEncode 2).CopiesWithin <->
      RowsFit smallConfiguration.rowBytes (smallBuffer.plane 0)
        ⟨2, 2, [7, 7, 7, 7]⟩ ∧
      RowsFit smallConfiguration.rowBytes (smallBuffer.plane 1)
        ⟨2, 1, [8, 9]⟩ :=
  @handleFrameMessage_copies_within_iff noCodecs
    ⟨some smallConfiguration, true, false⟩
    ⟨some smallConfiguration, true, false⟩ smallConfiguration smallBuffer
    (smallFrameBody 2) [] ⟨0, 0, 0, ⟨2, 2, [7, 7, 7, 7]⟩, ⟨2, 1, [8, 9]⟩⟩
    (smallEncode 2) rfl rfl rfl

/-- One luma row more than the buffer has. -/
theorem handleFrameMessage_writes_outside :
    ¬ forall (codecs : PlaneCodecs) (s s' : VideoToolboxCodecSession)
        (buffer : PixelBuffer) (payload : List UInt8) (frame : EncodeFrame),
      s.handleFrameMessage codecs (.ok buffer) payload =
        .ok (s', some frame) ->
      frame.CopiesWithin := by
  intro h
  have hwithin := h noCodecs ⟨some smallConfiguration, true, false⟩
    ⟨some smallConfiguration, true, false⟩ smallBuffer (smallFrameBody 3)
    (smallEncode 3) rfl
  have hrow := (hwithin _ (.inl rfl) ⟨8, 4, 2⟩ (by decide)).1 8 (by decide)
  exact absurd hrow (by decide)

end VTRemote
