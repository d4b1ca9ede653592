import VTRemote.Client.SendableFrames
import VTRemote.System.FramePixels

/-!
# Closed captions on their way to the encoder

The client sends the side data of type `AV_FRAME_DATA_A53_CC`, which is 1 in the
enumeration, under that type.  The server keeps the entries of type 2.
-/

namespace VTRemote

open Grammar

attribute [local irreducible] cInt

/-- The payloads of the first 16 caption entries of a frame. -/
def AVFrame.captions (frame : AVFrame) : List Bytes :=
  ((frame.sideData.filter fun sd => sd.type = avFrameDataA53Cc).take 16).map
    AVFrameSideData.data

theorem sentFrame_sideData_type {frame : AVFrame} {planes : List FramePlane}
    {sd : SideData} (h : sd ∈ (sentFrame frame planes).sideData) :
    sd.type = UInt32.ofNat avFrameDataA53Cc := by
  unfold sentFrame payloadFrame at h
  rcases List.mem_map.mp h with ⟨sent, hsent, rfl⟩
  split at hsent
  · rcases List.mem_map.mp hsent with ⟨entry, hentry, rfl⟩
    rcases List.mem_map.mp hentry with ⟨sideData, hsideData, rfl⟩
    have htype := (List.mem_filter.mp (List.mem_of_mem_take hsideData)).2
    exact congrArg UInt32.ofNat (of_decide_eq_true htype)
  · cases hsent

theorem captions_sentFrame (frame : AVFrame) (planes : List FramePlane) :
    VideoToolboxCodecSession.captions
      ((sentFrame frame planes).sideData.map SideData.toMessage) = [] := by
  unfold VideoToolboxCodecSession.captions
  rw [List.map_eq_nil_iff, List.filter_eq_nil_iff]
  intro message hmessage hkept
  rcases List.mem_map.mp hmessage with ⟨sd, hsd, rfl⟩
  have htype : sd.type = 2 := of_decide_eq_true hkept
  rw [sentFrame_sideData_type hsd] at htype
  exact absurd htype (by decide)

theorem AVFrame.captions_eq_nil_iff {frame : AVFrame} :
    frame.captions = [] <->
      forall sd, sd ∈ frame.sideData -> sd.type ≠ avFrameDataA53Cc := by
  unfold AVFrame.captions
  rw [List.map_eq_nil_iff, List.take_eq_nil_iff, or_iff_right (by decide)]
  rw [List.filter_eq_nil_iff]
  simp only [decide_eq_true_eq, ne_eq]

section Trip

variable {libs : CompressionLibraries} {wireCompression : Int}
variable {frame : AVFrame} {payload : Payload}

theorem FrameCarries.framePlanes_sideData (hbacked : frame.Backed)
    (hcarries : FrameCarries libs wireCompression frame payload) :
    exists plane0 plane1 planes rest,
      framePlanes payload.bytes = some (planes, rest) ∧
      Frame.decodeSideData rest =
        some ((sentFrame frame [plane0, plane1]).sideData, []) := by
  rcases hcarries with ⟨plane0, plane1, hsend0, hsend1, hbytes⟩
  have hsize0 := sendPlane_size_le hbacked hsend0
  have hsize1 := sendPlane_size_le hbacked hsend1
  have hfits : (sentFrame frame [plane0, plane1]).Fits :=
    sentFrame_fits hsize0 hsize1
  have hdecode := framePlanes_encode hfits rfl
  rw [<- hbytes] at hdecode
  exact ⟨plane0, plane1, _, _, hdecode,
    Frame.decodeSideData_encode hfits.sideData hfits.sideDataData⟩

/-- The context of a frame that reached the encoder holds the captions of the
frame exactly if it has none. -/
theorem captions_arrive_iff {codecs : PlaneCodecs}
    {s s' : VideoToolboxCodecSession} {pool : Except VTRemotedError PixelBuffer}
    {sent : EncodeFrame} (hbacked : frame.Backed)
    (hcarries : FrameCarries libs wireCompression frame payload)
    (hsent : s.handleFrameMessage codecs pool payload.bytes =
      .ok (s', some sent)) :
    sent.sideData = frame.captions <->
      forall sd, sd ∈ frame.sideData -> sd.type ≠ avFrameDataA53Cc := by
  rcases hcarries.framePlanes_sideData hbacked with
    ⟨plane0, plane1, planes, rest, hplanes, hside⟩
  rcases VideoToolboxCodecSession.handleFrameMessage_received hsent with
    ⟨_, _, planes', rest', _, _, hplanes', _, _, entries, tail, hentries, hcaptions⟩
  rw [hplanes] at hplanes'
  cases hplanes'
  rw [hside] at hentries
  cases hentries
  rw [captions_sentFrame] at hcaptions
  rw [hcaptions, eq_comm]
  exact AVFrame.captions_eq_nil_iff

end Trip

/-!
## A frame with captions
-/

private def captionedFrame (captioned : Fin 2) : AVFrame where
  format := .nv12
  data i := if i = 0 then [1, 2, 3, 4] else [5, 6]
  linesize _ := 2
  width := 2
  height := 2
  pts := 0
  duration := 1
  pictType := .i
  sideData := [⟨captioned.val, [0xFC, 0x94, 0x2C]⟩, ⟨2, [9]⟩]

private def captionedPlanes : List FramePlane :=
  [⟨[1, 2, 3, 4], 2, 2, 4⟩, ⟨[5, 6], 2, 1, 2⟩]

private def captionedPayload (captioned : Fin 2) : Payload :=
  (putFrame (captionedFrame captioned) captionedPlanes (vtremoteWbufInit [])).2.payload

private def captionedSession : VideoToolboxCodecSession where
  config := some
    { mode := .encode, width := 2, height := 2, pixelFormat := 1
      wireCompression := 0, codec := .h264, timebase := ⟨1, 25⟩ }
  compressionSession := true

private def captionedBuffer : PixelBuffer where
  plane _ := some { stride := 2, height := 2, bytes := fun _ => 0 }

private def uncompressed : CompressionLibraries where
  lz4CompressBound srcSize := srcSize.toNat
  lz4CompressDefault _ := none
  zstdCompressBound srcSize := srcSize.toNat
  zstdCompressCCtx _ := none

private def uncompressedCodecs : PlaneCodecs :=
  ⟨some, fun _ _ => none, some, fun _ _ => none⟩

private theorem captioned_carries (captioned : Fin 2) :
    FrameCarries uncompressed 0 (captionedFrame captioned)
      (captionedPayload captioned) := by
  match captioned with
  | 0 => exact ⟨_, _, rfl, rfl, by decide +kernel⟩
  | 1 => exact ⟨_, _, rfl, rfl, by decide +kernel⟩

private theorem captioned_encoded (captioned : Fin 2) :
    exists s' sent, captionedSession.handleFrameMessage uncompressedCodecs
        (.ok captionedBuffer) (captionedPayload captioned).bytes =
          .ok (s', some sent) ∧ sent.sideData = [] := by
  have hsideData : (captionedSession.handleFrameMessage uncompressedCodecs
      (.ok captionedBuffer) (captionedPayload captioned).bytes).map
        (fun result => result.2.map EncodeFrame.sideData) = .ok (some []) := by
    match captioned with
    | 0 => decide +kernel
    | 1 => decide +kernel
  cases hresult : captionedSession.handleFrameMessage uncompressedCodecs
      (.ok captionedBuffer) (captionedPayload captioned).bytes with
  | error e =>
      rw [hresult] at hsideData
      cases hsideData
  | ok result =>
      rcases result with ⟨s', sent⟩
      rw [hresult] at hsideData
      cases sent with
      | none => cases hsideData
      | some sent =>
          exact ⟨s', sent, rfl, Option.some.inj (Except.ok.inj hsideData)⟩

/-- The captions of a frame that was encoded are gone. -/
theorem captions_lost :
    FrameCarries uncompressed 0 (captionedFrame 1) (captionedPayload 1) ∧
    exists s' sent, captionedSession.handleFrameMessage uncompressedCodecs
        (.ok captionedBuffer) (captionedPayload 1).bytes = .ok (s', some sent) ∧
      sent.sideData = [] ∧ (captionedFrame 1).captions = [[0xFC, 0x94, 0x2C]] := by
  rcases captioned_encoded 1 with ⟨s', sent, hsent, hnone⟩
  exact ⟨captioned_carries 1, s', sent, hsent, hnone, by decide⟩

/-- A frame without captions. -/
theorem captions_arrive_uncaptioned :
    exists s' sent, captionedSession.handleFrameMessage uncompressedCodecs
        (.ok captionedBuffer) (captionedPayload 0).bytes = .ok (s', some sent) ∧
      sent.sideData = (captionedFrame 0).captions := by
  rcases captioned_encoded 0 with ⟨s', sent, hsent, _⟩
  exact ⟨s', sent, hsent, (captions_arrive_iff (by decide) (captioned_carries 0)
    hsent).mpr (by decide)⟩

end VTRemote
