import VTRemote.Client.EncoderSteps
import VTRemote.Formats.FramePlanes

/-!
# The FRAME that the encoder sends

`ff_vtremote_common_send_frame` passes arrays that may be longer than the sizes
it announces.  The payload is the encoding of the bytes within these sizes.
-/

namespace VTRemote

open Grammar

attribute [local irreducible] cInt

/-!
## The bytes within the sizes
-/

def FramePlane.cut (p : FramePlane) : FramePlane :=
  { p with data := p.data.take p.size.toNat }

def VTRemoteSideData.cut (sd : VTRemoteSideData) : VTRemoteSideData :=
  { sd with data := sd.data.take sd.size.toNat }

theorem FramePlane.cut_sized {p : FramePlane}
    (h : p.size.toNat ≤ p.data.length) : p.cut.Sized := by
  show p.size.toNat = (p.data.take p.size.toNat).length
  rw [List.length_take, Nat.min_eq_left h]

theorem VTRemoteSideData.cut_sized {sd : VTRemoteSideData}
    (h : sd.size.toNat ≤ sd.data.length) : sd.cut.Sized := by
  show sd.size.toNat = (sd.data.take sd.size.toNat).length
  rw [List.length_take, Nat.min_eq_left h]

theorem vtremoteWbufPutBytes_take (src : Bytes) (len : UInt32) :
    vtremoteWbufPutBytes (src.take len.toNat) (cInt len.toNat) =
      vtremoteWbufPutBytes src (cInt len.toNat) := by
  have hle : (cInt len.toNat).toNat ≤ len.toNat := by
    have hcint := cInt_uint32 len.toNat_lt
    split at hcint
    · rw [hcint, Int.toNat_natCast]
    · have hlt : cInt len.toNat ≤ 0 := by
        have hsize : len.toNat < 4294967296 := len.toNat_lt
        omega
      rw [Int.toNat_of_nonpos hlt]
      exact Nat.zero_le _
  funext b
  unfold vtremoteWbufPutBytes
  rw [List.take_take, Nat.min_eq_left hle]

theorem putPlanes_cut (planes : List FramePlane) :
    putPlanes (planes.map FramePlane.cut) = putPlanes planes := by
  induction planes with
  | nil => rfl
  | cons p rest ih =>
      have hdata := vtremoteWbufPutBytes_take p.data p.size
      rw [List.map_cons]
      unfold putPlanes
      rw [ih]
      show ((_ : WbufPut).orReturn (vtremoteWbufPutBytes
        (p.data.take p.size.toNat) (cInt p.size.toNat))).orReturn _ = _
      rw [hdata]
      rfl

theorem putSideData_cut (entries : List VTRemoteSideData) (first : WbufPut) :
    putSideData first (entries.map VTRemoteSideData.cut) =
      putSideData first entries := by
  induction entries generalizing first with
  | nil => rfl
  | cons sd rest ih =>
      have hdata := vtremoteWbufPutBytes_take sd.data sd.size
      rw [List.map_cons]
      unfold putSideData
      rw [ih]
      show ((_ : WbufPut).orReturn (vtremoteWbufPutBytes
        (sd.data.take sd.size.toNat) (cInt sd.size.toNat))).orReturn _ = _
      rw [hdata]
      rfl

theorem putSideDataSection_cut (sideData : Option (List VTRemoteSideData))
    (count : UInt8) :
    putSideDataSection (sideData.map (List.map VTRemoteSideData.cut)) count =
      putSideDataSection sideData count := by
  cases sideData with
  | none => rfl
  | some entries =>
      unfold putSideDataSection
      simp only [Option.map_some]
      rw [<- List.map_take, putSideData_cut]

theorem vtremotePayloadFrame_cut (pts duration : Int64) (flags : UInt32)
    (planeCount : UInt8) (planes : List FramePlane)
    (sideData : Option (List VTRemoteSideData)) (sideDataCount : UInt8) :
    vtremotePayloadFrame pts duration flags planeCount
        (planes.map FramePlane.cut)
        (sideData.map (List.map VTRemoteSideData.cut)) sideDataCount =
      vtremotePayloadFrame pts duration flags planeCount planes sideData
        sideDataCount := by
  unfold vtremotePayloadFrame
  rw [putSideDataSection_cut, <- List.map_take, putPlanes_cut]

/-!
## The payload
-/

def sentFrame (frame : AVFrame) (planes : List FramePlane) : Frame :=
  payloadFrame frame.pts frame.duration (if frame.pictType = .i then 1 else 0)
    (planes.map FramePlane.cut)
    ((if 0 < (sendSideData frame).length then some (sendSideData frame)
      else none).map (List.map VTRemoteSideData.cut))

/-- The payload is that of a FRAME for this frame. -/
def FrameCarries (libs : CompressionLibraries) (wireCompression : Int)
    (frame : AVFrame) (payload : Payload) : Prop :=
  exists plane0 plane1,
    sendPlane libs wireCompression frame 0 = .ok plane0 ∧
    sendPlane libs wireCompression frame 1 = .ok plane1 ∧
    payload.bytes = (sentFrame frame [plane0, plane1]).encode

theorem sendSideData_length (frame : AVFrame) :
    (sendSideData frame).length ≤ 16 := by
  unfold sendSideData
  rw [List.length_map]
  exact List.length_take_le 16 _

theorem sendSideData_sized (frame : AVFrame) :
    forall sd, sd ∈ sendSideData frame -> sd.cut.Sized := by
  intro sd hsd
  rcases List.mem_map.mp hsd with ⟨entry, _, rfl⟩
  apply VTRemoteSideData.cut_sized
  show (UInt32.ofNat entry.data.length).toNat ≤ entry.data.length
  rw [UInt32.toNat_ofNat']
  exact Nat.mod_le _ _

theorem sentFrame_arguments {frame : AVFrame} {plane0 plane1 : FramePlane}
    (h0 : plane0.size.toNat ≤ plane0.data.length)
    (h1 : plane1.size.toNat ≤ plane1.data.length) :
    FrameArguments 2 ([plane0, plane1].map FramePlane.cut)
      ((if 0 < (sendSideData frame).length then some (sendSideData frame)
        else none).map (List.map VTRemoteSideData.cut))
      (UInt8.ofNat (sendSideData frame).length) := by
  have hcount : (UInt8.ofNat (sendSideData frame).length).toNat =
      (sendSideData frame).length :=
    UInt8.toNat_ofNat_of_lt'
      (Nat.lt_of_le_of_lt (sendSideData_length frame) (by decide))
  constructor
  · rfl
  · rw [hcount]
    split
    · rw [Option.map_some, Option.getD_some, List.length_map]
    · rename_i hzero
      rw [Nat.le_zero.mp (Nat.le_of_not_lt hzero)]
      rfl
  · intro p hp
    rw [List.map_cons, List.map_cons, List.map_nil] at hp
    rcases List.mem_cons.mp hp with rfl | hp
    · exact FramePlane.cut_sized h0
    · rw [List.mem_singleton.mp hp]
      exact FramePlane.cut_sized h1
  · intro sd hsd
    split at hsd
    · rcases List.mem_map.mp hsd with ⟨entry, hentry, rfl⟩
      exact sendSideData_sized frame entry hentry
    · cases hsd

theorem putFrame_encode {frame : AVFrame} {plane0 plane1 : FramePlane}
    {b : VTRemoteWBuf} (h0 : plane0.size.toNat ≤ plane0.data.length)
    (h1 : plane1.size.toNat ≤ plane1.data.length)
    (h : 0 ≤ (putFrame frame [plane0, plane1] b).1) :
    (putFrame frame [plane0, plane1] b).2.contents =
      (sentFrame frame [plane0, plane1]).encode := by
  have hargs : FrameArguments 2 _ _ (UInt8.ofNat (sendSideData frame).length) :=
    sentFrame_arguments h0 h1
  unfold putFrame at h ⊢
  rw [<- vtremotePayloadFrame_cut] at h ⊢
  refine vtremotePayloadFrame_encode hargs (Int.le_antisymm ?_ h)
  rcases vtremotePayloadFrame_appends hargs frame.pts frame.duration
    (if frame.pictType = .i then 1 else 0) with ⟨put, happends, hframe⟩
  rw [hframe]
  exact happends.nonpos _

theorem sentFrame_fits {frame : AVFrame} {plane0 plane1 : FramePlane}
    (h0 : plane0.size.toNat ≤ plane0.data.length)
    (h1 : plane1.size.toNat ≤ plane1.data.length) :
    (sentFrame frame [plane0, plane1]).Fits :=
  (sentFrame_arguments h0 h1).fits _ _ _

/-!
## The server's decoders on it
-/

theorem framePlanes_encode {f : Frame} {p0 p1 : Plane} (hfits : f.Fits)
    (hplanes : f.planes = [p0, p1]) :
    framePlanes f.encode =
      some ({ ptsTicks := f.pts.toInt64
              durationTicks := f.duration.toInt64
              flags := f.flags
              y := p0.toMessage
              uv := p1.toMessage }, Frame.encodeSideData f.sideData) := by
  have h0 : p0.data.length < 2 ^ 32 := hfits.planeData p0 (by simp [hplanes])
  have h1 : p1.data.length < 2 ^ 32 := hfits.planeData p1 (by simp [hplanes])
  have htwo : Decoder.require ((UInt8.ofNat [p0, p1].length) == 2)
      ((p0.encode ++ (p1.encode ++ Frame.encodeSideData f.sideData))) =
      some ((), _) := rfl
  unfold framePlanes frameHead Frame.encode
  rw [hplanes]
  simp only [bind_assoc, List.append_assoc, List.flatMap_cons,
    List.flatMap_nil, List.nil_append]
  rw [Decoder.bind_of_some _ (Format.u64.decode_encode f.pts _),
    Decoder.bind_of_some _ (Format.u64.decode_encode f.duration _),
    Decoder.bind_of_some _ (Format.u32.decode_encode f.flags _),
    Decoder.bind_of_some _ (Format.u8.decode_encode _ _),
    Decoder.bind_of_some _ htwo, pure_bind,
    Decoder.bind_of_some _ (Plane.decode_encode h0 _),
    Decoder.bind_of_some _ (Plane.decode_encode h1 _)]
  rfl

end VTRemote
