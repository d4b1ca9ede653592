import VTRemote.Formats.Grammar
import VTRemote.Proto.Payload
import VTRemote.Server.StubCodecSession

/-!
# FRAME in both programs

Frames go from the client's writer to the server's reading sequence, and from
the server's two writers to the client's parser.
-/

namespace VTRemote

open Grammar Format

/-!
## The client's writer
-/

def FramePlane.Sized (p : FramePlane) : Prop := p.size.toNat = p.data.length

def VTRemoteSideData.Sized (sd : VTRemoteSideData) : Prop :=
  sd.size.toNat = sd.data.length

def FramePlane.toWire (p : FramePlane) : Plane :=
  { stride := p.stride, height := p.height, data := p.data }

def VTRemoteSideData.toWire (sd : VTRemoteSideData) : SideData :=
  { type := sd.type, data := sd.data }

theorem ofNat_length_of_toNat {n : UInt32} {data : Bytes}
    (h : n.toNat = data.length) : UInt32.ofNat data.length = n := by
  rw [<- h]
  exact UInt32.ofNat_toNat

theorem length_lt_of_toNat {n : UInt32} {data : Bytes}
    (h : n.toNat = data.length) : data.length < 2 ^ 32 := by
  rw [<- h]
  exact n.toNat_lt

theorem putPlanes_appends (planes : List FramePlane)
    (h : forall p, p ∈ planes -> p.Sized) :
    Appends (putPlanes planes)
      ((planes.map FramePlane.toWire).flatMap Plane.encode) := by
  induction planes with
  | nil => exact Appends.done
  | cons p rest ih =>
      have hp : p.Sized := h p List.mem_cons_self
      have hrest := ih fun q hq => h q (List.mem_cons_of_mem p hq)
      have hput := ((((vtremoteWbufPutU32_appends p.stride).orThen
        (vtremoteWbufPutU32_appends p.height)).orThen
        (vtremoteWbufPutU32_appends p.size)).orReturn
        (Appends.putSized hp)).orReturn hrest
      have hbytes : (p.toWire).encode =
          BigEndian.store32 p.stride ++ BigEndian.store32 p.height ++
            BigEndian.store32 p.size ++ p.data := by
        simp [Plane.encode, blob32, FramePlane.toWire,
          ofNat_length_of_toNat hp]
        rfl
      rw [List.map_cons, List.flatMap_cons, hbytes]
      exact hput

theorem putSideData_appends (entries : List VTRemoteSideData)
    (h : forall sd, sd ∈ entries -> sd.Sized) {first : WbufPut} {bytes : Bytes}
    (hfirst : Appends first bytes) :
    Appends (putSideData first entries)
      (bytes ++
        (entries.map VTRemoteSideData.toWire).flatMap SideData.encode) := by
  induction entries generalizing first bytes with
  | nil => 
      rw [List.map_nil, List.flatMap_nil, List.append_nil]
      exact hfirst
  | cons sd rest ih =>
      have hsd : sd.Sized := h sd List.mem_cons_self
      have hrest := ih (fun x hx => h x (List.mem_cons_of_mem sd hx))
        Appends.done
      have hput := (((hfirst.orThen (vtremoteWbufPutU32_appends sd.type)).orThen
        (vtremoteWbufPutU32_appends sd.size)).orReturn
        (Appends.putSized hsd)).orReturn hrest
      have hbytes : (sd.toWire).encode =
          BigEndian.store32 sd.type ++ BigEndian.store32 sd.size ++
            sd.data := by
        simp [SideData.encode, blob32, VTRemoteSideData.toWire,
          ofNat_length_of_toNat hsd]
        rfl
      rw [List.map_cons, List.flatMap_cons, hbytes]
      simp only [List.append_assoc, List.nil_append] at hput ⊢
      exact hput

def payloadFrame (pts duration : Int64) (flags : UInt32)
    (planes : List FramePlane) (sideData : Option (List VTRemoteSideData)) :
    Frame :=
  { pts := pts.toUInt64
    duration := duration.toUInt64
    flags := flags
    planes := planes.map FramePlane.toWire
    sideData := (sideData.getD []).map VTRemoteSideData.toWire }

/-- The caller's arrays have as many entries as announced. -/
structure FrameArguments (planeCount : UInt8) (planes : List FramePlane)
    (sideData : Option (List VTRemoteSideData)) (sideDataCount : UInt8) :
    Prop where
  planes_length : planes.length = planeCount.toNat
  sideData_length : (sideData.getD []).length = sideDataCount.toNat
  planes_sized : forall p, p ∈ planes -> p.Sized
  sideData_sized : forall sd, sd ∈ sideData.getD [] -> sd.Sized

theorem FrameArguments.fits {planeCount sideDataCount : UInt8}
    {planes : List FramePlane} {sideData : Option (List VTRemoteSideData)}
    (h : FrameArguments planeCount planes sideData sideDataCount)
    (pts duration : Int64) (flags : UInt32) :
    (payloadFrame pts duration flags planes sideData).Fits where
  planes := by
    have hlt := planeCount.toNat_lt
    simpa [payloadFrame, h.planes_length] using hlt
  sideData := by
    have hlt := sideDataCount.toNat_lt
    simpa [payloadFrame, h.sideData_length] using hlt
  planeData := by
    intro p hp
    rcases List.mem_map.mp hp with ⟨q, hq, rfl⟩
    exact length_lt_of_toNat (h.planes_sized q hq)
  sideDataData := by
    intro sd hsd
    rcases List.mem_map.mp hsd with ⟨x, hx, rfl⟩
    exact length_lt_of_toNat (h.sideData_sized x hx)

theorem putSideDataSection_appends
    {sideData : Option (List VTRemoteSideData)} {count : UInt8}
    (hlen : (sideData.getD []).length = count.toNat)
    (hsized : forall sd, sd ∈ sideData.getD [] -> sd.Sized) :
    Appends (putSideDataSection sideData count)
      (Frame.encodeSideData
        ((sideData.getD []).map VTRemoteSideData.toWire)) := by
  cases sideData with
  | none => exact Appends.done
  | some entries =>
      rw [Option.getD_some] at hlen hsized ⊢
      unfold putSideDataSection
      by_cases hzero : count = 0
      · have hnil : entries = [] := by
          apply List.eq_nil_of_length_eq_zero
          rw [hlen, hzero]
          rfl
        simp only [if_pos hzero, hnil]
        exact Appends.done
      · have hne : entries ≠ [] := by
          intro hnil
          apply hzero
          apply UInt8.toNat_inj.mp
          rw [<- hlen, hnil]
          rfl
        have hcount : UInt8.ofNat entries.length = count := by
          rw [hlen]
          exact UInt8.ofNat_toNat
        have hput := putSideData_appends entries hsized
          (vtremoteWbufPutU8_appends count)
        simp only [if_neg hzero]
        rw [<- hlen, List.take_length]
        unfold Frame.encodeSideData
        rw [if_neg (by simpa using hne), List.length_map, hcount]
        exact hput

theorem vtremotePayloadFrame_appends {planeCount sideDataCount : UInt8}
    {planes : List FramePlane} {sideData : Option (List VTRemoteSideData)}
    (hargs : FrameArguments planeCount planes sideData sideDataCount)
    (pts duration : Int64) (flags : UInt32) :
    exists put, Appends put
        (payloadFrame pts duration flags planes sideData).encode ∧
      forall b, vtremotePayloadFrame pts duration flags planeCount planes
        sideData sideDataCount b = put (vtremoteWbufReset b) := by
  have hfixed :=
    (((vtremoteWbufPutU64_appends pts.toUInt64).orThen
      (vtremoteWbufPutU64_appends duration.toUInt64)).orThen
      (vtremoteWbufPutU32_appends flags)).orThen
      (vtremoteWbufPutU8_appends planeCount)
  have hplanes := putPlanes_appends planes hargs.planes_sized
  have htail := putSideDataSection_appends hargs.sideData_length
    hargs.sideData_sized
  have htake : planes.take planeCount.toNat = planes := by
    rw [<- hargs.planes_length, List.take_length]
  have hcount : UInt8.ofNat (planes.map FramePlane.toWire).length =
      planeCount := by
    rw [List.length_map, hargs.planes_length]
    exact UInt8.ofNat_toNat
  have hput := hfixed.orReturn (hplanes.orReturn htail)
  refine ⟨_, ?_, fun b => by rw [vtremotePayloadFrame, htake]⟩
  unfold Frame.encode payloadFrame
  rw [hcount]
  simp only [List.append_assoc] at hput ⊢
  exact hput

theorem vtremotePayloadFrame_encode {pts duration : Int64} {flags : UInt32}
    {planeCount sideDataCount : UInt8} {planes : List FramePlane}
    {sideData : Option (List VTRemoteSideData)} {b : VTRemoteWBuf}
    (hargs : FrameArguments planeCount planes sideData sideDataCount)
    (h : (vtremotePayloadFrame pts duration flags planeCount planes sideData
      sideDataCount b).1 = 0) :
    (vtremotePayloadFrame pts duration flags planeCount planes sideData
      sideDataCount b).2.contents =
      (payloadFrame pts duration flags planes sideData).encode := by
  rcases vtremotePayloadFrame_appends hargs pts duration flags with
    ⟨put, hput, hframe⟩
  rw [hframe] at h ⊢
  exact (hput.contents_of_reset h).2

/-!
## The server's reading sequence
-/

def Grammar.Plane.toMessage (p : Plane) : PlaneMessage :=
  { stride := p.stride, height := p.height, data := p.data }

def Grammar.SideData.toMessage (sd : SideData) : SideDataMessage :=
  { type := sd.type, data := sd.data }

def Grammar.Frame.toMessage (f : Frame) : FrameMessage :=
  { ptsTicks := f.pts.toInt64
    durationTicks := f.duration.toInt64
    flags := f.flags
    planes := f.planes.map Plane.toMessage
    sideData := f.sideData.map SideData.toMessage }

section ServerReads

open ByteReader

theorem readPlane_follows :
    SwiftFollows readPlane (Plane.toMessage <$> Plane.decode) := by
  unfold readPlane Plane.decode
  simp only [map_bind, map_pure, blobDecoder_count32, bind_assoc]
  apply Follows.bind readBEUInt32_follows
  intro stride
  apply Follows.bind readBEUInt32_follows
  intro height
  apply Follows.bind readBEUInt32_follows
  intro len
  unfold sliceRange
  rw [readBytes_natCast]
  apply Follows.bind (consume_follows len.toNat)
  intro data
  exact Follows.pure _

theorem readSideDataEntry_follows :
    SwiftFollows readSideDataEntry
      (SideData.toMessage <$> SideData.decode) := by
  unfold readSideDataEntry SideData.decode
  simp only [map_bind, map_pure, blobDecoder_count32, bind_assoc]
  apply Follows.bind readBEUInt32_follows
  intro type
  apply Follows.bind readBEUInt32_follows
  intro size
  rw [readBytes_natCast]
  apply Follows.bind (consume_follows size.toNat)
  intro data
  exact Follows.pure _

theorem remaining_pos_iff (r : ByteReader) :
    0 < r.remaining <-> r.ahead ≠ [] := by
  rw [<- r.ahead_length, List.length_pos_iff]

theorem readSideData_follows :
    SwiftFollows readSideData
      (List.map SideData.toMessage <$> Frame.decodeSideData) := by
  unfold Frame.decodeSideData
  rw [Decoder.map_ifAny]
  simp only [map_bind]
  apply Follows.ifAny (do
    let sideDataCount ← readUInt8
    readTimes readSideDataEntry sideDataCount.toNat)
  · apply Follows.bind readUInt8_follows
    intro count
    exact Follows.times_map readSideDataEntry_follows count.toNat
  · intro r _ hnil
    exact if_neg (fun h => (remaining_pos_iff r).mp h hnil)
  · intro r _ hne
    exact if_pos ((remaining_pos_iff r).mpr hne)

theorem readFrameMessage_follows :
    SwiftFollows readFrameMessage
      (Frame.toMessage <$> Frame.decode fun count => count == 2) := by
  unfold readFrameMessage Frame.decode
  simp only [map_bind, map_pure]
  apply Follows.bind readBEUInt64_follows
  intro pts
  apply Follows.bind readBEUInt64_follows
  intro duration
  apply Follows.bind readBEUInt32_follows
  intro flags
  apply Follows.bind readUInt8_follows
  intro count
  apply Follows.require_bind
  intro hcount
  have htwo : count.toNat = 2 := by
    rw [eq_of_beq hcount]
    rfl
  -- the loop over two planes is written out in the source
  rw [htwo]
  simp only [Decoder.times, bind_assoc, pure_bind]
  apply Follows.bind_map readPlane_follows
  intro plane0
  apply Follows.bind_map readPlane_follows
  intro plane1
  apply Follows.bind_map readSideData_follows
  intro sideData
  exact Follows.pure _

end ServerReads

/-!
## The client's parser
-/

def Grammar.Plane.toView (p : Plane) : VTRemotePlaneView :=
  { stride := p.stride
    height := p.height
    dataLen := UInt32.ofNat p.data.length
    data := p.data }

def Grammar.SideData.toView (sd : SideData) : VTRemoteSideData :=
  { type := sd.type, size := UInt32.ofNat sd.data.length, data := sd.data }

def Grammar.Frame.toView (f : Frame) : VTRemoteFrameView :=
  { pts := f.pts.toInt64
    duration := f.duration.toInt64
    flags := f.flags
    planeCount := UInt8.ofNat f.planes.length
    planes := f.planes.map Plane.toView
    sideDataCount := UInt8.ofNat (min f.sideData.length 8)
    sideData := (f.sideData.map SideData.toView).take 8 }

theorem rbufSized_follows :
    RbufFollows (do
      let len ← vtremoteRbufReadU32
      let data ← rbufSection len
      pure (len, data))
      ((fun data => (UInt32.ofNat data.length, data)) <$>
        blobDecoder count32) := by
  intro r a rest hok hd
  have hbind : (blobDecoder count32 >>= fun data =>
      pure (UInt32.ofNat data.length, data)) r.ahead = some (a, rest) := hd
  rcases Decoder.bind_eq_some.mp hbind with ⟨data, mid, hblob, hpure⟩
  cases hpure
  rcases blobDecoder_eq_some hblob with ⟨hlen, hahead⟩
  have hahead : r.ahead =
      u32.encode (UInt32.ofNat data.length) ++ (data ++ rest) := by
    rw [hahead, List.append_assoc]
    rfl
  have hcount : (UInt32.ofNat data.length).toNat = data.length :=
    UInt32.toNat_ofNat_of_lt' hlen
  rcases vtremoteRbufReadU32_follows.read_encode hok hahead
    with ⟨r1, hread1, h1, hahead1⟩
  have htake := Decoder.take_append rest hcount.symm
  rw [<- hahead1] at htake
  rcases rbufSection_follows _ r1 data rest h1 htake
    with ⟨r2, hread2, h2, hahead2⟩
  refine ⟨r2, ?_, h2, hahead2⟩
  rw [bind_of_ok hread1, bind_of_ok hread2]
  rfl

theorem planeView_follows :
    RbufFollows planeView (Plane.toView <$> Plane.decode) := by
  have hread : planeView = (do
      let stride ← vtremoteRbufReadU32
      let height ← vtremoteRbufReadU32
      let sized ← (do
        let len ← vtremoteRbufReadU32
        let data ← rbufSection len
        pure (len, data))
      pure ⟨stride, height, sized.1, sized.2⟩) := by
    simp only [planeView, bind_assoc, pure_bind]
  rw [hread]
  unfold Plane.decode
  simp only [map_bind, map_pure]
  apply Follows.bind vtremoteRbufReadU32_follows
  intro stride
  apply Follows.bind vtremoteRbufReadU32_follows
  intro height
  apply Follows.bind_map rbufSized_follows
  intro data
  exact Follows.pure _

theorem sideDataView_follows :
    RbufFollows sideDataView (SideData.toView <$> SideData.decode) := by
  have hread : sideDataView = (do
      let type ← vtremoteRbufReadU32
      let sized ← (do
        let len ← vtremoteRbufReadU32
        let data ← rbufSection len
        pure (len, data))
      pure ⟨type, sized.1, sized.2⟩) := by
    simp only [sideDataView, bind_assoc, pure_bind]
  rw [hread]
  unfold SideData.decode
  simp only [map_bind, map_pure]
  apply Follows.bind vtremoteRbufReadU32_follows
  intro type
  apply Follows.bind_map rbufSized_follows
  intro data
  exact Follows.pure _

theorem VTRemoteRBuf.WellFormed.pos_lt_iff {r : VTRemoteRBuf}
    (h : r.WellFormed) : r.pos < r.size <-> r.ahead ≠ [] := by
  have hlen := h.ahead_length
  rw [<- List.length_pos_iff]
  omega

theorem sideDataSection_follows :
    RbufFollows sideDataSection
      (List.map SideData.toView <$> Frame.decodeSideData) := by
  unfold Frame.decodeSideData
  rw [Decoder.map_ifAny]
  simp only [map_bind]
  apply Follows.ifAny (do
    let sdCount ← vtremoteRbufReadU8
    readTimes sideDataView sdCount.toNat)
  · apply Follows.bind vtremoteRbufReadU8_follows
    intro count
    exact Follows.times_map sideDataView_follows count.toNat
  · intro r hr hnil
    exact if_neg (fun h => hr.pos_lt_iff.mp h hnil)
  · intro r hr hne
    exact if_pos (hr.pos_lt_iff.mpr hne)

theorem frameView_follows :
    RbufFollows frameView
      (Frame.toView <$> Frame.decode fun count => count ≤ 4) := by
  unfold frameView Frame.decode
  simp only [map_bind, map_pure]
  apply Follows.bind vtremoteRbufReadU64_follows
  intro pts
  apply Follows.bind vtremoteRbufReadU64_follows
  intro duration
  apply Follows.bind vtremoteRbufReadU32_follows
  intro flags
  apply Follows.bind vtremoteRbufReadU8_follows
  intro count
  apply Follows.require_bind
  intro _
  apply Follows.bind_map_of (Follows.times_map planeView_follows count.toNat)
  intro planes bytes mid hplanes
  have hcount : UInt8.ofNat planes.length = count := by
    rw [Decoder.times_length hplanes]
    exact UInt8.ofNat_toNat
  apply Follows.bind_map sideDataSection_follows
  intro sideData
  unfold Frame.toView
  simp only [hcount, List.length_map]
  exact Follows.pure _

theorem vtremoteParseFrame_encode {f : Frame} (hfits : f.Fits)
    (hplanes : f.planes.length ≤ 4) (hmax : (f.encode.length : Int) ≤ intMax) :
    vtremoteParseFrame f.encode f.encode.length = .ok f.toView := by
  have haccept : decide (UInt8.ofNat f.planes.length ≤ 4) = true := by
    apply decide_eq_true
    apply UInt8.le_iff_toNat_le.mpr
    rw [UInt8.toNat_ofNat_of_lt' hfits.planes]
    exact hplanes
  have hd := Frame.decode_encode hfits (fun count => count ≤ 4) haccept
  have hlong : 21 ≤ f.encode.length := by
    unfold Frame.encode
    simp [u64, u32, u8]
    omega
  rcases frameView_follows.of_map (VTRemoteRBuf.wellFormed_init hmax) hd
    with ⟨r, hview, _, _⟩
  unfold vtremoteParseFrame
  rw [if_neg (by omega), hview]
  rfl

/-!
## The server's writers
-/

theorem planeParts_encode {codecs : PlaneCodecs} {wireCompression : Int}
    {plane : PixelBufferPlane} {part data : List UInt8}
    (h : planeParts codecs wireCompression plane = .ok (some (part, data))) :
    codecs.compress wireCompression plane.raw = some data ∧
      data.length < 2 ^ 32 ∧
      part ++ data = Plane.encode
        { stride := UInt32.ofNat plane.stride
          height := UInt32.ofNat plane.height
          data := data } := by
  unfold planeParts at h
  rcases swift_bind_eq_ok h with ⟨_, _, h⟩
  rcases swift_bind_eq_ok h with ⟨stride, hstride, h⟩
  rcases swift_bind_eq_ok h with ⟨height, hheight, h⟩
  rcases swift_bind_eq_ok h with ⟨_, _, h⟩
  cases hcomp : codecs.compress wireCompression plane.raw with
  | none =>
      rw [hcomp] at h
      cases h
  | some compressed =>
      rw [hcomp] at h
      rcases swift_bind_eq_ok h with ⟨count, hcount, h⟩
      cases h
      rcases swiftUInt32_eq_ok hcount with ⟨hlen, hcount⟩
      refine ⟨rfl, hlen, ?_⟩
      rw [(swiftUInt32_eq_ok hstride).2, (swiftUInt32_eq_ok hheight).2, hcount]
      simp [ByteWriter.writeBE32, ByteWriter.write, Plane.encode, blob32]
      rfl

/-- A frame without side data, as the server sends it. -/
def serverFrame (pts duration : UInt64) (plane0 plane1 : Plane) : Frame :=
  { pts := pts
    duration := duration
    flags := 0
    planes := [plane0, plane1]
    sideData := [] }

theorem serverFrame_fits {pts duration : UInt64} {plane0 plane1 : Plane}
    (h0 : plane0.data.length < 2 ^ 32) (h1 : plane1.data.length < 2 ^ 32) :
    (serverFrame pts duration plane0 plane1).Fits where
  planes := by
    show 2 < 2 ^ 8
    decide
  sideData := Nat.two_pow_pos 8
  planeData := by
    intro p hp
    rcases List.mem_cons.mp hp with rfl | hp
    · exact h0
    · rw [List.mem_singleton.mp hp]
      exact h1
  sideDataData := by
    intro sd hsd
    cases hsd

theorem decodedFrameParts_encode {codecs : PlaneCodecs}
    {wireCompression : Int} {ptsTicks durTicks : Int64}
    {plane0 plane1 : PixelBufferPlane} {parts : List (List UInt8)}
    (h : decodedFrameParts codecs wireCompression ptsTicks durTicks plane0
      plane1 = .ok (some parts)) :
    exists data0 data1,
      codecs.compress wireCompression plane0.raw = some data0 ∧
      codecs.compress wireCompression plane1.raw = some data1 ∧
      data0.length < 2 ^ 32 ∧ data1.length < 2 ^ 32 ∧
      parts.flatten = (serverFrame ptsTicks.toUInt64 durTicks.toUInt64
        ⟨UInt32.ofNat plane0.stride, UInt32.ofNat plane0.height, data0⟩
        ⟨UInt32.ofNat plane1.stride, UInt32.ofNat plane1.height,
          data1⟩).encode := by
  unfold decodedFrameParts at h
  rcases swift_bind_eq_ok h with ⟨res0, hres0, h⟩
  rcases swift_bind_eq_ok h with ⟨res1, hres1, h⟩
  match res0, res1, hres0, hres1, h with
  | some (meta0, data0), some (meta1, data1), hres0, hres1, h =>
      cases h
      rcases planeParts_encode hres0 with ⟨hcomp0, hlen0, hpart0⟩
      rcases planeParts_encode hres1 with ⟨hcomp1, hlen1, hpart1⟩
      refine ⟨data0, data1, hcomp0, hcomp1, hlen0, hlen1, ?_⟩
      unfold serverFrame Frame.encode
      simp only [List.flatMap_cons, List.flatMap_nil, <- hpart0, <- hpart1]
      simp [ByteWriter.writeBE64, ByteWriter.writeBE32, ByteWriter.writeUInt8,
        ByteWriter.write, Frame.encodeSideData]
      rfl
  | none, _, _, _, h => cases h
  | some _, none, _, _, h => cases h

theorem writePlane_encode {w w' : ByteWriter} {stride height : Nat}
    {data : List UInt8}
    (h : StubCodecSession.writePlane w stride height data = .ok w') :
    data.length < 2 ^ 32 ∧
      w'.data = w.data ++ Plane.encode
        ⟨UInt32.ofNat stride, UInt32.ofNat height, data⟩ := by
  unfold StubCodecSession.writePlane at h
  rcases swift_bind_eq_ok h with ⟨stride', hstride, h⟩
  rcases swift_bind_eq_ok h with ⟨height', hheight, h⟩
  rcases swift_bind_eq_ok h with ⟨count, hcount, h⟩
  cases h
  rcases swiftUInt32_eq_ok hcount with ⟨hlen, hcount⟩
  refine ⟨hlen, ?_⟩
  rw [(swiftUInt32_eq_ok hstride).2, (swiftUInt32_eq_ok hheight).2, hcount]
  simp [ByteWriter.writeBE32, ByteWriter.write, Plane.encode, blob32]
  rfl

def stubStride (configuration : SessionConfiguration) : Nat :=
  configuration.width * if configuration.pixelFormat = 2 then 2 else 1

theorem frameBody_encode {codecs : PlaneCodecs}
    {configuration : SessionConfiguration} {pts dur : UInt64}
    {body : List UInt8}
    (h : StubCodecSession.frameBody codecs configuration pts dur =
      .ok body) :
    exists y uv,
      StubCodecSession.maybeCompress codecs configuration.wireCompression
        (List.replicate (stubStride configuration * configuration.height) 0) =
          .ok y ∧
      StubCodecSession.maybeCompress codecs configuration.wireCompression
        (List.replicate
          (stubStride configuration * (configuration.height / 2)) 0) =
          .ok uv ∧
      y.length < 2 ^ 32 ∧ uv.length < 2 ^ 32 ∧
      body = (serverFrame pts dur
        ⟨UInt32.ofNat (stubStride configuration),
          UInt32.ofNat configuration.height, y⟩
        ⟨UInt32.ofNat (stubStride configuration),
          UInt32.ofNat (configuration.height / 2), uv⟩).encode := by
  unfold StubCodecSession.frameBody at h
  rcases swift_bind_eq_ok h with ⟨yStride, hyStride, h⟩
  rcases swift_bind_eq_ok h with ⟨uvStride, huvStride, h⟩
  rcases swift_bind_eq_ok h with ⟨yBytes, hyBytes, h⟩
  rcases swift_bind_eq_ok h with ⟨uvBytes, huvBytes, h⟩
  rcases swift_bind_eq_ok h with ⟨y, hy, h⟩
  rcases swift_bind_eq_ok h with ⟨uv, huv, h⟩
  rcases swift_bind_eq_ok h with ⟨w1, hw1, h⟩
  rcases swift_bind_eq_ok h with ⟨w2, hw2, h⟩
  cases h
  rw [(swiftInt_eq_ok_iff.mp hyBytes).2,
    (swiftInt_eq_ok_iff.mp hyStride).2] at hy
  rw [(swiftInt_eq_ok_iff.mp huvBytes).2,
    (swiftInt_eq_ok_iff.mp huvStride).2] at huv
  rcases writePlane_encode hw1 with ⟨hylen, hw1⟩
  rcases writePlane_encode hw2 with ⟨huvlen, hw2⟩
  rw [(swiftInt_eq_ok_iff.mp hyStride).2] at hw1
  rw [(swiftInt_eq_ok_iff.mp huvStride).2] at hw2
  refine ⟨y, uv, hy, huv, hylen, huvlen, ?_⟩
  rw [hw2, hw1]
  simp [serverFrame, Frame.encode, Frame.encodeSideData, stubStride,
    ByteWriter.writeBE64, ByteWriter.writeBE32, ByteWriter.writeUInt8,
    ByteWriter.write]
  rfl

theorem handlePacketMessage_eq_ok {codecs : PlaneCodecs}
    {s s' : StubCodecSession} {payload body : List UInt8}
    (h : s.handlePacketMessage codecs payload = .ok (s', some body)) :
    exists configuration pts dur r,
      s.config = some configuration ∧
      StubCodecSession.readStubPacket (ByteReader.init payload) =
        .ok ((pts, dur), r) ∧
      StubCodecSession.frameBody codecs configuration pts dur = .ok body := by
  unfold StubCodecSession.handlePacketMessage at h
  cases hconfig : s.config with
  | none =>
      rw [hconfig] at h
      cases h
  | some configuration =>
      rw [hconfig] at h
      simp only at h
      split at h
      · cases h
      · rcases swift_bind_eq_ok h with ⟨⟨⟨pts, dur⟩, r⟩, hread, h⟩
        rcases swift_bind_eq_ok h with ⟨body', hbody, h⟩
        cases h
        exact ⟨configuration, pts, dur, r, rfl, hread, hbody⟩

theorem serverFrame_toView (pts duration : UInt64) (plane0 plane1 : Plane) :
    (serverFrame pts duration plane0 plane1).toView =
      { pts := pts.toInt64
        duration := duration.toInt64
        flags := 0
        planeCount := 2
        planes := [plane0.toView, plane1.toView]
        sideDataCount := 0
        sideData := [] } := rfl

theorem vtremoteParseFrame_serverFrame {pts duration : UInt64}
    {plane0 plane1 : Plane} (h0 : plane0.data.length < 2 ^ 32)
    (h1 : plane1.data.length < 2 ^ 32) {payload : Bytes}
    (hpayload : payload = (serverFrame pts duration plane0 plane1).encode)
    (hmax : (payload.length : Int) ≤ intMax) :
    vtremoteParseFrame payload payload.length = .ok
      { pts := pts.toInt64
        duration := duration.toInt64
        flags := 0
        planeCount := 2
        planes := [plane0.toView, plane1.toView]
        sideDataCount := 0
        sideData := [] } := by
  rw [hpayload] at hmax ⊢
  have htwo : (serverFrame pts duration plane0 plane1).planes.length ≤ 4 := by
    show 2 ≤ 4
    decide
  rw [vtremoteParseFrame_encode (serverFrame_fits h0 h1) htwo hmax,
    serverFrame_toView]

/-!
## Frames that the server can send
-/

/-- The plane is sent as these bytes: none of its numbers is cut off, and it can be
compressed. -/
structure PixelBufferPlane.Sendable (codecs : PlaneCodecs) (wireCompression : Int)
    (plane : PixelBufferPlane) (data : Bytes) : Prop where
  size : plane.stride * plane.height ≤ 9223372036854775807
  stride : plane.stride ≤ swiftUInt32Max
  height : plane.height ≤ swiftUInt32Max
  narrowed : wireCompression = 1 -> plane.raw.length ≤ 2147483647
  compressed : codecs.compress wireCompression plane.raw = some data
  length : data.length ≤ swiftUInt32Max

theorem planeParts_of_sendable {codecs : PlaneCodecs} {wireCompression : Int}
    {plane : PixelBufferPlane} {data : Bytes}
    (h : plane.Sendable codecs wireCompression data) :
    exists part, planeParts codecs wireCompression plane = .ok (some (part, data)) := by
  have hnarrow : exists count,
      PlaneCodecs.narrowCount wireCompression plane.raw = .ok count := by
    unfold PlaneCodecs.narrowCount
    split
    · rename_i hlz4
      exact ⟨_, swiftInt32_of_le (h.narrowed hlz4)⟩
    · exact ⟨_, rfl⟩
  rcases hnarrow with ⟨count, hcount⟩
  unfold planeParts
  rw [swiftInt_of_le h.size, swiftUInt32_of_le h.stride, swiftUInt32_of_le h.height,
    hcount, h.compressed]
  dsimp only [Bind.bind, Except.bind]
  rw [swiftUInt32_of_le h.length]
  exact ⟨_, rfl⟩

theorem decodedFrameParts_of_sendable {codecs : PlaneCodecs} {wireCompression : Int}
    {plane0 plane1 : PixelBufferPlane} {data0 data1 : Bytes}
    (h0 : plane0.Sendable codecs wireCompression data0)
    (h1 : plane1.Sendable codecs wireCompression data1) (pts duration : Int64) :
    exists parts, decodedFrameParts codecs wireCompression pts duration plane0 plane1 =
      .ok (some parts) := by
  rcases planeParts_of_sendable h0 with ⟨part0, hpart0⟩
  rcases planeParts_of_sendable h1 with ⟨part1, hpart1⟩
  unfold decodedFrameParts
  rw [hpart0, hpart1]
  exact ⟨_, rfl⟩

structure SessionConfiguration.Sendable (codecs : PlaneCodecs)
    (configuration : SessionConfiguration) (y uv : Bytes) : Prop where
  stride : stubStride configuration ≤ swiftUInt32Max
  height : configuration.height ≤ swiftUInt32Max
  size : stubStride configuration * configuration.height ≤ 9223372036854775807
  luma : StubCodecSession.maybeCompress codecs configuration.wireCompression
    (List.replicate (stubStride configuration * configuration.height) 0) = .ok y
  chroma : StubCodecSession.maybeCompress codecs configuration.wireCompression
    (List.replicate (stubStride configuration * (configuration.height / 2)) 0) = .ok uv
  lengths : y.length ≤ swiftUInt32Max ∧ uv.length ≤ swiftUInt32Max

theorem frameBody_of_sendable {codecs : PlaneCodecs}
    {configuration : SessionConfiguration} {y uv : Bytes}
    (h : configuration.Sendable codecs y uv) (pts duration : UInt64) :
    exists body,
      StubCodecSession.frameBody codecs configuration pts duration = .ok body := by
  have hhalf : configuration.height / 2 ≤ configuration.height := Nat.div_le_self _ 2
  have hrow : swiftInt (configuration.width *
      if configuration.pixelFormat = 2 then 2 else 1) =
        .ok (stubStride configuration) :=
    swiftInt_of_le (Nat.le_trans h.stride (by decide))
  have hfull := swiftInt_of_le h.size
  have hpart := swiftInt_of_le
    (Nat.le_trans (Nat.mul_le_mul_left (stubStride configuration) hhalf) h.size)
  unfold StubCodecSession.frameBody
  dsimp only
  rw [hrow]
  dsimp only [Bind.bind, Except.bind]
  rw [hfull]
  dsimp only
  rw [hpart]
  dsimp only
  rw [h.luma]
  dsimp only
  rw [h.chroma]
  dsimp only
  rcases StubCodecSession.writePlane_of_le ((((((ByteWriter.mk []).writeBE64
    pts).writeBE64 duration).writeBE32 0)).writeUInt8 2) h.stride h.height h.lengths.1
    with ⟨w1, hw1⟩
  rcases StubCodecSession.writePlane_of_le w1 h.stride (Nat.le_trans hhalf h.height)
    h.lengths.2 with ⟨w2, hw2⟩
  rw [hw1]
  dsimp only
  rw [hw2]
  exact ⟨w2.data, rfl⟩

/-- The stub session answers every PACKET that it reads. -/
theorem handlePacketMessage_of_sendable {codecs : PlaneCodecs} {s : StubCodecSession}
    {configuration : SessionConfiguration} {y uv payload : Bytes}
    (hconfig : s.config = some configuration) (hmode : configuration.mode = .decode)
    (h : configuration.Sendable codecs y uv) {pts duration : UInt64} {r : ByteReader}
    (hread : StubCodecSession.readStubPacket (ByteReader.init payload) =
      .ok ((pts, duration), r)) :
    exists body, StubCodecSession.frameBody codecs configuration pts duration =
        .ok body ∧
      s.handlePacketMessage codecs payload = .ok (s, some body) := by
  rcases frameBody_of_sendable h pts duration with ⟨body, hbody⟩
  refine ⟨body, hbody, ?_⟩
  unfold StubCodecSession.handlePacketMessage
  rw [hconfig]
  dsimp only
  rw [if_neg (fun hne => hne hmode), hread]
  dsimp only [Bind.bind, Except.bind]
  rw [hbody]
  rfl

/-!
## Agreement in both directions
-/

/-- The server reads back every value and byte of a frame that the client
wrote and nothing is left; the client reads back every value and byte of a
frame that either session of the server sent. -/
theorem frame_formats_agree :
    (forall (pts duration : Int64) (flags : UInt32) (plane0 plane1 : FramePlane)
        (sideData : Option (List VTRemoteSideData)) (sideDataCount : UInt8)
        (b : VTRemoteWBuf),
      FrameArguments 2 [plane0, plane1] sideData sideDataCount ->
      (vtremotePayloadFrame pts duration flags 2 [plane0, plane1] sideData
        sideDataCount b).1 = 0 ->
      exists r, readFrameMessage (ByteReader.init
          (vtremotePayloadFrame pts duration flags 2 [plane0, plane1] sideData
            sideDataCount b).2.contents) =
        .ok ({ ptsTicks := pts
               durationTicks := duration
               flags := flags
               planes := [⟨plane0.stride, plane0.height, plane0.data⟩,
                 ⟨plane1.stride, plane1.height, plane1.data⟩]
               sideData := (sideData.getD []).map fun sd =>
                 ⟨sd.type, sd.data⟩ }, r) ∧
        r.remaining = 0) ∧
    (forall (codecs : PlaneCodecs) (wireCompression : Int)
        (pts duration : Int64) (plane0 plane1 : PixelBufferPlane)
        (parts : List Bytes),
      decodedFrameParts codecs wireCompression pts duration plane0 plane1 =
        .ok (some parts) ->
      (parts.flatten.length : Int) ≤ intMax ->
      exists data0 data1,
        codecs.compress wireCompression plane0.raw = some data0 ∧
        codecs.compress wireCompression plane1.raw = some data1 ∧
        vtremoteParseFrame parts.flatten parts.flatten.length = .ok
          { pts := pts
            duration := duration
            flags := 0
            planeCount := 2
            planes :=
              [⟨UInt32.ofNat plane0.stride, UInt32.ofNat plane0.height,
                UInt32.ofNat data0.length, data0⟩,
                ⟨UInt32.ofNat plane1.stride, UInt32.ofNat plane1.height,
                UInt32.ofNat data1.length, data1⟩]
            sideDataCount := 0
            sideData := [] }) ∧
    (forall (codecs : PlaneCodecs) (s s' : StubCodecSession)
        (payload body : Bytes),
      s.handlePacketMessage codecs payload = .ok (s', some body) ->
      (body.length : Int) ≤ intMax ->
      exists configuration pts duration r y uv,
        s.config = some configuration ∧
        StubCodecSession.readStubPacket (ByteReader.init payload) =
          .ok ((pts, duration), r) ∧
        StubCodecSession.maybeCompress codecs configuration.wireCompression
          (List.replicate (stubStride configuration * configuration.height)
            0) = .ok y ∧
        StubCodecSession.maybeCompress codecs configuration.wireCompression
          (List.replicate
            (stubStride configuration * (configuration.height / 2)) 0) =
            .ok uv ∧
        vtremoteParseFrame body body.length = .ok
          { pts := pts.toInt64
            duration := duration.toInt64
            flags := 0
            planeCount := 2
            planes :=
              [⟨UInt32.ofNat (stubStride configuration),
                UInt32.ofNat configuration.height, UInt32.ofNat y.length, y⟩,
                ⟨UInt32.ofNat (stubStride configuration),
                UInt32.ofNat (configuration.height / 2),
                UInt32.ofNat uv.length, uv⟩]
            sideDataCount := 0
            sideData := [] }) := by
  refine ⟨?_, ?_, ?_⟩
  · intro pts duration flags plane0 plane1 sideData sideDataCount b hargs h
    have hfits := hargs.fits pts duration flags
    have hd := Frame.decode_encode hfits (fun count => count == 2) rfl
    rw [<- vtremotePayloadFrame_encode hargs h] at hd
    rcases SwiftFollows.read_init readFrameMessage_follows hd
      with ⟨r, hread, hrest⟩
    refine ⟨r, ?_, ?_⟩
    · rw [hread]
      simp [payloadFrame, Frame.toMessage, FramePlane.toWire,
        Plane.toMessage, Function.comp_def, VTRemoteSideData.toWire,
        SideData.toMessage]
    · rw [<- r.ahead_length, hrest]
      rfl
  · intro codecs wireCompression pts duration plane0 plane1 parts h hmax
    rcases decodedFrameParts_encode h with
      ⟨data0, data1, hcomp0, hcomp1, hlen0, hlen1, hparts⟩
    refine ⟨data0, data1, hcomp0, hcomp1, ?_⟩
    rw [vtremoteParseFrame_serverFrame hlen0 hlen1 hparts hmax]
    simp [Plane.toView]
  · intro codecs s s' payload body h hmax
    rcases handlePacketMessage_eq_ok h with
      ⟨configuration, pts, duration, r, hconfig, hread, hbody⟩
    rcases frameBody_encode hbody with ⟨y, uv, hy, huv, hylen, huvlen, heq⟩
    refine ⟨configuration, pts, duration, r, y, uv, hconfig, hread, hy, huv,
      ?_⟩
    rw [vtremoteParseFrame_serverFrame hylen huvlen heq hmax]
    rfl

def tinyCodecs : PlaneCodecs where
  lz4Compress := some
  lz4DecompressSafe data _ := some data
  zstdCompress := some
  zstdDecompressRaw data _ := some data

def tinyStub : StubCodecSession where
  config := some
    { mode := .decode, width := 2, height := 2, pixelFormat := 1, wireCompression := 0 }

/-- A frame of two tiny planes with one side data entry from the client, one without
side data from the decoder, and a black one from the stub. -/
theorem frame_formats_agree_tiny :
    (exists r, readFrameMessage (ByteReader.init
        (vtremotePayloadFrame 40 20 1 2 [⟨[1, 2], 2, 1, 2⟩, ⟨[3], 1, 1, 1⟩]
          (some [⟨1, 2, [8, 9]⟩]) 1 (vtremoteWbufInit [])).2.contents) =
      .ok (⟨40, 20, 1, [⟨2, 1, [1, 2]⟩, ⟨1, 1, [3]⟩], [⟨1, [8, 9]⟩]⟩, r) ∧
      r.remaining = 0) ∧
    (exists parts, decodedFrameParts tinyCodecs 0 40 20 ⟨2, 1, [1, 2], rfl⟩
        ⟨1, 1, [3], rfl⟩ = .ok (some parts) ∧
      vtremoteParseFrame parts.flatten parts.flatten.length =
        .ok ⟨40, 20, 0, 2, [⟨2, 1, 2, [1, 2]⟩, ⟨1, 1, 1, [3]⟩], 0, []⟩) ∧
    (exists body, tinyStub.handlePacketMessage tinyCodecs (List.replicate 32 0) =
        .ok (tinyStub, some body) ∧
      vtremoteParseFrame body body.length =
        .ok ⟨0, 0, 0, 2, [⟨2, 2, 4, [0, 0, 0, 0]⟩, ⟨2, 1, 2, [0, 0]⟩], 0, []⟩) := by
  refine ⟨?_, ?_, ?_⟩
  · apply frame_formats_agree.1 40 20 1 ⟨[1, 2], 2, 1, 2⟩ ⟨[3], 1, 1, 1⟩
      (some [⟨1, 2, [8, 9]⟩]) 1 (vtremoteWbufInit [])
    · constructor
      · rfl
      · rfl
      · intro p hp
        rcases List.mem_cons.mp hp with rfl | hp
        · rfl
        · rw [List.mem_singleton.mp hp]
          rfl
      · intro sd hsd
        rw [List.mem_singleton.mp hsd]
        rfl
    · rfl
  · have h0 : (PixelBufferPlane.mk 2 1 [1, 2] rfl).Sendable tinyCodecs 0 [1, 2] :=
      ⟨by decide, by decide, by decide, by decide, rfl, by decide⟩
    have h1 : (PixelBufferPlane.mk 1 1 [3] rfl).Sendable tinyCodecs 0 [3] :=
      ⟨by decide, by decide, by decide, by decide, rfl, by decide⟩
    rcases decodedFrameParts_of_sendable h0 h1 40 20 with ⟨parts, hparts⟩
    have hlen : (parts.flatten.length : Int) ≤ intMax := by
      rcases decodedFrameParts_encode hparts with ⟨_, _, hdata0, hdata1, _, _, heq⟩
      cases hdata0
      cases hdata1
      rw [heq]
      decide
    rcases frame_formats_agree.2.1 tinyCodecs 0 40 20 _ _ parts hparts hlen with
      ⟨_, _, hdata0, hdata1, hparse⟩
    cases hdata0
    cases hdata1
    exact ⟨parts, hparts, hparse⟩
  · have hsendable : SessionConfiguration.Sendable tinyCodecs
        { mode := .decode, width := 2, height := 2, pixelFormat := 1,
          wireCompression := 0 } [0, 0, 0, 0] [0, 0] :=
      ⟨by decide, by decide, by decide, rfl, rfl, by decide⟩
    have hread : exists r, StubCodecSession.readStubPacket
        (ByteReader.init (List.replicate 32 0)) = .ok ((0, 0), r) := ⟨_, rfl⟩
    rcases hread with ⟨r, hread⟩
    rcases handlePacketMessage_of_sendable (s := tinyStub) rfl rfl hsendable hread with
      ⟨body, hbody, hanswer⟩
    have hlen : (body.length : Int) ≤ intMax := by
      rcases frameBody_encode hbody with ⟨_, _, hy, huv, _, _, heq⟩
      cases hy
      cases huv
      rw [heq]
      decide
    rcases frame_formats_agree.2.2 tinyCodecs tinyStub tinyStub _ body hanswer hlen with
      ⟨_, pts, duration, _, _, _, hconfig, hread', hy, huv, hparse⟩
    cases hconfig
    cases hy
    cases huv
    rw [hread] at hread'
    cases hread'
    exact ⟨body, hanswer, hparse⟩

end VTRemote
