import VTRemote.Formats.Frame
import VTRemote.Formats.Packet

/-!
# The stub's exchange

A FRAME that a client's buffer can hold is written, the stub reads it, and the
PACKET with which it answers can be parsed.
-/

namespace VTRemote

open Grammar Format

/-!
## Writing a FRAME
-/

theorem Grammar.Plane.encode_length (p : Plane) :
    p.encode.length = 4 + 4 + 4 + p.data.length := by
  unfold Plane.encode blob32
  simp [u32]
  omega

theorem Grammar.SideData.encode_length (sd : SideData) :
    sd.encode.length = 4 + 4 + sd.data.length := by
  unfold SideData.encode blob32
  simp [u32]
  omega

theorem putPlanes_succeeds {planes : List FramePlane}
    (hsized : forall p, p ∈ planes -> p.Sized) :
    Succeeds (putPlanes planes)
      ((planes.map FramePlane.toWire).flatMap Plane.encode).length := by
  induction planes with
  | nil => exact Succeeds.done
  | cons p rest ih =>
      have hrest := ih fun q hq => hsized q (List.mem_cons_of_mem p hq)
      have hfixed := Succeeds.orThen (by decide)
        (Succeeds.orThen (by decide) (vtremoteWbufPutU32_succeeds p.stride)
          (vtremoteWbufPutU32_succeeds p.height))
        (vtremoteWbufPutU32_succeeds p.size)
      have hdata := Succeeds.putSized (hsized p List.mem_cons_self)
      have hput := Succeeds.orReturn (by omega)
        (Succeeds.orReturn (by decide) hfixed hdata) hrest
      rw [List.map_cons, List.flatMap_cons, List.length_append,
        Plane.encode_length]
      exact hput

theorem Succeeds.doneOrThen {put : WbufPut} {n : Nat} (h : Succeeds put n) :
    Succeeds (WbufPut.done.orThen put) n := by
  intro b hb hpos hmax
  rcases h b hb hpos hmax with ⟨hret, hgranted, hsize⟩
  refine ⟨?_, hgranted, hsize⟩
  show Int.lor 0 (put b).1 = 0
  rw [hret]
  rfl

/-- The loop over the side data succeeds behind any first write that others can
follow. -/
theorem putSideData_succeeds {entries : List VTRemoteSideData}
    (hsized : forall sd, sd ∈ entries -> sd.Sized)
    {first : WbufPut} {n : Nat} (hfirst : Succeeds first n)
    (hthen : forall {put m}, Succeeds put m ->
      Succeeds (first.orThen put) (n + m)) :
    Succeeds (putSideData first entries)
      (n + ((entries.map VTRemoteSideData.toWire).flatMap
        SideData.encode).length) := by
  induction entries generalizing first n with
  | nil => exact hfirst
  | cons sd rest ih =>
      have hrest := @ih (fun x hx => hsized x (List.mem_cons_of_mem sd hx))
        WbufPut.done 0
        Succeeds.done (fun hput => by
          rw [Nat.zero_add]
          exact hput.doneOrThen)
      have hfixed := Succeeds.orThen (by omega)
        (hthen (vtremoteWbufPutU32_succeeds sd.type))
        (vtremoteWbufPutU32_succeeds sd.size)
      have hdata := Succeeds.putSized (hsized sd List.mem_cons_self)
      have hput := Succeeds.orReturn (by omega)
        (Succeeds.orReturn (by omega) hfixed hdata) hrest
      have hlen : n + (((sd :: rest).map VTRemoteSideData.toWire).flatMap
          SideData.encode).length = n + 4 + 4 + sd.data.length +
            (0 + ((rest.map VTRemoteSideData.toWire).flatMap
              SideData.encode).length) := by
        rw [List.map_cons, List.flatMap_cons, List.length_append,
          SideData.encode_length]
        show n + (4 + 4 + sd.data.length + _) = _
        omega
      rw [hlen]
      exact hput

theorem putSideDataSection_succeeds
    {sideData : Option (List VTRemoteSideData)} {count : UInt8}
    (hlen : (sideData.getD []).length = count.toNat)
    (hsized : forall sd, sd ∈ sideData.getD [] -> sd.Sized) :
    Succeeds (putSideDataSection sideData count)
      (Frame.encodeSideData
        ((sideData.getD []).map VTRemoteSideData.toWire)).length := by
  cases sideData with
  | none => exact Succeeds.done
  | some entries =>
      rw [Option.getD_some] at hlen hsized ⊢
      cases entries with
      | nil =>
          have hzero : count = 0 := UInt8.toNat_inj.mp hlen.symm
          unfold putSideDataSection
          simp only [if_pos hzero]
          exact Succeeds.done
      | cons sd rest =>
          have hne : ¬ count = 0 := by
            intro hzero
            rw [hzero] at hlen
            cases hlen
          have hfirst := vtremoteWbufPutU8_succeeds count
          have hput := putSideData_succeeds hsized hfirst
            (Succeeds.orThen Nat.one_pos hfirst)
          unfold putSideDataSection
          simp only [if_neg hne]
          rw [<- hlen, List.take_length]
          unfold Frame.encodeSideData
          rw [if_neg (by simp), List.length_append]
          exact hput

theorem vtremotePayloadFrame_succeeds {pts duration : Int64} {flags : UInt32}
    {planeCount sideDataCount : UInt8} {planes : List FramePlane}
    {sideData : Option (List VTRemoteSideData)} {b : VTRemoteWBuf}
    (hargs : FrameArguments planeCount planes sideData sideDataCount)
    (hne : planes ≠ []) (hb : b.Granted)
    (hle : (payloadFrame pts duration flags planes sideData).encode.length ≤
      maxAllocSize) :
    (vtremotePayloadFrame pts duration flags planeCount planes sideData
        sideDataCount b).1 = 0 ∧
      (vtremotePayloadFrame pts duration flags planeCount planes sideData
        sideDataCount b).2.Granted := by
  have hencode : (payloadFrame pts duration flags planes sideData).encode.length =
      8 + 8 + 4 + 1 + (((planes.map FramePlane.toWire).flatMap
        Plane.encode).length + (Frame.encodeSideData
          ((sideData.getD []).map VTRemoteSideData.toWire)).length) := by
    unfold Frame.encode payloadFrame
    simp [u64, u32, u8]
    omega
  have hfixed := Succeeds.orThen (by decide)
    (Succeeds.orThen (by decide)
      (Succeeds.orThen (by decide) (vtremoteWbufPutU64_succeeds pts.toUInt64)
        (vtremoteWbufPutU64_succeeds duration.toUInt64))
      (vtremoteWbufPutU32_succeeds flags))
    (vtremoteWbufPutU8_succeeds planeCount)
  have hplanes := putPlanes_succeeds hargs.planes_sized
  have htail := putSideDataSection_succeeds hargs.sideData_length
    hargs.sideData_sized
  have htake : planes.take planeCount.toNat = planes := by
    rw [<- hargs.planes_length, List.take_length]
  have hplanesPos : 0 < ((planes.map FramePlane.toWire).flatMap
      Plane.encode).length := by
    cases planes with
    | nil => exact absurd rfl hne
    | cons p rest =>
        rw [List.map_cons, List.flatMap_cons, List.length_append,
          Plane.encode_length]
        omega
  have hall := Succeeds.orReturn (by decide) hfixed
    (Succeeds.orReturn hplanesPos hplanes htail)
  have hreset : (vtremoteWbufReset b).Granted :=
    ⟨VTRemoteWBuf.sound_reset b, hb.grants⟩
  have hzero : (vtremoteWbufReset b).size = 0 := rfl
  rw [hencode] at hle
  rcases hall _ hreset (by rw [hzero]; omega) (by rw [hzero]; omega) with
    ⟨hret, hgranted, _⟩
  unfold vtremotePayloadFrame
  rw [htake]
  exact ⟨hret, hgranted⟩

/-!
## Reading it in the stub
-/

namespace StubCodecSession

open ByteReader

variable {codecs : PlaneCodecs} {wireCompression : Int}

def Decodes (codecs : PlaneCodecs) (wireCompression : Int) (p : Plane)
    (data : List UInt8) : Prop :=
  swiftInt (p.stride.toNat * p.height.toNat) =
      .ok (p.stride.toNat * p.height.toNat) ∧
    planeData codecs wireCompression p.data
      (p.stride.toNat * p.height.toNat) = .ok data

theorem readStubPlane_encode {p : Plane} {data rest : List UInt8}
    (hlen : p.data.length < 2 ^ 32)
    (hdecodes : Decodes codecs wireCompression p data) {r : ByteReader}
    (hahead : r.ahead = p.encode ++ rest) :
    exists r', readStubPlane codecs wireCompression r = .ok (data, r') ∧
      r'.ahead = rest := by
  unfold Plane.encode blob32 at hahead
  simp only [List.append_assoc] at hahead
  rcases SwiftFollows.read_encode readBEUInt32_follows hahead
    with ⟨r1, hread1, hahead1⟩
  rcases SwiftFollows.read_encode readBEUInt32_follows hahead1
    with ⟨r2, hread2, hahead2⟩
  rcases SwiftFollows.read_encode readBEUInt32_follows hahead2
    with ⟨r3, hread3, hahead3⟩
  have hcount : (UInt32.ofNat p.data.length).toNat = p.data.length :=
    UInt32.toNat_ofNat_of_lt' hlen
  have htake := Decoder.take_append rest hcount.symm
  rw [<- hahead3] at htake
  rcases consume_follows _ r3 p.data rest trivial htake
    with ⟨r4, hread4, _, hahead4⟩
  rw [<- readBytes_natCast] at hread4
  refine ⟨r4, ?_, hahead4⟩
  unfold readStubPlane
  rw [bind_of_ok hread1, bind_of_ok hread2, bind_of_ok hread3,
    bind_of_ok hread4]
  rcases hdecodes with ⟨hsize, hdata⟩
  simp only [hsize]
  show (do let data ← planeData codecs wireCompression p.data _; pure (data, r4)) =
    Except.ok (data, r4)
  rw [hdata]
  rfl

theorem readStubFrame_encode {f : Frame} {p0 p1 : Plane}
    {data0 data1 : List UInt8} (hplanes : f.planes = [p0, p1])
    (hfits : f.Fits) (h0 : Decodes codecs wireCompression p0 data0)
    (h1 : Decodes codecs wireCompression p1 data1) {r : ByteReader}
    (hahead : r.ahead = f.encode) :
    exists r', readStubFrame codecs wireCompression r =
      .ok ({ pts := f.pts.toInt64, dur := f.duration.toInt64, flags := f.flags
             planes := [data0, data1] }, r') := by
  unfold Frame.encode at hahead
  rw [hplanes] at hahead
  simp only [List.append_assoc, List.flatMap_cons] at hahead
  rcases SwiftFollows.read_encode readBEUInt64_follows hahead
    with ⟨r1, hread1, hahead1⟩
  rcases SwiftFollows.read_encode readBEUInt64_follows hahead1
    with ⟨r2, hread2, hahead2⟩
  rcases SwiftFollows.read_encode readBEUInt32_follows hahead2
    with ⟨r3, hread3, hahead3⟩
  rcases SwiftFollows.read_encode readUInt8_follows hahead3
    with ⟨r4, hread4, hahead4⟩
  have hmem0 : p0 ∈ f.planes := by
    rw [hplanes]
    exact List.mem_cons_self
  have hmem1 : p1 ∈ f.planes := by
    rw [hplanes]
    exact List.mem_cons_of_mem p0 List.mem_cons_self
  rcases readStubPlane_encode (hfits.planeData p0 hmem0) h0 hahead4
    with ⟨r5, hread5, hahead5⟩
  rcases readStubPlane_encode (hfits.planeData p1 hmem1) h1 hahead5
    with ⟨r6, hread6, _⟩
  have hrequire : readRequire ((UInt8.ofNat [p0, p1].length) == 2)
      expectedTwoPlanes r4 = .ok ((), r4) := rfl
  refine ⟨r6, ?_⟩
  unfold readStubFrame
  rw [bind_of_ok hread1, bind_of_ok hread2, bind_of_ok hread3,
    bind_of_ok hread4, bind_of_ok hrequire]
  simp only [readTimes, bind_assoc, pure_bind]
  rw [bind_of_ok hread5, bind_of_ok hread6]
  rfl

/-!
## The PACKET it answers with
-/

theorem annexB_length (planes : List (List UInt8)) :
    (annexB planes).length ≤ 20 := by
  unfold annexB
  rw [List.length_append, List.length_take]
  exact Nat.add_le_add_left (Nat.min_le_left _ _) 4

theorem packetBody_parsed (pts dts dur : Int64) (flags : UInt32)
    (planes : List (List UInt8)) :
    exists body view, packetBody pts dts dur flags (annexB planes) = .ok body ∧
      body.length ≤ maxAllocSize ∧
      vtremoteParsePacket body body.length = .ok view ∧
      view.dataLen.toNat ≤ 20 := by
  have hlen := annexB_length planes
  have hcount : swiftUInt32 (annexB planes).length =
      .ok (UInt32.ofNat (annexB planes).length) :=
    if_pos (Nat.le_trans hlen (by decide))
  cases hbody : packetBody pts dts dur flags (annexB planes) with
  | error e =>
      unfold packetBody encodedSampleMessage at hbody
      rw [hcount] at hbody
      cases hbody
  | ok body =>
      rcases encodedSampleMessage_encode hbody with ⟨hlt, hencode⟩
      have hshort : body.length ≤ 52 := by
        rw [hencode]
        unfold Packet.encode blob32
        simp [u64, u32]
        omega
      have hparse := (@packet_parsers_encode
        { pts := pts.toUInt64, dts := dts.toUInt64, duration := dur.toUInt64
          flags := if flags &&& 1 != 0 then 1 else 0
          data := annexB planes } hlt).2
      rw [<- hencode] at hparse
      refine ⟨body, _, rfl, Nat.le_trans hshort (by decide),
        hparse (by unfold intMax; omega), ?_⟩
      show (UInt32.ofNat (annexB planes).length).toNat ≤ 20
      rw [UInt32.toNat_ofNat_of_lt' hlt]
      exact hlen

end StubCodecSession
end VTRemote
