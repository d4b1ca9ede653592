import VTRemote.Formats.Frame
import VTRemote.Library.Shortage

/-!
# The texts of a FRAME

Which byte strings stand for a frame of at most four planes.  The section of side
data may be left out or be empty, and anything may follow it.
-/

namespace VTRemote
namespace Grammar

open Format

def Plane.Fits (p : Plane) : Prop := p.data.length < 2 ^ 32

def SideData.Fits (sd : SideData) : Prop := sd.data.length < 2 ^ 32

theorem Plane.reads : Plane.decode.Reads Plane.encode Plane.Fits where
  of_some := by
    intro bytes rest p h
    rcases Decoder.bind_eq_some.mp h with ⟨stride, m1, h1, h⟩
    rcases Decoder.bind_eq_some.mp h with ⟨height, m2, h2, h⟩
    rcases Decoder.bind_eq_some.mp h with ⟨data, m3, h3, h⟩
    cases h
    rcases blobDecoder_eq_some h3 with ⟨hlength, hdata⟩
    refine ⟨hlength, ?_⟩
    rw [u32.encode_decode _ _ _ h1, u32.encode_decode _ _ _ h2, hdata]
    unfold Plane.encode blob32
    simp only [List.append_assoc]
    rfl
  of_encode h rest := Plane.decode_encode h rest

theorem SideData.reads : SideData.decode.Reads SideData.encode SideData.Fits where
  of_some := by
    intro bytes rest sd h
    rcases Decoder.bind_eq_some.mp h with ⟨type, m1, h1, h⟩
    rcases Decoder.bind_eq_some.mp h with ⟨data, m2, h2, h⟩
    cases h
    rcases blobDecoder_eq_some h2 with ⟨hlength, hdata⟩
    refine ⟨hlength, ?_⟩
    rw [u32.encode_decode _ _ _ h1, hdata]
    unfold SideData.encode blob32
    simp only [List.append_assoc]
    rfl
  of_encode h rest := SideData.decode_encode h rest

namespace Frame

def head (pts duration : UInt64) (flags : UInt32) (count : UInt8) : List UInt8 :=
  u64.encode pts ++ (u64.encode duration ++ (u32.encode flags ++ u8.encode count))

@[simp] theorem head_length (pts duration : UInt64) (flags : UInt32) (count : UInt8) :
    (head pts duration flags count).length = 21 := rfl

/-- A section of side data, also when it has no entries. -/
def sideDataText (entries : List SideData) : List UInt8 :=
  u8.encode (UInt8.ofNat entries.length) ++ entries.flatMap SideData.encode

inductive Tail (entries : List SideData) : List UInt8 -> Prop where
  | nothing (hentries : entries = []) : Tail entries []
  | sideData (trailing : List UInt8) : Tail entries (sideDataText entries ++ trailing)

structure Text (f : Frame) (bytes : List UInt8) : Prop where
  fits : f.Fits
  planes_le : f.planes.length ≤ 4
  text : exists tail, Tail f.sideData tail ∧
    bytes = head f.pts f.duration f.flags (UInt8.ofNat f.planes.length) ++
      (f.planes.flatMap Plane.encode ++ tail)

theorem decodeSideData_iff {entries : List SideData} {bytes : List UInt8} :
    (exists rest, decodeSideData bytes = some (entries, rest)) <->
      entries.length < 2 ^ 8 ∧ (forall sd, sd ∈ entries -> sd.Fits) ∧
        Tail entries bytes := by
  constructor
  · intro h
    rcases h with ⟨rest, h⟩
    cases bytes with
    | nil =>
        cases h
        exact ⟨Nat.two_pow_pos 8, (fun sd hsd => nomatch hsd), .nothing rfl⟩
    | cons count bytes =>
        have htimes : Decoder.times SideData.decode count.toNat bytes =
            some (entries, rest) := h
        rcases (SideData.reads.times count.toNat).of_some htimes with ⟨hitems, hbytes⟩
        have hcount : UInt8.ofNat entries.length = count := by
          rw [hitems.1]
          exact UInt8.ofNat_toNat
        refine ⟨?_, hitems.2, ?_⟩
        · rw [hitems.1]
          exact count.toNat_lt
        · rw [hbytes, <- hcount]
          exact .sideData rest
  · intro h
    rcases h with ⟨hlength, hfits, htail⟩
    cases htail with
    | nothing hentries =>
        rw [hentries]
        exact ⟨[], rfl⟩
    | sideData trailing =>
        have hcount : (UInt8.ofNat entries.length).toNat = entries.length :=
          UInt8.toNat_ofNat_of_lt' hlength
        have htimes := (SideData.reads.times entries.length).of_encode
          ⟨rfl, hfits⟩ trailing
        rw [<- hcount] at htimes
        exact ⟨trailing, htimes⟩

/-- The grammar is what the decoder for at most four planes accepts. -/
theorem decode_iff {f : Frame} {bytes : List UInt8} :
    (exists rest, decode (fun count => count ≤ 4) bytes = some (f, rest)) <->
      f.Text bytes := by
  constructor
  · intro h
    rcases h with ⟨rest, h⟩
    rcases Decoder.bind_eq_some.mp h with ⟨pts, m1, h1, h⟩
    rcases Decoder.bind_eq_some.mp h with ⟨duration, m2, h2, h⟩
    rcases Decoder.bind_eq_some.mp h with ⟨flags, m3, h3, h⟩
    rcases Decoder.bind_eq_some.mp h with ⟨count, m4, h4, h⟩
    rcases Decoder.bind_eq_some.mp h with ⟨_, m5, h5, h⟩
    rcases Decoder.bind_eq_some.mp h with ⟨planes, m6, h6, h⟩
    rcases Decoder.bind_eq_some.mp h with ⟨sideData, m7, h7, h⟩
    cases h
    unfold Decoder.require at h5
    split at h5
    · rename_i haccept
      cases h5
      rcases (Plane.reads.times count.toNat).of_some h6 with ⟨hplanes, hm5⟩
      rcases decodeSideData_iff.mp ⟨rest, h7⟩ with ⟨hcount, hentries, htail⟩
      have hn : UInt8.ofNat planes.length = count := by
        rw [hplanes.1]
        exact UInt8.ofNat_toNat
      constructor
      · constructor
        · rw [hplanes.1]
          exact count.toNat_lt
        · exact hcount
        · exact hplanes.2
        · exact hentries
      · show planes.length ≤ 4
        rw [hplanes.1]
        exact UInt8.le_iff_toNat_le.mp (of_decide_eq_true haccept)
      · refine ⟨m6, htail, ?_⟩
        rw [u64.encode_decode _ _ _ h1, u64.encode_decode _ _ _ h2,
          u32.encode_decode _ _ _ h3, u8.encode_decode _ _ _ h4, hm5]
        simp only [head, hn, List.append_assoc]
    · cases h5
  · intro h
    rcases h.text with ⟨tail, htail, hbytes⟩
    rcases decodeSideData_iff.mpr ⟨h.fits.sideData, h.fits.sideDataData, htail⟩ with
      ⟨rest, hside⟩
    have hn : (UInt8.ofNat f.planes.length).toNat = f.planes.length :=
      UInt8.toNat_ofNat_of_lt' h.fits.planes
    have haccept : decide (UInt8.ofNat f.planes.length ≤ 4) = true := by
      apply decide_eq_true
      apply UInt8.le_iff_toNat_le.mpr
      rw [hn]
      exact h.planes_le
    rw [hbytes]
    exact ⟨rest, decode_planes h.fits haccept hside⟩

/-!
## Where the data stands
-/

/-- The data stands at an offset of the bytes, inside of them. -/
def Stands (bytes : List UInt8) (offset : Nat) (data : List UInt8) : Prop :=
  exists front back, bytes = front ++ (data ++ back) ∧ front.length = offset

/-- A head of 21 bytes, whole planes, and three words. -/
def planeOffset (f : Frame) (i : Nat) : Nat :=
  21 + ((f.planes.take i).flatMap Plane.encode).length + 12

/-- A head of 21 bytes, all planes, a count, whole entries, and two words. -/
def sideDataOffset (f : Frame) (i : Nat) : Nat :=
  21 + (f.planes.flatMap Plane.encode).length + 1 +
    ((f.sideData.take i).flatMap SideData.encode).length + 8

theorem flatMap_eq_of_getElem? {α : Type} (encode : α -> List UInt8) {xs : List α}
    {i : Nat} {x : α} (h : xs[i]? = some x) :
    xs.flatMap encode = (xs.take i).flatMap encode ++
      (encode x ++ (xs.drop (i + 1)).flatMap encode) := by
  rcases List.getElem?_eq_some_iff.mp h with ⟨hi, hx⟩
  have hsplit : xs = xs.take i ++ (x :: xs.drop (i + 1)) := by
    rw [<- hx, List.getElem_cons_drop, List.take_append_drop]
  have hflat := congrArg (fun xs => xs.flatMap encode) hsplit
  simp only [List.flatMap_append, List.flatMap_cons] at hflat
  exact hflat

theorem Text.plane_stands {f : Frame} {bytes : List UInt8} (h : f.Text bytes)
    {i : Nat} {p : Plane} (hp : f.planes[i]? = some p) :
    Stands bytes (f.planeOffset i) p.data := by
  rcases h.text with ⟨tail, _, hbytes⟩
  let words := u32.encode p.stride ++
    (u32.encode p.height ++ u32.encode (UInt32.ofNat p.data.length))
  refine ⟨head f.pts f.duration f.flags (UInt8.ofNat f.planes.length) ++
      ((f.planes.take i).flatMap Plane.encode ++ words),
    (f.planes.drop (i + 1)).flatMap Plane.encode ++ tail, ?_, ?_⟩
  · rw [hbytes, flatMap_eq_of_getElem? Plane.encode hp]
    simp only [Plane.encode, blob32, words, List.append_assoc]
  · rw [List.length_append, List.length_append, head_length, <- Nat.add_assoc]
    rfl

theorem Text.sideData_stands {f : Frame} {bytes : List UInt8} (h : f.Text bytes)
    {i : Nat} {sd : SideData} (hsd : f.sideData[i]? = some sd) :
    Stands bytes (f.sideDataOffset i) sd.data := by
  rcases h.text with ⟨tail, htail, hbytes⟩
  cases htail with
  | nothing hentries =>
      rw [hentries] at hsd
      cases hsd
  | sideData trailing =>
      let words := u32.encode sd.type ++ u32.encode (UInt32.ofNat sd.data.length)
      refine ⟨head f.pts f.duration f.flags (UInt8.ofNat f.planes.length) ++
          (f.planes.flatMap Plane.encode ++
            (u8.encode (UInt8.ofNat f.sideData.length) ++
              ((f.sideData.take i).flatMap SideData.encode ++ words))),
        (f.sideData.drop (i + 1)).flatMap SideData.encode ++ trailing, ?_, ?_⟩
      · rw [hbytes]
        unfold sideDataText
        rw [flatMap_eq_of_getElem? SideData.encode hsd]
        simp only [SideData.encode, blob32, words, List.append_assoc]
      · have hwords : words.length = 8 := rfl
        have hcount : (u8.encode (UInt8.ofNat f.sideData.length)).length = 1 := rfl
        simp only [List.length_append, head_length, hwords, hcount, sideDataOffset,
          Nat.add_assoc]

end Frame
end Grammar
end VTRemote
