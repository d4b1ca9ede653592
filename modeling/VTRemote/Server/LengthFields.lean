import VTRemote.Server.EncoderCallbacks

/-!
# Where the length size is read

The encoder takes the size of its lengths from the first sample, the decoder
from its extradata, and either may find an atom header in front of the record.
-/

namespace VTRemote

/-!
## Records and headers
-/

/-- The byte of a record with the length size in its low two bits. -/
def VideoCodec.lengthOffset : VideoCodec -> Nat
  | .h264 => 4
  | .hevc => 21

/-- The length size that a record announces. -/
def VideoCodec.recordLength (codec : VideoCodec) (record : List UInt8) : NALLength :=
  .ofByte (record.getD codec.lengthOffset 0)

/-- The `nalLengthField` of `setupDecoder`. -/
def setupDecoderLength (config : SetupConfiguration) : NALLength :=
  let rawExtra := config.configExtradata.getD []
  let extra := stripAtomHeaderIfPresent rawExtra config.codec.atom
  if config.codec.IsRecord extra then config.codec.recordLength extra
  else .four

structure AtomSize where
  bytes : List UInt8
  length_eq : bytes.length = 4

def atomBlob (codec : VideoCodec) (header : Option AtomSize) (record : List UInt8) :
    List UInt8 :=
  match header with
  | none => record
  | some size => size.bytes ++ (codec.atom ++ record)

section Blob

variable {codec : VideoCodec} {record : List UInt8}

theorem VideoCodec.atom_length (codec : VideoCodec) : codec.atom.length = 4 := by
  cases codec <;> rfl

theorem VideoCodec.IsRecord.length (h : codec.IsRecord record) :
    codec.lengthOffset < record.length ∧ 4 < record.length := by
  cases codec with
  | h264 => exact ⟨Nat.lt_of_le_of_lt (by decide) h.1, Nat.lt_of_le_of_lt (by decide) h.1⟩
  | hevc => exact ⟨h.1, Nat.lt_of_le_of_lt (by decide) h.1⟩

theorem strip_atomBlob (codec : VideoCodec) (size : AtomSize) (record : List UInt8) :
    stripAtomHeaderIfPresent (atomBlob codec (some size) record) codec.atom = record := by
  have hatom := codec.atom_length
  have hlength : ¬ (atomBlob codec (some size) record).length < 8 := by
    unfold atomBlob
    rw [List.length_append, List.length_append, size.length_eq, hatom]
    omega
  have htype : (atomBlob codec (some size) record).drop 4 = codec.atom ++ record :=
    List.drop_left' size.length_eq
  have hrecord : (atomBlob codec (some size) record).drop 8 = record := by
    rw [show 8 = 4 + 4 from rfl, ← List.drop_drop, htype]
    exact List.drop_left' hatom
  unfold stripAtomHeaderIfPresent
  rw [if_neg hlength, htype, hrecord, if_pos (List.take_left' hatom)]

theorem strip_record (codec : VideoCodec) (record : List UInt8) :
    stripAtomHeaderIfPresent record codec.atom =
      if (record.drop 4).take 4 = codec.atom then record.drop 8 else record := by
  unfold stripAtomHeaderIfPresent
  split
  · rename_i hshort
    rw [if_neg]
    intro htype
    have hlength := congrArg List.length htype
    rw [codec.atom_length, List.length_take, List.length_drop] at hlength
    omega
  · rfl

end Blob

/-!
## Length sizes
-/

theorem NALLength.ofByte_eq_iff {a b : UInt8} :
    NALLength.ofByte a = .ofByte b ↔ a &&& 3 = b &&& 3 := by
  constructor
  · intro h
    have hsize : (a &&& 3).toNat + 1 = (b &&& 3).toNat + 1 := congrArg NALLength.size h
    exact UInt8.toNat_inj.mp (Nat.succ.inj hsize)
  · intro h
    unfold NALLength.ofByte
    simp only [h]

theorem NALLength.size_eq_iff {a b : NALLength} : a.size = b.size ↔ a = b := by
  cases a
  cases b
  exact NALLength.mk.injEq .. ▸ Iff.rfl

theorem NALLength.four_eq_ofByte : NALLength.four = .ofByte 3 := rfl

/-- The record is read as it is, although its own bytes spell the type of an
atom: what is behind them announces the same length size. -/
def CutKeepsLength (codec : VideoCodec) (record : List UInt8) : Prop :=
  match codec with
  | .h264 =>
      VideoCodec.h264.IsRecord (record.drop 8) ∧ record.getD 12 0 &&& 3 = 1
  | .hevc =>
      (VideoCodec.hevc.IsRecord (record.drop 8) ∨ record.getD 21 0 &&& 3 = 3) ∧
        (29 < record.length -> record.getD 29 0 &&& 3 = record.getD 21 0 &&& 3)

/-- Encoder and decoder find the length size of the record: the fifth byte of an
atom with `avcC` announces lengths of two bytes. -/
def LengthSizeKept (codec : VideoCodec) (header : Option AtomSize)
    (record : List UInt8) : Prop :=
  match header with
  | some _ => codec = .h264 -> record.getD 4 0 &&& 3 = 1
  | none => (record.drop 4).take 4 = codec.atom -> CutKeepsLength codec record

section Kept

variable {codec : VideoCodec} {record : List UInt8} {s : EncoderSession}

def EncoderSession.lengthFrom (s : EncoderSession) (codec : VideoCodec)
    (data : List UInt8) : NALLength :=
  s.capturedLength codec data (stripAtomHeaderIfPresent data codec.atom)

def VideoCodec.lengthFrom (codec : VideoCodec) (data : List UInt8) : NALLength :=
  let extra := stripAtomHeaderIfPresent data codec.atom
  if codec.IsRecord extra then codec.recordLength extra else .four

theorem getD_drop (list : List UInt8) (k i : Nat) :
    (list.drop k).getD i 0 = list.getD (k + i) 0 := by
  rw [List.getD_eq_getElem?_getD, List.getD_eq_getElem?_getD, List.getElem?_drop]

/-- Behind a header the encoder finds the type in place of the length size of
an avcC record. -/
theorem lengthFrom_header (s : EncoderSession) (size : AtomSize)
    (h : codec.IsRecord record) :
    s.lengthFrom codec (atomBlob codec (some size) record) = codec.recordLength record ↔
      (codec = .h264 -> record.getD 4 0 &&& 3 = 1) := by
  unfold EncoderSession.lengthFrom
  rw [strip_atomBlob]
  cases codec with
  | h264 =>
      have hlong : 4 < (atomBlob .h264 (some size) record).length := by
        unfold atomBlob
        rw [List.length_append, List.length_append, size.length_eq,
          VideoCodec.atom_length]
        omega
      have hbyte : (atomBlob .h264 (some size) record).getD 4 0 = 97 := by
        unfold atomBlob
        rw [List.getD_append_right _ _ _ _ (Nat.le_of_eq size.length_eq), size.length_eq]
        rfl
      show (if 4 < (atomBlob .h264 (some size) record).length then
        NALLength.ofByte ((atomBlob .h264 (some size) record).getD 4 0) else _) = _ ↔ _
      rw [if_pos hlong, hbyte]
      have hiff : NALLength.ofByte 97 = VideoCodec.h264.recordLength record ↔
          97 &&& 3 = record.getD 4 0 &&& 3 := NALLength.ofByte_eq_iff
      rw [hiff]
      exact ⟨fun heq _ => heq.symm, fun heq => (heq rfl).symm⟩
  | hevc =>
      have hlong : 21 < record.length := h.1
      show (if 21 < record.length then NALLength.ofByte (record.getD 21 0) else _) = _ ↔ _
      rw [if_pos hlong]
      exact iff_of_true rfl (fun hcodec => nomatch hcodec)

theorem lengthFrom_record (s : EncoderSession) (h : codec.IsRecord record)
    (htype : (record.drop 4).take 4 ≠ codec.atom) :
    s.lengthFrom codec record = codec.recordLength record ∧
      codec.lengthFrom record = codec.recordLength record := by
  have hstrip : stripAtomHeaderIfPresent record codec.atom = record := by
    rw [strip_record, if_neg htype]
  unfold EncoderSession.lengthFrom VideoCodec.lengthFrom
  rw [hstrip]
  refine ⟨?_, if_pos h⟩
  cases codec with
  | h264 => exact if_pos h.length.2
  | hevc => exact if_pos h.length.1

theorem strip_cut (htype : (record.drop 4).take 4 = codec.atom) :
    stripAtomHeaderIfPresent record codec.atom = record.drop 8 := by
  rw [strip_record, if_pos htype]

/-- The encoder reads an avcC record before the type is cut off. -/
theorem lengthFrom_cut_avcC (s : EncoderSession) (h : VideoCodec.h264.IsRecord record)
    (htype : (record.drop 4).take 4 = VideoCodec.h264.atom) :
    (s.lengthFrom .h264 record = VideoCodec.h264.recordLength record ∧
      VideoCodec.h264.lengthFrom record = VideoCodec.h264.recordLength record) ↔
        CutKeepsLength .h264 record := by
  have hbyte : record.getD 4 0 = 97 := by
    have hfirst := congrArg (fun list => List.getD list 0 0) htype
    rw [List.getD_eq_getElem?_getD, List.getElem?_take_of_lt (by decide),
      ← List.getD_eq_getElem?_getD, getD_drop] at hfirst
    exact hfirst
  have hencoder : s.lengthFrom .h264 record = VideoCodec.h264.recordLength record :=
    if_pos h.length.2
  have hrecord : VideoCodec.h264.recordLength record = .ofByte 97 :=
    congrArg NALLength.ofByte hbyte
  rw [iff_true_intro hencoder, true_and, hrecord]
  unfold VideoCodec.lengthFrom CutKeepsLength
  dsimp only
  rw [strip_cut htype]
  by_cases hcut : VideoCodec.h264.IsRecord (record.drop 8)
  · have hbehind : VideoCodec.h264.recordLength (record.drop 8) =
        .ofByte (record.getD 12 0) :=
      congrArg NALLength.ofByte (getD_drop record 8 4)
    rw [if_pos hcut, hbehind, NALLength.ofByte_eq_iff]
    exact (and_iff_right hcut).symm
  · rw [if_neg hcut, NALLength.four_eq_ofByte, NALLength.ofByte_eq_iff]
    exact iff_of_false (by decide) (fun hboth => hcut hboth.1)

theorem lengthFrom_cut_hvcC (hfour : s.nalLengthField = .four)
    (htype : (record.drop 4).take 4 = VideoCodec.hevc.atom) :
    (s.lengthFrom .hevc record = VideoCodec.hevc.recordLength record ∧
      VideoCodec.hevc.lengthFrom record = VideoCodec.hevc.recordLength record) ↔
        CutKeepsLength .hevc record := by
  have hbehind : (record.drop 8).getD 21 0 = record.getD 29 0 := getD_drop record 8 21
  have hlength : 21 < (record.drop 8).length ↔ 29 < record.length := by
    rw [List.length_drop]
    omega
  have hencoder : s.lengthFrom .hevc record =
      if 29 < record.length then .ofByte (record.getD 29 0) else .ofByte 3 := by
    show (if 21 < (stripAtomHeaderIfPresent record _).length then
      NALLength.ofByte ((stripAtomHeaderIfPresent record _).getD 21 0)
      else s.nalLengthField) = _
    rw [strip_cut htype, hbehind, hfour, NALLength.four_eq_ofByte]
    simp only [hlength]
  have hdecoder : VideoCodec.hevc.lengthFrom record =
      if VideoCodec.hevc.IsRecord (record.drop 8) then .ofByte (record.getD 29 0)
      else .ofByte 3 := by
    unfold VideoCodec.lengthFrom
    dsimp only
    rw [strip_cut htype]
    exact congrArg (fun byte => if VideoCodec.hevc.IsRecord (record.drop 8) then
      NALLength.ofByte byte else .ofByte 3) hbehind
  have hrecord : VideoCodec.hevc.recordLength record = .ofByte (record.getD 21 0) := rfl
  rw [hencoder, hdecoder, hrecord]
  unfold CutKeepsLength
  by_cases hcut : VideoCodec.hevc.IsRecord (record.drop 8)
  · have hlong : 29 < record.length := hlength.mp hcut.1
    rw [if_pos hlong, if_pos hcut, and_self, NALLength.ofByte_eq_iff]
    exact ⟨fun heq => ⟨Or.inl hcut, fun _ => heq⟩, fun hboth => hboth.2 hlong⟩
  · rw [if_neg hcut, NALLength.ofByte_eq_iff, or_iff_right hcut]
    by_cases hlong : 29 < record.length
    · rw [if_pos hlong, NALLength.ofByte_eq_iff]
      exact ⟨fun hboth => ⟨hboth.2.symm, fun _ => hboth.1⟩,
        fun hboth => ⟨hboth.2 hlong, hboth.1.symm⟩⟩
    · rw [if_neg hlong, NALLength.ofByte_eq_iff]
      exact ⟨fun hboth => ⟨hboth.2.symm, fun h => absurd h hlong⟩,
        fun hboth => ⟨hboth.1.symm, hboth.1.symm⟩⟩

theorem lengthFrom_iff (hfour : s.nalLengthField = .four) (header : Option AtomSize)
    (h : codec.IsRecord record) :
    (s.lengthFrom codec (atomBlob codec header record) = codec.recordLength record ∧
      codec.lengthFrom (atomBlob codec header record) = codec.recordLength record) ↔
        LengthSizeKept codec header record := by
  cases header with
  | some size =>
      have hdecoder : codec.lengthFrom (atomBlob codec (some size) record) =
          codec.recordLength record := by
        unfold VideoCodec.lengthFrom
        rw [strip_atomBlob]
        exact if_pos h
      rw [and_iff_left hdecoder]
      exact lengthFrom_header s size h
  | none =>
      by_cases htype : (record.drop 4).take 4 = codec.atom
      · have hcut : LengthSizeKept codec none record ↔ CutKeepsLength codec record :=
          ⟨fun hkept => hkept htype, fun hcut _ => hcut⟩
        rw [hcut]
        cases codec with
        | h264 => exact lengthFrom_cut_avcC s h htype
        | hevc => exact lengthFrom_cut_hvcC hfour htype
      · exact iff_of_true (lengthFrom_record s h htype) (fun hsame => absurd hsame htype)

end Kept

/-!
## The first sample
-/

structure FirstSample (s : EncoderSession) (sbuf : CMSampleBuffer)
    (config : ClientConfiguration) (blob : List UInt8) : Prop where
  configured : s.config = some config
  uncaptured : s.encoderExtradata = none
  initial : s.nalLengthField = .four
  hasData : sbuf.dataBuffer.isSome
  described : exists fmt, sbuf.formatDescription = some fmt ∧
    sampleDescriptionAtom fmt config.codec = some blob

section Sample

variable {s s' : EncoderSession} {sbuf : CMSampleBuffer} {config : ClientConfiguration}
variable {blob : List UInt8} {fate : EncoderSession.Fate}

theorem FirstSample.nalLengthField (first : FirstSample s sbuf config blob)
    (h : s.outputCallback (.encoded sbuf) = .ok (s', fate)) :
    s'.nalLengthField = s.lengthFrom config.codec blob := by
  rcases first.described with ⟨fmt, hfmt, hatom⟩
  have hcapture : (s.captureExtradata config.codec sbuf).nalLengthField =
      s.lengthFrom config.codec blob := by
    unfold EncoderSession.captureExtradata
    rw [first.uncaptured, hfmt]
    dsimp only
    rw [hatom]
    rfl
  rcases EncoderSession.outputCallback_eq_ok h with ⟨hnone, _, _⟩ |
    ⟨sbuf', block, config', hsbuf, _, hconfig, hrest⟩
  · exact absurd ⟨first.hasData, by rw [first.configured]; rfl⟩ hnone
  · cases hsbuf
    have hsame : config' = config :=
      Option.some.inj (hconfig.symm.trans first.configured)
    subst hsame
    rcases hrest with ⟨_, _, rfl⟩ | ⟨_, hprocess⟩
    · exact hcapture
    · rcases EncoderSession.processSample_eq_ok hprocess with ⟨_, _, _, _, _, rfl, _⟩
      exact hcapture

/-- After the first sample the length field of the encoder is the one that its
record announces, and the one that a decoder derives from the same bytes, just
when the condition on the record holds. -/
theorem nalLengthField_iff (header : Option AtomSize) {record : List UInt8}
    (hrecord : config.codec.IsRecord record)
    (first : FirstSample s sbuf config (atomBlob config.codec header record))
    (h : s.outputCallback (.encoded sbuf) = .ok (s', fate))
    {decoder : SetupConfiguration} (hcodec : decoder.codec = config.codec)
    (hextra : decoder.configExtradata = some (atomBlob config.codec header record)) :
    (s'.nalLengthField.size =
        (record.getD config.codec.lengthOffset 0 &&& 3).toNat + 1 ∧
      setupDecoderLength decoder = s'.nalLengthField) ↔
      LengthSizeKept config.codec header record := by
  rw [← lengthFrom_iff first.initial header hrecord, first.nalLengthField h]
  have hdecoder : setupDecoderLength decoder =
      config.codec.lengthFrom (atomBlob config.codec header record) := by
    unfold setupDecoderLength VideoCodec.lengthFrom
    rw [hcodec, hextra]
    rfl
  have hsize : (s.lengthFrom config.codec
      (atomBlob config.codec header record)).size =
        (record.getD config.codec.lengthOffset 0 &&& 3).toNat + 1 ↔
      s.lengthFrom config.codec (atomBlob config.codec header record) =
        config.codec.recordLength record :=
    @NALLength.size_eq_iff _ (config.codec.recordLength record)
  rw [hdecoder, hsize]
  constructor
  · intro hboth
    exact ⟨hboth.1, hboth.2.trans hboth.1⟩
  · intro hboth
    exact ⟨hboth.1, hboth.2.trans hboth.1.symm⟩

end Sample

private def h264Config : ClientConfiguration where
  width := 2
  height := 2
  pixelFormat := 1
  wireCompression := 0
  mode := .encode
  codec := .h264
  timebase := ⟨1, 25⟩

private def describedSample (blob : List UInt8) : CMSampleBuffer where
  dataBuffer := some [0, 0, 0, 1, 0x65]
  formatDescription := some ⟨some blob, none⟩
  presentationTimeStamp := ⟨0, 25⟩
  decodeTimeStamp := none
  duration := none
  notSync := false

private def warmingSession : EncoderSession :=
  { config := some h264Config, compressionSession := true, warmupPending := true }

/-- A bare record that announces lengths of four bytes. -/
theorem nalLengthField_iff_bare :
    exists s' fate,
      warmingSession.outputCallback
        (.encoded (describedSample [1, 0x64, 0, 0x1f, 0xff, 0xe1, 0])) = .ok (s', fate) ∧
      s'.nalLengthField.size = 4 ∧
      setupDecoderLength { h264Config with
        flags := 0, bitrate := 0, configExtradata := some [1, 0x64, 0, 0x1f, 0xff, 0xe1, 0]
        } = s'.nalLengthField := by
  have first : FirstSample warmingSession
      (describedSample [1, 0x64, 0, 0x1f, 0xff, 0xe1, 0]) h264Config
      (atomBlob .h264 none [1, 0x64, 0, 0x1f, 0xff, 0xe1, 0]) :=
    ⟨rfl, rfl, rfl, rfl, _, rfl, rfl⟩
  refine ⟨_, _, rfl, ?_⟩
  exact (nalLengthField_iff none (by decide) first rfl rfl rfl).mpr
    (fun htype => absurd htype (by decide))

/-- A header in front of the same record: the field is the one of the letter
that the type begins with. -/
theorem nalLengthField_behind_header :
    (exists s' fate,
      warmingSession.outputCallback (.encoded (describedSample
        [0, 0, 0, 15, 97, 118, 99, 67, 1, 0x64, 0, 0x1f, 0xff, 0xe1, 0])) =
          .ok (s', fate) ∧
      s'.nalLengthField.size = 2) ∧
    (setupDecoderLength { h264Config with
        flags := 0
        bitrate := 0
        configExtradata :=
          some [0, 0, 0, 15, 97, 118, 99, 67, 1, 0x64, 0, 0x1f, 0xff, 0xe1, 0] }).size =
      4 ∧
    (([1, 0x64, 0, 0x1f, 0xff, 0xe1, 0] : List UInt8).getD 4 0 &&& 3).toNat + 1 = 4 :=
  ⟨⟨_, _, rfl, rfl⟩, by decide, rfl⟩

end VTRemote
