import VTRemote.Server.ParameterSets
import VTRemote.System.OpenedSessions

/-!
# Parameter sets from an encoder to a decoder

The record of an encoder's session goes to its client, is converted there, and comes back
as the extradata of a decoder.  The session of the decoder is described by the first
parameter sets of the record.
-/

namespace VTRemote

open AnnexB VideoToolboxCodecSession

attribute [local irreducible] cInt

/-!
## Records of both codecs
-/

inductive CodecRecord where
  | avcC (record : AvccRecord)
  | hvcC (record : HvccRecord)

namespace CodecRecord

def codec : CodecRecord -> VideoCodec
  | avcC _ => .h264
  | hvcC _ => .hevc

def codecId : CodecRecord -> AVCodecID
  | avcC _ => .h264
  | hvcC _ => .hevc

theorem codecId_videoCodec (record : CodecRecord) :
    record.codecId.videoCodec = record.codec := by
  cases record with
  | avcC r => rfl
  | hvcC r => rfl

def bytes : CodecRecord -> Bytes
  | avcC record => record.bytes
  | hvcC record => record.bytes

def units : CodecRecord -> List Bytes
  | avcC record => record.sps ++ record.pps
  | hvcC record => record.units

def nalType : CodecRecord -> UInt8 -> Nat
  | avcC _ => h264NalType
  | hvcC _ => hevcNalType

def wanted : CodecRecord -> List Nat
  | avcC _ => [7, 8]
  | hvcC _ => [32, 33, 34]

def allowed : CodecRecord -> List Nat
  | avcC _ => [7, 8]
  | hvcC _ => [32, 33, 34, 39, 40]

structure Holds (record : CodecRecord) (units : List NALUnit) : Prop where
  units : record.units = units.map NALUnit.bytes
  types : forall unit, unit ∈ record.units ->
    exists type, type ∈ record.allowed ∧ OfType record.nalType type unit

/-- The first units of the types that a description is made of. -/
def FirstSets (record : CodecRecord) (sets : List Bytes) : Prop :=
  List.Forall₂ (FirstOf record.nalType record.units) record.wanted sets

variable (record : CodecRecord) (trailing : Bytes)

theorem head_bytes : (record.bytes ++ trailing).head? = some 1 := by
  cases record with
  | avcC r =>
      show ((r.header ++ _) ++ trailing).head? = some 1
      rw [List.append_assoc, List.head?_append_of_ne_nil, r.version]
      exact List.ne_nil_of_length_pos (r.header_length ▸ by decide)
  | hvcC r =>
      show ((r.header ++ _) ++ trailing).head? = some 1
      rw [List.append_assoc, List.head?_append_of_ne_nil, r.version]
      exact List.ne_nil_of_length_pos (r.header_length ▸ by decide)

/-- The client makes the record into its units behind start codes. -/
theorem encoderAck_record {alloc : Allocator} (halloc : forall size, alloc size = true)
    (hlimit : (record.bytes ++ trailing).length ≤ 65535) {payload : Bytes} {len : Int}
    {pixelFormat warnings : UInt8}
    (hview : vtremoteHandleConfigureAck payload len =
      .ok ⟨record.bytes ++ trailing, pixelFormat, warnings⟩) :
    exists annexb, encoderAck alloc record.codecId payload len = .ok annexb ∧
      annexb.bytes = markAll [0, 0, 0, 1] record.units := by
  have hhead := record.head_bytes trailing
  unfold encoderAck
  cases record with
  | avcC r =>
      have hlength : 6 < (r.bytes ++ trailing).length := by
        unfold AvccRecord.bytes
        simp only [List.length_append, List.length_cons, r.header_length]
        omega
      have hconvert := convertAvcc_parse alloc (r.parse trailing)
      rw [if_pos (halloc _)] at hconvert
      have hack := configureAckExtradata_avcC alloc { out := none, outSize := 0 } hview
        hlength hhead
      dsimp only [bytes] at hack
      rw [hconvert] at hack
      dsimp only [codecId] at hack ⊢
      rw [hack]
      exact ⟨_, rfl, List.take_left⟩
  | hvcC r =>
      have hconvert : forall o, vtremoteHevcExtradataToAnnexb alloc (r.bytes ++ trailing) o =
          some (0, ⟨(HvccVars.behind r.bytes.length r.units).buf,
            (HvccVars.behind r.bytes.length r.units).size⟩) := by
        intro o
        unfold vtremoteHevcExtradataToAnnexb
        rw [convertHvcc_exact halloc r trailing hlimit]
      have hack : configureAckExtradata alloc .hevc payload len
          { out := none, outSize := 0 } =
          some (0, ⟨(HvccVars.behind r.bytes.length r.units).buf,
            (HvccVars.behind r.bytes.length r.units).size⟩) := by
        unfold configureAckExtradata
        rw [hview]
        dsimp only [bytes] at hhead ⊢
        cases hbytes : r.bytes ++ trailing with
        | nil =>
            rw [hbytes] at hhead
            cases hhead
        | cons first rest =>
            dsimp only
            rw [<- hbytes, hconvert]
            rfl
      dsimp only [codecId]
      rw [hack]
      exact ⟨_, rfl, HvccVars.behind_bytes _ _⟩

/-!
## The decoder's session
-/

variable {record} {units : List NALUnit} {sets : List Bytes}

theorem FirstSets.ne_nil (h : record.FirstSets sets) : record.units ≠ [] := by
  have hfirst : forall {nalType : UInt8 -> Nat} {type : Nat} {unit : Bytes},
      FirstOf nalType record.units type unit -> record.units ≠ [] := by
    intro nalType type unit hof hnil
    rcases hof with ⟨front, rest, hunits, _⟩
    rw [hnil] at hunits
    cases front with
    | nil => cases hunits
    | cons first front => cases hunits
  unfold FirstSets at h
  cases record with
  | avcC r =>
      cases h with
      | cons hsps _ => exact hfirst hsps
  | hvcC r =>
      cases h with
      | cons hvps _ => exact hfirst hvps

theorem splitNALUnits_units (h : record.Holds units) (hne : record.units ≠ []) :
    splitNALUnits (markAll [0, 0, 0, 1] record.units) = record.units := by
  have hunits : units ≠ [] := by
    intro hnil
    apply hne
    rw [h.units, hnil]
    rfl
  have hsplit := splitNALUnits_startCoded hunits
  rw [startCoded_eq, <- h.units] at hsplit
  exact hsplit

/-- The bytes behind the first start code are no name of an atom. -/
theorem stripAtomHeader_units (h : record.Holds units) :
    stripAtomHeaderIfPresent (markAll [0, 0, 0, 1] record.units) record.codec.atom =
      markAll [0, 0, 0, 1] record.units := by
  cases hunits : record.units with
  | nil => rfl
  | cons unit rest =>
      rcases h.types unit (hunits ▸ List.mem_cons_self) with
        ⟨type, hallowed, first, hfirst, htype⟩
      have hatom : record.codec.atom.head? ≠ some first := by
        intro hname
        rw [<- htype] at hallowed
        cases record with
        | avcC r =>
            cases hname
            exact absurd hallowed (show h264NalType 97 ∉ [7, 8] by decide)
        | hvcC r =>
            cases hname
            exact absurd hallowed (show hevcNalType 104 ∉ [32, 33, 34, 39, 40] by decide)
      unfold stripAtomHeaderIfPresent
      split
      · rfl
      · split
        · rename_i hname
          cases unit with
          | nil => cases hfirst
          | cons byte bytes =>
              cases hfirst
              rw [<- hname, markAll_cons] at hatom
              exact absurd rfl hatom
        · rfl

theorem not_isRecord_units (record : CodecRecord) (units : List Bytes) :
    ¬ record.codec.IsRecord (markAll [0, 0, 0, 1] units) := by
  have hhead : (markAll [0, 0, 0, 1] units).head? ≠ some 1 := by
    cases units with
    | nil => exact fun h => by cases h
    | cons unit rest =>
        rw [markAll_cons]
        exact fun h => by cases h
  cases record with
  | avcC r => exact fun h => hhead h.2
  | hvcC r => exact fun h => hhead h.2

theorem formatDescription_units (frameworks : DecoderFrameworks) (h : record.Holds units)
    (hsets : record.FirstSets sets) :
    formatDescriptionFromAnnexB frameworks (markAll [0, 0, 0, 1] record.units) record.codec 4 =
      (frameworks.create (.parameterSets sets 4)).map fun _ => .parameterSets sets 4 := by
  have hsplit := splitNALUnits_units h hsets.ne_nil
  unfold formatDescriptionFromAnnexB
  rw [hsplit]
  unfold FirstSets at hsets
  cases record with
  | avcC r =>
      cases hsets with
      | cons hsps hrest =>
          cases hrest with
          | cons hpps hnil =>
              cases hnil
              dsimp only [codec, nalType] at hsps hpps ⊢
              unfold formatDescriptionH264
              rw [hsps.firstOfType, hpps.firstOfType]
              dsimp only
              cases frameworks.create _ with
              | error e => rfl
              | ok _ => rfl
  | hvcC r =>
      cases hsets with
      | cons hvps hrest =>
          cases hrest with
          | cons hsps hrest =>
              cases hrest with
              | cons hpps hnil =>
                  cases hnil
                  dsimp only [codec, nalType] at hvps hsps hpps ⊢
                  unfold formatDescriptionHEVC
                  rw [hvps.firstOfType, hsps.firstOfType, hpps.firstOfType]
                  dsimp only
                  cases frameworks.create _ with
                  | error e => rfl
                  | ok _ => rfl

end CodecRecord

def DecoderFrameworks.opened (frameworks : DecoderFrameworks) (description : FormatDescription)
    (nalLength : NALLength) : Except Failure DecoderSession := do
  called (frameworks.create description)
  called frameworks.decompressionSession
  pure { nalLengthField := nalLength, formatDescription := description }

theorem setupDecoderSession_units {record : CodecRecord} {units : List NALUnit}
    {sets : List Bytes} (frameworks : DecoderFrameworks) (h : record.Holds units)
    (hsets : record.FirstSets sets) {config : SetupConfiguration}
    (hcodec : config.codec = record.codec)
    (hextradata : config.configExtradata = some (markAll [0, 0, 0, 1] record.units))
    {format : CVPixelFormat} (hpix : pickCVPixelFormat config.pixelFormat = .ok format) :
    setupDecoderSession frameworks config =
      frameworks.opened (.parameterSets sets 4) .four := by
  have hunits : markAll [0, 0, 0, 1] record.units ≠ [] := by
    cases hcons : record.units with
    | nil => exact absurd hcons hsets.ne_nil
    | cons unit rest =>
        rw [markAll_cons]
        exact List.cons_ne_nil _ _
  have hstrip := CodecRecord.stripAtomHeader_units h
  have hrecord := CodecRecord.not_isRecord_units record record.units
  have hlength : setupDecoderLength config = .four := by
    unfold setupDecoderLength
    dsimp only
    rw [hextradata, Option.getD_some, hcodec, hstrip, if_neg hrecord]
  have hdescribe : describe frameworks config (markAll [0, 0, 0, 1] record.units) =
      (called (frameworks.create (.parameterSets sets 4))).map
        fun _ => .parameterSets sets 4 := by
    unfold describe
    rw [hcodec, if_neg hrecord, CodecRecord.formatDescription_units frameworks h hsets]
    cases frameworks.create (.parameterSets sets 4) with
    | error e => rfl
    | ok _ => rfl
  unfold setupDecoderSession DecoderFrameworks.opened
  rw [hpix, hextradata, Option.getD_some, hcodec]
  simp only [bind, Except.bind]
  rw [if_neg hunits, hstrip, hdescribe, hlength]
  cases called (frameworks.create (.parameterSets sets 4)) with
  | error e => rfl
  | ok _ => rfl

theorem pickCVPixelFormat_wirePixFmt {pixFmt : AVPixelFormat} {pix : UInt8}
    (h : wirePixFmt pixFmt = .ok pix) : exists format, pickCVPixelFormat pix = .ok format := by
  cases pixFmt with
  | nv12 =>
      cases h
      exact ⟨.biPlanar8, rfl⟩
  | p010le =>
      cases h
      exact ⟨.biPlanar10, rfl⟩
  | p010be => cases h
  | other format => cases h

/-- An encoder's session answers the atom of the frame that warmed it up. -/
theorem configure_extradata {appleSilicon : Bool} {encoder : Frameworks}
    {config : SetupConfiguration} {session : VideoToolboxCodecSession}
    {data extradata : List UInt8} (hmode : config.mode = .encode)
    (hsample : forall time, encoder.warmupSample time = some (some data))
    (hne : extradata ≠ [])
    (h : configure appleSilicon encoder config = .ok (session, extradata)) :
    extradata = stripAtomHeaderIfPresent data config.codec.atom := by
  unfold configure at h
  rw [hmode] at h
  dsimp only at h
  rcases swift_bind_eq_ok h with ⟨cvPixelFormat, _, h⟩
  rcases swift_bind_eq_ok h with ⟨sample, hwarmup, h⟩
  cases h
  unfold warmup at hwarmup
  by_cases hbuffer : encoder.pixelBuffer config.width config.height cvPixelFormat = true
  · rw [if_pos hbuffer] at hwarmup
    rcases swift_bind_eq_ok hwarmup with ⟨timescale, _, hpure⟩
    cases hpure
    rw [hsample]
    rfl
  · rw [if_neg hbuffer] at hwarmup
    cases hwarmup
    exact absurd rfl hne

/-!
## The trip
-/

theorem length_markAll_le (runs : List Bytes) :
    (markAll [0, 0, 0, 1] runs).length ≤ 2 * (prefixAll 2 runs).length := by
  induction runs with
  | nil => exact Nat.le_refl 0
  | cons run rest ih =>
      rw [length_markAll_cons, length_prefixAll_cons]
      show 4 + run.length + (markAll [0, 0, 0, 1] rest).length ≤ _
      omega

theorem length_prefixAll_units (record : CodecRecord) :
    (prefixAll 2 record.units).length ≤ record.bytes.length := by
  cases record with
  | avcC r =>
      show (prefixAll 2 (r.sps ++ r.pps)).length ≤ r.bytes.length
      unfold AvccRecord.bytes
      rw [prefixAll_append]
      simp only [List.length_append, List.length_cons]
      omega
  | hvcC r =>
      show (prefixAll 2 (r.arrays.flatMap HvccArray.units)).length ≤
        (r.header ++ (UInt8.ofNat r.arrays.length ::
          r.arrays.flatMap HvccArray.bytes)).length
      have harrays : forall arrays : List HvccArray,
          (prefixAll 2 (arrays.flatMap HvccArray.units)).length ≤
            (arrays.flatMap HvccArray.bytes).length := by
        intro arrays
        induction arrays with
        | nil => exact Nat.le_refl 0
        | cons array rest ih =>
            have hbytes : array.bytes = array.nalType ::
                (BigEndian.digits 2 array.units.length ++ prefixAll 2 array.units) := rfl
            rw [List.flatMap_cons, List.flatMap_cons, prefixAll_append, hbytes]
            simp only [List.length_append, List.length_cons]
            omega
      have hall := harrays r.arrays
      rw [List.length_append, List.length_cons]
      omega

/-- If the record fits the length word of an acknowledgement and memory is granted, the
session of a decoder is described by the first parameter sets of the record of the
encoder's session, with lengths of four bytes. -/
theorem parameterSets_arrive (canonical : String -> String) (hcanonical : KeepsAscii canonical)
    (record : CodecRecord) (units : List NALUnit) (hunits : record.Holds units)
    (sets : List Bytes) (hsets : record.FirstSets sets) (appleSilicon : Bool)
    (encoder : Frameworks) (encoding : SetupConfiguration) (hmode : encoding.mode = .encode)
    (hcodec : encoding.codec = record.codec) (data trailing : List UInt8)
    (hsample : forall time, encoder.warmupSample time = some (some data))
    (hstrip : stripAtomHeaderIfPresent data record.codec.atom = record.bytes ++ trailing)
    (hlimit : (record.bytes ++ trailing).length ≤ 65535)
    (session : VideoToolboxCodecSession) (extradata : List UInt8)
    (hconfigure : configure appleSilicon encoder encoding = .ok (session, extradata))
    (hne : extradata ≠ []) (alloc : Allocator) (halloc : forall size, alloc size = true)
    (pixelFormat warnings : UInt8) (frameworks : DecoderFrameworks) :
    exists annexb,
      encoderAck alloc record.codecId
          (ConfigureAckResponse.mk 0 extradata pixelFormat warnings).encode
          (cInt (ConfigureAckResponse.mk 0 extradata pixelFormat warnings).encode.length) =
        .ok annexb ∧
      forall (avctx : AVDecoderContext) (wireCompression : Int32) (pix : UInt8),
        avctx.extradata = annexb.bytes -> wirePixFmt avctx.pixFmt = .ok pix ->
        exists request : ConfigureRequest canonical,
          ConfigureRequest.decode canonical
              ((decoderSide avctx wireCompression).configureBytes pix) = .ok request ∧
          setupDecoderSession frameworks (SetupConfiguration.init canonical
              (VideoCodec.ofName canonical (codecNameForId record.codecId)) request) =
            frameworks.opened (.parameterSets sets 4) .four := by
  have hextradata := configure_extradata hmode hsample hne hconfigure
  rw [hcodec, hstrip] at hextradata
  have hview := @vtremoteHandleConfigureAck_encode extradata pixelFormat warnings
    (hextradata ▸ hlimit)
  rw [hextradata] at hview ⊢
  rcases record.encoderAck_record trailing halloc hlimit hview with ⟨annexb, hack, hbytes⟩
  refine ⟨annexb, hack, ?_⟩
  intro avctx wireCompression pix hcontext hpix
  have hlength : avctx.extradata.length < 268435456 := by
    have hmark := length_markAll_le record.units
    have hprefix := length_prefixAll_units record
    rw [List.length_append] at hlimit
    rw [hcontext, hbytes]
    omega
  have hfits := decoderSide_fits avctx wireCompression hlength
  refine ⟨(decoderSide avctx wireCompression).request canonical pix,
    hfits.decode canonical pix, ?_⟩
  have hname : VideoCodec.ofName canonical (codecNameForId record.codecId) =
      record.codec := by
    rw [ofName_codecNameForId hcanonical, record.codecId_videoCodec]
  have hblob : avctx.extradata = markAll [0, 0, 0, 1] record.units := hcontext.trans hbytes
  have hrequest : ((decoderSide avctx wireCompression).request canonical pix).extradata =
      some (markAll [0, 0, 0, 1] record.units) := by
    show (if avctx.extradata.isEmpty then none else some avctx.extradata) = _
    rw [hblob]
    cases hcons : record.units with
    | nil => exact absurd hcons hsets.ne_nil
    | cons unit rest => rfl
  rcases pickCVPixelFormat_wirePixFmt hpix with ⟨format, hformat⟩
  exact setupDecoderSession_units frameworks hunits hsets hname hrequest hformat

def shortRecord : AvccRecord where
  header := [1, 0x4d, 0, 0x28, 0xff]
  header_length := rfl
  version := rfl
  spsByte := 0xe1
  sps := [[0x67, 0x4d]]
  spsCount := by decide
  spsFit := .cons (by decide) (fitting_nil 2)
  pps := [[0x68, 5]]
  ppsCount := Nat.le_of_ble_eq_true rfl
  ppsFit := .cons (by decide) (fitting_nil 2)

def shortRecordUnits : List NALUnit :=
  [⟨[0x67, 0x4d], by decide, by decide, by decide, by decide⟩,
    ⟨[0x68, 5], by decide, by decide, by decide, by decide⟩]

def shortEncoder : Frameworks where
  compressionSession _ _ := .ok ()
  pixelBuffer _ _ _ := true
  warmupSample _ := some (some shortRecord.bytes)
  formatDescription _ _ _ := .ok ()
  parameterSets _ := .ok ()
  decompressionSession := .ok ()

def shortEncoding : SetupConfiguration where
  mode := .encode
  width := 64
  height := 48
  pixelFormat := 1
  wireCompression := 0
  codec := .h264
  timebase := Timebase.init 1 25
  flags := 0
  bitrate := 0
  configExtradata := none

def willing : DecoderFrameworks where
  create _ := .ok ()
  decompressionSession := .ok ()

theorem parameterSets_arrive_short :
    exists annexb,
      encoderAck (fun _ => true) .h264
          (ConfigureAckResponse.mk 0 shortRecord.bytes 1 0).encode
          (cInt (ConfigureAckResponse.mk 0 shortRecord.bytes 1 0).encode.length) =
        .ok annexb ∧
      forall (avctx : AVDecoderContext) (wireCompression : Int32) (pix : UInt8),
        avctx.extradata = annexb.bytes -> wirePixFmt avctx.pixFmt = .ok pix ->
        exists request : ConfigureRequest id,
          ConfigureRequest.decode id
              ((decoderSide avctx wireCompression).configureBytes pix) = .ok request ∧
          setupDecoderSession willing (SetupConfiguration.init id
              (VideoCodec.ofName id (codecNameForId .h264)) request) =
            .ok ⟨.four, .parameterSets [[0x67, 0x4d], [0x68, 5]] 4⟩ := by
  have hsps : OfType h264NalType 7 [0x67, 0x4d] := ⟨0x67, rfl, by decide⟩
  have hpps : OfType h264NalType 8 [0x68, 5] := ⟨0x68, rfl, by decide⟩
  have hunits : (CodecRecord.avcC shortRecord).Holds shortRecordUnits :=
    { units := rfl
      types := by
        intro unit hmem
        rcases List.mem_cons.mp hmem with rfl | hmem
        · exact ⟨7, by decide, hsps⟩
        · rcases List.mem_singleton.mp hmem with rfl
          exact ⟨8, by decide, hpps⟩ }
  have hnot : ¬ OfType h264NalType 8 [0x67, 0x4d] := by
    intro h
    rcases h with ⟨first, hfirst, htype⟩
    cases hfirst
    exact absurd htype (by decide)
  have hfirstSps : FirstOf h264NalType [[0x67, 0x4d], [0x68, 5]] 7 [0x67, 0x4d] :=
    ⟨[], [[0x68, 5]], rfl, fun other hmem => absurd hmem List.not_mem_nil, hsps⟩
  have hfirstPps : FirstOf h264NalType [[0x67, 0x4d], [0x68, 5]] 8 [0x68, 5] := by
    refine ⟨[[0x67, 0x4d]], [], rfl, ?_, hpps⟩
    intro other hmem
    rcases List.mem_singleton.mp hmem with rfl
    exact hnot
  have hsets : (CodecRecord.avcC shortRecord).FirstSets [[0x67, 0x4d], [0x68, 5]] :=
    .cons hfirstSps (.cons hfirstPps .nil)
  exact parameterSets_arrive id (fun _ _ => rfl) (.avcC shortRecord) shortRecordUnits hunits
    [[0x67, 0x4d], [0x68, 5]] hsets true shortEncoder shortEncoding rfl rfl shortRecord.bytes []
    (fun _ => rfl) rfl (by decide) _ shortRecord.bytes rfl (by decide) (fun _ => true)
    (fun _ => rfl) 1 0 willing

end VTRemote
