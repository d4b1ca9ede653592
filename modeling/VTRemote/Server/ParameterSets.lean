import VTRemote.Server.LengthFields

/-!
# Sessions that decode

`setupDecoder` with the format description that it leaves in the session, and the sample
that `handlePacketMessage` makes of a PACKET.  Extradata that is no record is searched
for the first parameter set of each type.
-/

namespace VTRemote

open AnnexB

/-- What the frameworks are asked to describe a stream with. -/
inductive FormatDescription where
  | atom (width height : Nat) (data : List UInt8)
  | parameterSets (sets : List (List UInt8)) (nalUnitHeaderLength : Nat)
deriving DecidableEq, Repr

/-- The answers to `CMVideoFormatDescriptionCreate...` and to
`VTDecompressionSessionCreate`. -/
structure DecoderFrameworks where
  create : FormatDescription -> Except VTRemotedError Unit
  decompressionSession : Except VTRemotedError Unit

structure DecoderSession where
  nalLengthField : NALLength
  formatDescription : FormatDescription

/-!
## Parameter sets
-/

/-- `if nalType == wanted, kept == nil { kept = unit }`. -/
def keepFirst (nalType : UInt8 -> Nat) (wanted : Nat) (kept : Option (List UInt8))
    (unit : List UInt8) : Option (List UInt8) :=
  match unit.head? with
  | none => kept
  | some first => if nalType first = wanted ∧ kept = none then some unit else kept

def firstOfType (nalType : UInt8 -> Nat) (units : List (List UInt8)) (wanted : Nat) :
    Option (List UInt8) :=
  units.foldl (keepFirst nalType wanted) none

def h264NalType (first : UInt8) : Nat := (first &&& 0x1F).toNat

def hevcNalType (first : UInt8) : Nat := ((first >>> 1) &&& 0x3F).toNat

section Descriptions

variable (frameworks : DecoderFrameworks)

def formatDescriptionH264 (units : List (List UInt8)) (nalLength : Nat) :
    Except VTRemotedError FormatDescription :=
  match firstOfType h264NalType units 7, firstOfType h264NalType units 8 with
  | some sps, some pps => do
      frameworks.create (.parameterSets [sps, pps] nalLength)
      pure (.parameterSets [sps, pps] nalLength)
  | _, _ => .error (.protocolViolation "missing SPS/PPS")

def formatDescriptionHEVC (units : List (List UInt8)) (nalLength : Nat) :
    Except VTRemotedError FormatDescription :=
  match firstOfType hevcNalType units 32, firstOfType hevcNalType units 33,
    firstOfType hevcNalType units 34 with
  | some vps, some sps, some pps => do
      frameworks.create (.parameterSets [vps, sps, pps] nalLength)
      pure (.parameterSets [vps, sps, pps] nalLength)
  | _, _, _ => .error (.protocolViolation "missing VPS/SPS/PPS")

def formatDescriptionFromAnnexB (data : List UInt8) (codec : VideoCodec) (nalLength : Nat) :
    Except VTRemotedError FormatDescription :=
  let units := splitNALUnits data
  match codec with
  | .h264 => formatDescriptionH264 frameworks units nalLength
  | .hevc => formatDescriptionHEVC frameworks units nalLength

/-- The description of a record, or of the parameter sets that are found. -/
def describe (config : SetupConfiguration) (extra : List UInt8) :
    Except Failure FormatDescription :=
  if config.codec.IsRecord extra then do
    let width ← swiftInt32 config.width
    let height ← swiftInt32 config.height
    called (frameworks.create (.atom width height extra))
    pure (.atom width height extra)
  else
    (formatDescriptionFromAnnexB frameworks extra config.codec 4).mapError Failure.thrown

/-- `setupDecoder` with what it leaves in the session. -/
def setupDecoderSession (config : SetupConfiguration) : Except Failure DecoderSession := do
  let _ ← pickCVPixelFormat config.pixelFormat
  let rawExtra := config.configExtradata.getD []
  if rawExtra = [] then throw (thrownViolation "decoder requires extradata")
  else
    let description ← describe frameworks config
      (stripAtomHeaderIfPresent rawExtra config.codec.atom)
    called frameworks.decompressionSession
    pure
      { nalLengthField := setupDecoderLength config
        formatDescription := description }

def DecoderFrameworks.answers (codec : VideoCodec) (encoder : Frameworks) : Frameworks :=
  { encoder with
    formatDescription := fun width height data => frameworks.create (.atom width height data)
    parameterSets := fun extra =>
      (formatDescriptionFromAnnexB frameworks extra codec 4).map fun _ => ()
    decompressionSession := frameworks.decompressionSession }

/-- The set-up succeeds and fails as it does without a session. -/
theorem setupDecoderSession_answers (encoder : Frameworks) (config : SetupConfiguration) :
    VideoToolboxCodecSession.setupDecoder (frameworks.answers config.codec encoder) config =
      (setupDecoderSession frameworks config).map fun _ => () := by
  unfold VideoToolboxCodecSession.setupDecoder setupDecoderSession
  cases pickCVPixelFormat config.pixelFormat with
  | error e => rfl
  | ok _ =>
      simp only [bind, Except.bind]
      by_cases hempty : config.configExtradata.getD [] = []
      · rw [if_pos hempty, if_pos hempty]
        rfl
      · rw [if_neg hempty, if_neg hempty]
        generalize stripAtomHeaderIfPresent (config.configExtradata.getD [])
          config.codec.atom = extra
        unfold describe VideoToolboxCodecSession.makeFormatDescriptionFromAtom
        by_cases hrecord : config.codec.IsRecord extra
        · rw [if_pos hrecord, if_pos hrecord]
          cases swiftInt32 config.width with
          | error e => rfl
          | ok width =>
              cases swiftInt32 config.height with
              | error e => rfl
              | ok height =>
                  simp only [bind, Except.bind, DecoderFrameworks.answers]
                  cases frameworks.create (.atom width height extra) with
                  | error e => rfl
                  | ok _ =>
                      cases frameworks.decompressionSession with
                      | error e => rfl
                      | ok _ => rfl
        · rw [if_neg hrecord, if_neg hrecord]
          simp only [DecoderFrameworks.answers]
          cases formatDescriptionFromAnnexB frameworks extra config.codec 4 with
          | error e => rfl
          | ok description =>
              cases frameworks.decompressionSession with
              | error e => rfl
              | ok _ => rfl

end Descriptions

/-!
## What the search finds
-/

section Search

variable {nalType : UInt8 -> Nat} {wanted : Nat}

def OfType (nalType : UInt8 -> Nat) (wanted : Nat) (unit : List UInt8) : Prop :=
  exists first, unit.head? = some first ∧ nalType first = wanted

def FirstOf (nalType : UInt8 -> Nat) (units : List (List UInt8)) (wanted : Nat)
    (unit : List UInt8) : Prop :=
  exists front rest, units = front ++ unit :: rest ∧
    (forall other, other ∈ front -> ¬ OfType nalType wanted other) ∧
    OfType nalType wanted unit

theorem keepFirst_some (kept unit : List UInt8) :
    keepFirst nalType wanted (some kept) unit = some kept := by
  unfold keepFirst
  cases unit.head? with
  | none => rfl
  | some first => exact if_neg fun h => by cases h.2

theorem keepFirst_none (kept : Option (List UInt8)) {unit : List UInt8}
    (h : ¬ OfType nalType wanted unit) : keepFirst nalType wanted kept unit = kept := by
  unfold keepFirst
  cases hfirst : unit.head? with
  | none => rfl
  | some first => exact if_neg fun hwanted => h ⟨first, hfirst, hwanted.1⟩

theorem foldl_keepFirst_some (units : List (List UInt8)) (kept : List UInt8) :
    units.foldl (keepFirst nalType wanted) (some kept) = some kept := by
  induction units with
  | nil => rfl
  | cons unit rest ih =>
      rw [List.foldl_cons, keepFirst_some]
      exact ih

theorem foldl_keepFirst_none {units : List (List UInt8)} (kept : Option (List UInt8))
    (h : forall unit, unit ∈ units -> ¬ OfType nalType wanted unit) :
    units.foldl (keepFirst nalType wanted) kept = kept := by
  induction units with
  | nil => rfl
  | cons unit rest ih =>
      rw [List.foldl_cons, keepFirst_none kept (h unit List.mem_cons_self)]
      exact ih fun other hmem => h other (List.mem_cons_of_mem unit hmem)

theorem FirstOf.firstOfType {units : List (List UInt8)} {unit : List UInt8}
    (h : FirstOf nalType units wanted unit) :
    firstOfType nalType units wanted = some unit := by
  rcases h with ⟨front, rest, rfl, hfront, first, hfirst, hwanted⟩
  have hkeep : keepFirst nalType wanted none unit = some unit := by
    unfold keepFirst
    rw [hfirst]
    exact if_pos ⟨hwanted, rfl⟩
  unfold VTRemote.firstOfType
  rw [List.foldl_append, foldl_keepFirst_none none hfront, List.foldl_cons, hkeep]
  exact foldl_keepFirst_some rest unit

end Search

/-!
## PACKET
-/

/-- The sample that `VTDecompressionSessionDecodeFrame` is called with. -/
structure DecoderSample where
  data : List UInt8
  timing : VideoToolboxCodecSession.CMSampleTimingInfo
  formatDescription : FormatDescription
deriving DecidableEq, Repr

/-- `handlePacketMessage` of a session that decodes, where the sample can be made. -/
def DecoderSession.handlePacketMessage (s : DecoderSession) (timebase : Timebase)
    (payload : List UInt8) : Except Failure DecoderSample := do
  let (message, _) ← readPacketMessage (ByteReader.init payload)
  let lengthPrefixed ← toLengthPrefixed message.annexB s.nalLengthField.size
  let timing ← VideoToolboxCodecSession.sampleTiming timebase message.ptsTicks
    message.dtsTicks message.durTicks
  pure { data := lengthPrefixed, timing, formatDescription := s.formatDescription }

end VTRemote
