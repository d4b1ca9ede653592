import VTRemote.Server.LengthPrefixes
import VTRemote.Server.SessionSetup
import VTRemote.Server.TimestampRuns

/-!
# Samples out of the encoder

The output callback of the compression session, `handleEncodedSampleBuffer`
with the message that it sends, and the frame that warms the encoder up.  What
the framework's objects hold is given by the values that are asked of them.
-/

namespace VTRemote

/-!
## Samples
-/

structure CMFormatDescription where
  avcC : Option (List UInt8)
  hvcC : Option (List UInt8)
deriving DecidableEq, Repr

def sampleDescriptionAtom (fmt : CMFormatDescription) :
    VideoCodec -> Option (List UInt8)
  | .h264 => fmt.avcC
  | .hevc => fmt.hvcC

/-- There is no decoding time unless it is valid and numeric, and no duration
unless it is numeric.  `notSync` is an attachment of the sample. -/
structure CMSampleBuffer where
  dataBuffer : Option (List UInt8)
  formatDescription : Option CMFormatDescription
  presentationTimeStamp : CMTime
  decodeTimeStamp : Option CMTime
  duration : Option CMTime
  notSync : Bool
deriving DecidableEq, Repr

/-- What the callback is called with.  It failed with an error status, without
a sample, and with one that is not ready. -/
inductive EncoderOutput where
  | failed
  | encoded (sampleBuffer : CMSampleBuffer)
deriving DecidableEq, Repr

def EncoderOutput.HasData : EncoderOutput -> Prop
  | .failed => False
  | .encoded sbuf => sbuf.dataBuffer.isSome

instance : DecidablePred EncoderOutput.HasData
  | .failed => inferInstanceAs (Decidable False)
  | .encoded _ => inferInstanceAs (Decidable (_ = true))

/-- `RationalTime(value:timescale:)`. -/
def CMTime.rational (time : CMTime) : RationalTime :=
  RationalTime.init time.value time.timescale

/-!
## The session
-/

/-- `Int((byte & 0x3) + 1)`. -/
def NALLength.ofByte (byte : UInt8) : NALLength where
  size := (byte &&& 3).toNat + 1
  pos := Nat.succ_pos _
  le := by
    rw [UInt8.toNat_and]
    exact Nat.succ_le_succ Nat.and_le_right

/-- The fields that the callbacks work on besides.  The semaphore is its
count. -/
structure EncoderSession extends VideoToolboxCodecSession where
  encoderExtradata : Option (List UInt8) := none
  nalLengthField : NALLength := .four
  warmupPending : Bool := false
  warmupSemaphore : Nat := 0
  timestampTracker : TimestampTracker := {}

open TimestampTracker

namespace EncoderSession

def capturedLength (s : EncoderSession) (codec : VideoCodec)
    (data extra : List UInt8) : NALLength :=
  match codec with
  | .h264 =>
      if 4 < data.length then .ofByte (data.getD 4 0) else s.nalLengthField
  | .hevc =>
      if 21 < extra.length then .ofByte (extra.getD 21 0) else s.nalLengthField

/-- `// Capture extradata once.` -/
def captureExtradata (s : EncoderSession) (codec : VideoCodec)
    (sbuf : CMSampleBuffer) : EncoderSession :=
  match s.encoderExtradata, sbuf.formatDescription with
  | none, some fmt =>
      match sampleDescriptionAtom fmt codec with
      | none => s
      | some data =>
          let extra := stripAtomHeaderIfPresent data codec.atom
          { s with
            encoderExtradata := some extra
            nalLengthField := s.capturedLength codec data extra }
  | _, _ => s

/-- What the PACKET of a sample is written from.  `dtsTicks` is the timestamp
before, `dts` the one behind the tracker. -/
structure EncodedPacket where
  ptsTicks : Int64
  dtsTicks : Int64
  dts : Int64
  durTicks : Int64
  isKey : Bool
  annex : List UInt8
deriving DecidableEq, Repr

/-- What becomes of an output: there is nothing in it, or the warm-up takes it,
or it is a duplicate, or it is sent. -/
inductive Fate where
  | nothing
  | discarded
  | skipped
  | emitted (packet : EncodedPacket)
deriving DecidableEq, Repr

def durationTicks (config : ClientConfiguration) (sbuf : CMSampleBuffer) :
    Except Failure Int64 :=
  match sbuf.duration with
  | some dur => config.timebase.ticks dur.rational
  | none => .ok 0

/-- Past the warm-up: the sample is converted and the tracker is asked. -/
def processSample (s : EncoderSession) (config : ClientConfiguration)
    (sbuf : CMSampleBuffer) (block : List UInt8) :
    Except Failure (EncoderSession × Fate) := do
  let annex ← convertToAnnexB block s.nalLengthField
  let pts := sbuf.presentationTimeStamp
  let ptsTicks ← config.timebase.ticks pts.rational
  let dtsTime := sbuf.decodeTimeStamp.getD pts
  let dtsTicks ← config.timebase.ticks dtsTime.rational
  let (result, tracker) ← s.timestampTracker.process ptsTicks dtsTicks
  let s := { s with timestampTracker := tracker }
  match result with
  | .skip => pure (s, .skipped)
  | .emit dts =>
      let durTicks ← durationTicks config sbuf
      let isKey := !sbuf.notSync
      pure (s, .emitted { ptsTicks, dtsTicks, dts, durTicks, isKey, annex })

/-- Up to the sending of the message. -/
def handleEncodedSampleBuffer (s : EncoderSession) (sbuf : CMSampleBuffer) :
    Except Failure (EncoderSession × Fate) :=
  match s.config, sbuf.dataBuffer with
  | some config, some block =>
      let s := s.captureExtradata config.codec sbuf
      if s.warmupPending = true then
        let s := { s with
          warmupPending := false
          forceKeyframeNext := true
          warmupSemaphore := s.warmupSemaphore + 1 }
        .ok (s, .discarded)
      else s.processSample config sbuf block
  | _, _ => .ok (s, .nothing)

def outputCallback (s : EncoderSession) : EncoderOutput ->
    Except Failure (EncoderSession × Fate)
  | .failed => .ok (s, .nothing)
  | .encoded sbuf => s.handleEncodedSampleBuffer sbuf

def presented (s : EncoderSession) : EncoderOutput -> Option Int64
  | .failed => none
  | .encoded sbuf =>
      match s.config, sbuf.dataBuffer, s.warmupPending with
      | some config, some _, false =>
          (config.timebase.ticks sbuf.presentationTimeStamp.rational).toOption
      | _, _, _ => none

def EncodedPacket.body (packet : EncodedPacket) : Except Failure (List UInt8) :=
  encodedSampleMessage packet.ptsTicks packet.dts packet.durTicks packet.isKey
    packet.annex

/-!
## The warm-up
-/

/-- `warmup` up to its wait, and whether a frame was submitted.  `pixelBuffer`
says whether one could be created. -/
def beginWarmup (s : EncoderSession) (pixelBuffer : Bool) :
    Except Failure (EncoderSession × Bool) := do
  match s.compressionSession, s.config with
  | true, some config =>
      let s := { s with warmupPending := true }
      if pixelBuffer then
        let _ ← swiftInt32 (max 1 config.timebase.den)
        pure (s, true)
      else pure ({ s with warmupPending := false }, false)
  | _, _ => pure (s, false)

/-- The wait takes a signal if there is one.  Whether it timed out is not
asked. -/
def endWarmup (s : EncoderSession) : EncoderSession :=
  { s with warmupSemaphore := s.warmupSemaphore - 1 }

/-!
## What a callback does
-/

section Callback

variable {s s' : EncoderSession} {fate : Fate}

theorem captureExtradata_eq (s : EncoderSession) (codec : VideoCodec)
    (sbuf : CMSampleBuffer) :
    exists extradata nalLength, s.captureExtradata codec sbuf =
      { s with encoderExtradata := extradata, nalLengthField := nalLength } := by
  unfold captureExtradata
  split
  · split
    · exact ⟨_, _, rfl⟩
    · exact ⟨_, _, rfl⟩
  · exact ⟨_, _, rfl⟩

/-- The tracker is asked once, and its answer is the fate of the sample. -/
theorem processSample_eq_ok {config : ClientConfiguration}
    {sbuf : CMSampleBuffer} {block : List UInt8}
    (h : s.processSample config sbuf block = .ok (s', fate)) :
    exists (call : TimestampTracker.Call) (result : TimestampTracker.Result)
      (tracker : TimestampTracker),
      config.timebase.ticks sbuf.presentationTimeStamp.rational =
        .ok call.ptsTicks ∧
      s.timestampTracker.process call.ptsTicks call.dtsTicks =
        .ok (result, tracker) ∧
      s' = { s with timestampTracker := tracker } ∧
      (result = .skip ∧ fate = .skipped ∨
        exists packet, result = .emit packet.dts ∧ fate = .emitted packet ∧
          packet.ptsTicks = call.ptsTicks ∧ packet.dtsTicks = call.dtsTicks) := by
  unfold processSample at h
  rcases swift_bind_eq_ok h with ⟨annex, _, h⟩
  rcases swift_bind_eq_ok h with ⟨ptsTicks, hpts, h⟩
  rcases swift_bind_eq_ok h with ⟨dtsTicks, _, h⟩
  rcases swift_bind_eq_ok h with ⟨⟨result, tracker⟩, hprocess, h⟩
  refine ⟨⟨ptsTicks, dtsTicks⟩, result, tracker, hpts, hprocess, ?_⟩
  cases result with
  | skip =>
      cases h
      exact ⟨rfl, .inl ⟨rfl, rfl⟩⟩
  | emit dts =>
      dsimp only at h
      rcases swift_bind_eq_ok h with ⟨durTicks, _, h⟩
      cases h
      exact ⟨rfl, .inr ⟨_, rfl, rfl, rfl, rfl⟩⟩

/-- Without data nothing happens; the warm-up takes a sample while it is pending;
every other sample goes to the tracker. -/
theorem outputCallback_eq_ok {output : EncoderOutput}
    (h : s.outputCallback output = .ok (s', fate)) :
    (¬ (output.HasData ∧ s.config.isSome = true) ∧ s' = s ∧ fate = .nothing) ∨
    exists sbuf block config, output = .encoded sbuf ∧
      sbuf.dataBuffer = some block ∧ s.config = some config ∧
      ((s.warmupPending = true ∧ fate = .discarded ∧
        s' = { s.captureExtradata config.codec sbuf with
          warmupPending := false
          forceKeyframeNext := true
          warmupSemaphore := s.warmupSemaphore + 1 }) ∨
      (s.warmupPending = false ∧
        (s.captureExtradata config.codec sbuf).processSample config sbuf block =
          .ok (s', fate))) := by
  cases output with
  | failed =>
      cases h
      exact .inl ⟨fun hdata => hdata.1, rfl, rfl⟩
  | encoded sbuf =>
      unfold outputCallback handleEncodedSampleBuffer at h
      dsimp only at h
      cases hconfig : s.config with
      | none =>
          rw [hconfig] at h
          cases h
          exact .inl ⟨fun hdata => (nomatch hdata.2), rfl, rfl⟩
      | some config =>
          cases hblock : sbuf.dataBuffer with
          | none =>
              rw [hconfig, hblock] at h
              cases h
              left
              refine ⟨?_, rfl, rfl⟩
              intro h
              rcases h with ⟨hdata, _⟩
              change sbuf.dataBuffer.isSome = true at hdata
              rw [hblock] at hdata
              cases hdata
          | some block =>
              rw [hconfig, hblock] at h
              refine .inr ⟨sbuf, block, config, rfl, hblock, rfl, ?_⟩
              rcases captureExtradata_eq s config.codec sbuf with
                ⟨extradata, nalLength, hcapture⟩
              dsimp only at h
              split at h
              · rename_i hpending
                cases h
                rw [hcapture] at hpending ⊢
                exact .inl ⟨hpending, rfl, rfl⟩
              · rename_i hpending
                rw [hcapture] at hpending
                exact .inr ⟨Bool.eq_false_iff.mpr hpending, h⟩

theorem outputCallback_tracker {output : EncoderOutput}
    (h : s.outputCallback output = .ok (s', fate)) :
    (exists packet, fate = .emitted packet ∧
      s.timestampTracker.process packet.ptsTicks packet.dtsTicks =
        .ok (.emit packet.dts, s'.timestampTracker) ∧
      s.presented output = some packet.ptsTicks) ∨
    ((forall packet, fate ≠ .emitted packet) ∧
      s'.timestampTracker = s.timestampTracker) := by
  rcases outputCallback_eq_ok h with ⟨_, rfl, rfl⟩ |
    ⟨sbuf, block, config, rfl, hblock, hconfig, ⟨_, rfl, rfl⟩ | ⟨hpending, h⟩⟩
  · exact .inr ⟨nofun, rfl⟩
  · rcases captureExtradata_eq s config.codec sbuf with ⟨_, _, hcapture⟩
    rw [hcapture]
    exact .inr ⟨nofun, rfl⟩
  · rcases captureExtradata_eq s config.codec sbuf with ⟨_, _, hcapture⟩
    rw [hcapture] at h
    rcases processSample_eq_ok h with ⟨call, result, tracker, hticks, hprocess,
      rfl, ⟨rfl, rfl⟩ | ⟨packet, rfl, rfl, hpts, hdts⟩⟩
    · exact .inr ⟨nofun, (process_eq_skip hprocess).2⟩
    · left
      refine ⟨packet, rfl, ?_, ?_⟩
      · rw [hpts, hdts]
        exact hprocess
      · unfold presented
        simp only [hconfig, hblock, hpending]
        rw [hticks, hpts]
        rfl

theorem outputCallback_flags {output : EncoderOutput}
    (h : s.outputCallback output = .ok (s', fate)) :
    s'.config = s.config ∧
    ((output.HasData ∧ s.config.isSome = true ∧ s.warmupPending = true ∧
        fate = .discarded ∧ s'.warmupPending = false ∧
        s'.forceKeyframeNext = true) ∨
      (¬ (output.HasData ∧ s.config.isSome = true ∧ s.warmupPending = true) ∧
        fate ≠ .discarded ∧ s'.warmupPending = s.warmupPending ∧
        s'.forceKeyframeNext = s.forceKeyframeNext)) := by
  rcases outputCallback_eq_ok h with ⟨hnothing, rfl, rfl⟩ |
    ⟨sbuf, block, config, rfl, hblock, hconfig, ⟨hpending, rfl, rfl⟩ | ⟨hpending, h⟩⟩
  · exact ⟨rfl, .inr ⟨fun hall => hnothing ⟨hall.1, hall.2.1⟩, nofun, rfl, rfl⟩⟩
  · rcases captureExtradata_eq s config.codec sbuf with ⟨_, _, hcapture⟩
    rw [hcapture]
    have hdata : (EncoderOutput.encoded sbuf).HasData := by
      show sbuf.dataBuffer.isSome = true
      rw [hblock]
      rfl
    have hsome : s.config.isSome = true := by
      rw [hconfig]
      rfl
    exact ⟨rfl, .inl ⟨hdata, hsome, hpending, rfl, rfl, rfl⟩⟩
  · rcases captureExtradata_eq s config.codec sbuf with ⟨_, _, hcapture⟩
    rw [hcapture] at h
    rcases processSample_eq_ok h with ⟨_, _, _, _, _, rfl, hfate⟩
    have hkept : fate ≠ .discarded := by
      rcases hfate with ⟨_, rfl⟩ | ⟨_, _, rfl, _⟩
      · exact nofun
      · exact nofun
    refine ⟨rfl, .inr ⟨?_, hkept, rfl, rfl⟩⟩
    intro hall
    rw [hpending] at hall
    exact Bool.false_ne_true hall.2.2

theorem outputCallback_discards {output : EncoderOutput} (hdata : output.HasData)
    (hconfig : s.config.isSome = true) (hpending : s.warmupPending = true) :
    exists s', s.outputCallback output = .ok (s', .discarded) := by
  cases output with
  | failed => exact hdata.elim
  | encoded sbuf =>
      change sbuf.dataBuffer.isSome = true at hdata
      rcases Option.isSome_iff_exists.mp hdata with ⟨block, hblock⟩
      rcases Option.isSome_iff_exists.mp hconfig with ⟨config, hconfig⟩
      rcases captureExtradata_eq s config.codec sbuf with ⟨_, _, hcapture⟩
      unfold outputCallback handleEncodedSampleBuffer
      dsimp only
      rw [hconfig, hblock]
      dsimp only
      rw [hcapture, if_pos hpending]
      exact ⟨_, rfl⟩

theorem hasData_of_emitted {output : EncoderOutput} {packet : EncodedPacket}
    (h : s.outputCallback output = .ok (s', .emitted packet)) : output.HasData := by
  rcases outputCallback_eq_ok h with ⟨_, _, hfate⟩ |
    ⟨sbuf, block, _, rfl, hblock, _⟩
  · cases hfate
  · show sbuf.dataBuffer.isSome = true
    rw [hblock]
    rfl

end Callback

end EncoderSession
end VTRemote
