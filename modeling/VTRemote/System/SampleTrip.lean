import VTRemote.Client.ServerStream
import VTRemote.Server.EncoderCallbacks
import VTRemote.Server.ParameterSets
import VTRemote.Server.TickConversions
import VTRemote.Server.UnitLengths
import VTRemote.System.DecoderLockstep

/-!
# Samples from an encoder to a decoder

The samples of an encoder's session go to its client as PACKET messages.  What the caller
of the client gets is given to a decoder, and its session makes samples of them again.
-/

namespace VTRemote

open AnnexB

attribute [local irreducible] cInt

/-!
## Callbacks in turn
-/

namespace EncoderSession

structure Emission where
  sbuf : CMSampleBuffer
  packet : EncodedPacket
deriving DecidableEq, Repr

def Fate.emission : EncoderOutput -> Fate -> List Emission
  | .encoded sbuf, .emitted packet => [⟨sbuf, packet⟩]
  | _, _ => []

/-- The callbacks of a session one after the other, with what they send. -/
def outputCallbacks : EncoderSession -> List EncoderOutput ->
    Except Failure (List Emission × EncoderSession)
  | s, [] => .ok ([], s)
  | s, output :: rest => do
      let (next, fate) ← s.outputCallback output
      let (emissions, last) ← outputCallbacks next rest
      pure (fate.emission output ++ emissions, last)

/-- The extradata is captured, and the lengths of samples are of this size. -/
structure Captured (s : EncoderSession) (config : ClientConfiguration) (n : NALLength) :
    Prop where
  extradata : s.encoderExtradata.isSome = true
  config : s.config = some config
  nalLength : s.nalLengthField = n

variable {s s' : EncoderSession} {config : ClientConfiguration} {n : NALLength}

theorem Captured.captureExtradata (h : s.Captured config n) (codec : VideoCodec)
    (sbuf : CMSampleBuffer) : s.captureExtradata codec sbuf = s := by
  rcases Option.isSome_iff_exists.mp h.extradata with ⟨extradata, hsome⟩
  unfold EncoderSession.captureExtradata
  rw [hsome]

structure PacketOf (config : ClientConfiguration) (n : NALLength) (emission : Emission) :
    Prop where
  converted : exists block, emission.sbuf.dataBuffer = some block ∧
    convertToAnnexB block n = .ok emission.packet.annex
  presented : config.timebase.ticks emission.sbuf.presentationTimeStamp.rational =
    .ok emission.packet.ptsTicks
  lasting : durationTicks config emission.sbuf = .ok emission.packet.durTicks
  decodedFirst : emission.packet.dts ≤ emission.packet.ptsTicks

theorem processSample_packet {sbuf : CMSampleBuffer} {block : List UInt8} {fate : Fate}
    (hblock : sbuf.dataBuffer = some block)
    (h : s.processSample config sbuf block = .ok (s', fate)) :
    forall emission, emission ∈ fate.emission (.encoded sbuf) ->
      emission.sbuf = sbuf ∧ PacketOf config s.nalLengthField emission := by
  intro emission hmem
  unfold processSample at h
  rcases swift_bind_eq_ok h with ⟨annex, hannex, h⟩
  rcases swift_bind_eq_ok h with ⟨ptsTicks, hpts, h⟩
  rcases swift_bind_eq_ok h with ⟨dtsTicks, _, h⟩
  rcases swift_bind_eq_ok h with ⟨⟨result, tracker⟩, hprocess, h⟩
  cases result with
  | skip =>
      cases h
      exact absurd hmem List.not_mem_nil
  | emit dts =>
      dsimp only at h
      rcases swift_bind_eq_ok h with ⟨durTicks, hduration, h⟩
      cases h
      rcases List.mem_singleton.mp hmem with rfl
      have hemit := @TimestampTracker.process_eq_emit _ _ ⟨ptsTicks, dtsTicks⟩ _ hprocess
      have hle : dts ≤ ptsTicks := by
        rw [hemit.2.1]
        exact TimestampTracker.correctedDts_le _ ⟨ptsTicks, dtsTicks⟩
      exact ⟨rfl, ⟨block, hblock, hannex⟩, hpts, hduration, hle⟩

/-- A callback keeps what is captured, and makes the packet that it sends of its sample. -/
theorem Captured.outputCallback (h : s.Captured config n) {output : EncoderOutput}
    {fate : Fate} (hcallback : s.outputCallback output = .ok (s', fate)) :
    s'.Captured config n ∧
      forall emission, emission ∈ fate.emission output ->
        output = .encoded emission.sbuf ∧ PacketOf config n emission := by
  rcases outputCallback_eq_ok hcallback with ⟨_, rfl, rfl⟩ |
    ⟨sbuf, block, config', rfl, hblock, hconfig, ⟨_, rfl, rfl⟩ | ⟨_, hprocess⟩⟩
  · refine ⟨h, ?_⟩
    intro emission hmem
    cases output with
    | failed => exact absurd hmem List.not_mem_nil
    | encoded sbuf => exact absurd hmem List.not_mem_nil
  · rw [h.captureExtradata]
    exact ⟨⟨h.extradata, h.config, h.nalLength⟩,
      fun emission hmem => absurd hmem List.not_mem_nil⟩
  · rw [h.captureExtradata] at hprocess
    rw [h.config] at hconfig
    cases hconfig
    have hpackets := processSample_packet hblock hprocess
    rcases processSample_eq_ok hprocess with ⟨_, _, _, _, _, rfl, _⟩
    refine ⟨⟨h.extradata, h.config, h.nalLength⟩, ?_⟩
    intro emission hmem
    rcases hpackets emission hmem with ⟨rfl, hpacket⟩
    exact ⟨rfl, h.nalLength ▸ hpacket⟩

theorem Captured.outputCallbacks (h : s.Captured config n) {outputs : List EncoderOutput}
    {emissions : List Emission}
    (hcallbacks : s.outputCallbacks outputs = .ok (emissions, s')) :
    s'.Captured config n ∧
      forall emission, emission ∈ emissions ->
        .encoded emission.sbuf ∈ outputs ∧ PacketOf config n emission := by
  induction outputs generalizing s emissions with
  | nil =>
      cases hcallbacks
      exact ⟨h, fun emission hmem => absurd hmem List.not_mem_nil⟩
  | cons output rest ih =>
      rcases swift_bind_eq_ok hcallbacks with ⟨⟨next, fate⟩, hfirst, hcallbacks⟩
      rcases swift_bind_eq_ok hcallbacks with ⟨⟨later, last⟩, hrest, hpure⟩
      cases hpure
      rcases h.outputCallback hfirst with ⟨hnext, hpacket⟩
      rcases ih hnext hrest with ⟨hlast, hlater⟩
      refine ⟨hlast, ?_⟩
      intro emission hmem
      rcases List.mem_append.mp hmem with hmem | hmem
      · rcases hpacket emission hmem with ⟨rfl, hof⟩
        exact ⟨List.mem_cons_self, hof⟩
      · rcases hlater emission hmem with ⟨hsample, hof⟩
        exact ⟨List.mem_cons_of_mem output hsample, hof⟩

end EncoderSession

/-!
## Times
-/

theorem toInt_saturatingTicks (ticks : Int64) (num : Nat) :
    (saturatingTicks ticks num).toInt =
      max Int64.minValue.toInt (min Int64.maxValue.toInt (ticks.toInt * num)) := by
  have hnum : (0 : Int) ≤ num := Int.natCast_nonneg num
  unfold saturatingTicks
  dsimp only
  split
  · rename_i hfits
    rw [toInt_ofInt_of_fits hfits, min_eq_right hfits.2, max_eq_right hfits.1]
  · rename_i hover
    split
    · rename_i hpos
      have hticks : 0 ≤ ticks.toInt := Int64.le_iff_toInt_le.mp hpos
      have hproduct : 0 ≤ ticks.toInt * num := Int.mul_nonneg hticks hnum
      have hlarge : Int64.maxValue.toInt ≤ ticks.toInt * num := by
        by_contra hsmall
        exact hover ⟨Int.le_trans (by decide) hproduct, Int.le_of_lt (Int.not_le.mp hsmall)⟩
      rw [min_eq_left hlarge]
      rfl
    · rename_i hneg
      have hticks : ticks.toInt ≤ 0 := by
        have hlt := Int64.lt_iff_toInt_lt.mp (Int64.not_le.mp hneg)
        exact Int.le_of_lt hlt
      have hproduct : ticks.toInt * num ≤ 0 := Int.mul_nonpos_of_nonpos_of_nonneg hticks hnum
      have hsmall : ticks.toInt * num ≤ Int64.minValue.toInt := by
        by_contra hlarge
        exact hover ⟨Int.le_of_lt (Int.not_le.mp hlarge), Int.le_trans hproduct (by decide)⟩
      exact (max_eq_left (Int.le_trans (min_le_right _ _) hsmall)).symm

theorem saturatingTicks_mono {a b : Int64} (h : a ≤ b) (num : Nat) :
    saturatingTicks a num ≤ saturatingTicks b num := by
  have hproduct : a.toInt * num ≤ b.toInt * num :=
    Int.mul_le_mul_of_nonneg_right (Int64.le_iff_toInt_le.mp h) (Int.natCast_nonneg num)
  rw [Int64.le_iff_toInt_le, toInt_saturatingTicks, toInt_saturatingTicks]
  exact max_le_max_left _ (min_le_min_left _ hproduct)

theorem cmTime_mono {timebase : Timebase} {a b : Int64} {first second : CMTime} (h : a ≤ b)
    (hfirst : cmTime a timebase = .ok first) (hsecond : cmTime b timebase = .ok second) :
    first.timescale = second.timescale ∧ first.value ≤ second.value := by
  unfold cmTime at hfirst hsecond
  rcases swift_bind_eq_ok hfirst with ⟨timescale, hscale, hfirst⟩
  rcases swift_bind_eq_ok hsecond with ⟨timescale', hscale', hsecond⟩
  rw [hscale] at hscale'
  cases hscale'
  cases hfirst
  cases hsecond
  exact ⟨rfl, saturatingTicks_mono h _⟩

/-!
## The two clients
-/

namespace EncoderSession

def EncodedPacket.toAVPacket (packet : EncodedPacket) : AVPacket where
  data := packet.annex
  pts := packet.ptsTicks
  dts := packet.dts
  duration := packet.durTicks
  flags := if packet.isKey then avPktFlagKey else 0

def EncodedPacket.Storable (packet : EncodedPacket) : Prop :=
  packet.annex.length < 2147483583

instance (packet : EncodedPacket) : Decidable packet.Storable :=
  inferInstanceAs (Decidable (_ < _))

def EncodedPacket.toGrammar (packet : EncodedPacket) : Grammar.Packet where
  pts := packet.ptsTicks.toUInt64
  dts := packet.dts.toUInt64
  duration := packet.durTicks.toUInt64
  flags := if packet.isKey then 1 else 0
  data := packet.annex

theorem EncodedPacket.toGrammar_toView (packet : EncodedPacket) :
    packet.toGrammar.toView.described = packet.toAVPacket := by
  have hkey : (if packet.isKey then 1 else 0 : UInt32).toNat % 2 =
      if packet.isKey then avPktFlagKey else 0 := by
    cases packet.isKey with
    | true => rfl
    | false => rfl
  unfold VTRemotePacketView.described toAVPacket Grammar.Packet.toView toGrammar
  dsimp only
  rw [hkey, Int64.toInt64_toUInt64, Int64.toInt64_toUInt64, Int64.toInt64_toUInt64]

theorem EncodedPacket.Storable.sent {packet : EncodedPacket} (h : packet.Storable) :
    exists sent : ServerPacket, packet.body = .ok sent.payload.bytes ∧
      sent.view.described = packet.toAVPacket := by
  unfold Storable at h
  have hcount : packet.annex.length < 2 ^ 32 := Nat.lt_trans h (by decide)
  have hbody : packet.body = .ok packet.toGrammar.encode := by
    rcases (encodedSampleMessage_isOk_iff packet.ptsTicks packet.dts packet.durTicks
      packet.isKey packet.annex).mpr hcount with ⟨bytes, hencoded⟩
    have hbytes : packet.body = .ok bytes := hencoded
    rw [hbytes, (encodedSampleMessage_encode hbytes).2]
    rfl
  have hlength : packet.toGrammar.encode.length = 32 + packet.annex.length := by
    simp [Grammar.Packet.encode, Grammar.blob32, Format.u64, Format.u32, toGrammar]
    omega
  have hmax : packet.toGrammar.encode.length ≤ maxAllocSize := by
    rw [hlength]
    unfold maxAllocSize
    omega
  have hview := (packet_parsers_encode (p := packet.toGrammar) hcount).2
    (Int.ofNat_le.mpr hmax)
  have hdataLen : cInt (packet.toGrammar.toView.dataLen.toNat : Int) =
      packet.annex.length := by
    show cInt ((UInt32.ofNat packet.annex.length).toNat : Int) = packet.annex.length
    exact cInt_uint32_ofNat (by omega)
  have halloc : packet.toGrammar.toView.Allocatable := by
    unfold VTRemotePacketView.Allocatable intMax avInputBufferPaddingSize
    rw [hdataLen]
    omega
  exact ⟨⟨⟨packet.toGrammar.encode, hmax⟩, packet.toGrammar.toView, hview, halloc⟩,
    hbody, packet.toGrammar_toView⟩

end EncoderSession

/-!
## The decoder's session
-/

section Decoding

variable (decoder : DecoderSession) (timebase : Timebase)

def DecoderSession.Decodes (pkt : AVPacket) (sample : DecoderSample) : Prop :=
  packetToSend (some pkt) = some pkt ∧
    forall buffer : VTRemoteWBuf, buffer.Granted ->
      (putPacket pkt buffer).1 = 0 ∧
        decoder.handlePacketMessage timebase (putPacket pkt buffer).2.contents = .ok sample

/-- The sample has the units of the one that was encoded, which can be read again
exactly if their lengths fit, and its times, with 0 for the sentinel. -/
structure Arrives (config : ClientConfiguration) (n : NALLength)
    (emission : EncoderSession.Emission) (sample : DecoderSample) : Prop where
  units : exists units : List NALUnit,
    emission.sbuf.dataBuffer = some (lengthPrefixed n.size units) ∧
      sample.data = lengthPrefixed decoder.nalLengthField.size units ∧
      (readPrefixed decoder.nalLengthField.size sample.data =
          some (units.map NALUnit.bytes) <->
        forall unit, unit ∈ units ->
          unit.bytes.length < 256 ^ decoder.nalLengthField.size)
  presented : exists ticks,
    config.timebase.ticks emission.sbuf.presentationTimeStamp.rational = .ok ticks ∧
      cmTime (if ticks = avNoptsValue then 0 else ticks) timebase =
        .ok sample.timing.presentationTimeStamp
  lasting : exists ticks, EncoderSession.durationTicks config emission.sbuf = .ok ticks ∧
    cmTime (if 0 < ticks then ticks else 0) timebase = .ok sample.timing.duration
  decodedFirst : sample.timing.decodeTimeStamp.timescale =
      sample.timing.presentationTimeStamp.timescale ∧
    sample.timing.decodeTimeStamp.value ≤ sample.timing.presentationTimeStamp.value
  described : sample.formatDescription = decoder.formatDescription

theorem DecoderSession.handlePacketMessage_sent {pkt : AVPacket} {buffer : VTRemoteWBuf}
    (hbuffer : buffer.Granted) (hlength : pkt.data.length + 32 ≤ maxAllocSize) :
    (putPacket pkt buffer).1 = 0 ∧
      decoder.handlePacketMessage timebase (putPacket pkt buffer).2.contents = (do
        let data ← toLengthPrefixed pkt.data decoder.nalLengthField.size
        let timing ← VideoToolboxCodecSession.sampleTiming timebase
          (sentPacket pkt).pts.toInt64 (sentPacket pkt).dts.toInt64
          (sentPacket pkt).duration.toInt64
        pure { data, timing, formatDescription := decoder.formatDescription }) := by
  have hput := putPacket_sent hbuffer hlength
  have hcount : (sentPacket pkt).data.length < 2 ^ 32 := by
    show pkt.data.length < 2 ^ 32
    unfold maxAllocSize at hlength
    omega
  rcases (packet_parsers_encode hcount).1 with ⟨reader, hread⟩
  refine ⟨hput.1, ?_⟩
  unfold DecoderSession.handlePacketMessage
  rw [hput.2.2, hread]
  rfl

theorem DecoderSession.decodes_startCoded {timebase : Timebase}
    (hden : timebase.den ≤ 2147483647) {pkt : AVPacket} {units : List NALUnit}
    (hunits : units ≠ []) (hdata : pkt.data = startCoded units)
    (hlength : pkt.data.length + 32 ≤ maxAllocSize) :
    exists timing,
      VideoToolboxCodecSession.sampleTiming timebase (sentPacket pkt).pts.toInt64
        (sentPacket pkt).dts.toInt64 (sentPacket pkt).duration.toInt64 = .ok timing ∧
      decoder.Decodes timebase pkt
        { data := lengthPrefixed decoder.nalLengthField.size units
          timing
          formatDescription := decoder.formatDescription } := by
  rcases cmTime_of_le hden (sentPacket pkt).duration.toInt64 with ⟨duration, hduration⟩
  rcases cmTime_of_le hden (sentPacket pkt).pts.toInt64 with ⟨pts, hpts⟩
  rcases cmTime_of_le hden (sentPacket pkt).dts.toInt64 with ⟨dts, hdts⟩
  have htiming : VideoToolboxCodecSession.sampleTiming timebase
      (sentPacket pkt).pts.toInt64 (sentPacket pkt).dts.toInt64
      (sentPacket pkt).duration.toInt64 = .ok ⟨duration, pts, dts⟩ := by
    unfold VideoToolboxCodecSession.sampleTiming
    rw [hduration, hpts, hdts]
    rfl
  refine ⟨⟨duration, pts, dts⟩, htiming, ?_, ?_⟩
  · have hnonempty : 0 < pkt.data.length := by
      cases units with
      | nil => exact absurd rfl hunits
      | cons unit rest =>
          rw [hdata, startCoded_eq, List.map_cons, length_codeAll_cons]
          omega
    unfold packetToSend
    exact Option.filter_eq_some_iff.mpr ⟨rfl, decide_eq_true hnonempty⟩
  · intro buffer hbuffer
    have hsent := decoder.handlePacketMessage_sent timebase hbuffer hlength
    have hprefixed : toLengthPrefixed pkt.data decoder.nalLengthField.size =
        .ok (lengthPrefixed decoder.nalLengthField.size units) := by
      rw [toLengthPrefixed_eq, hdata, splitNALUnits_startCoded hunits, lengthPrefixed_eq]
    refine ⟨hsent.1, ?_⟩
    rw [hsent.2, hprefixed, htiming]
    rfl

/-- The sentinel comes before all times, and is no time that is sent. -/
theorem sentPacket_decodedFirst {pkt : AVPacket} (h : pkt.dts ≤ pkt.pts) :
    (sentPacket pkt).dts.toInt64 ≤ (sentPacket pkt).pts.toInt64 := by
  unfold sentPacket
  dsimp only
  rw [Int64.toInt64_toUInt64, Int64.toInt64_toUInt64]
  by_cases hdts : pkt.dts = avNoptsValue
  · rw [if_pos hdts]
    exact Int64.le_refl _
  · have hpts : pkt.pts ≠ avNoptsValue := by
      intro hpts
      rw [hpts] at h
      exact hdts (Int64.le_antisymm h (Int64.minValue_le _))
    rw [if_neg hdts, if_neg hpts]
    exact h

variable {decoder} {timebase} {config : ClientConfiguration} {n : NALLength}

theorem EncoderSession.PacketOf.arrives {emission : EncoderSession.Emission}
    (h : EncoderSession.PacketOf config n emission) (hstorable : emission.packet.Storable)
    (hden : timebase.den ≤ 2147483647) {units : List NALUnit} (hunits : units ≠ [])
    (hfit : forall unit, unit ∈ units -> unit.bytes.length < 256 ^ n.size)
    (hblock : emission.sbuf.dataBuffer = some (lengthPrefixed n.size units)) :
    exists sample, decoder.Decodes timebase emission.packet.toAVPacket sample ∧
      Arrives decoder timebase config n emission sample := by
  rcases h with ⟨⟨block, hsome, hconvert⟩, hpts, hduration, hfirst⟩
  rw [hblock] at hsome
  cases hsome
  rw [convertToAnnexB_lengthPrefixed n hunits hfit] at hconvert
  have hdata : emission.packet.toAVPacket.data = startCoded units :=
    (Except.ok.inj hconvert).symm
  have hlength : emission.packet.toAVPacket.data.length + 32 ≤ maxAllocSize := by
    unfold EncoderSession.EncodedPacket.Storable at hstorable
    show emission.packet.annex.length + 32 ≤ 2147483647
    omega
  rcases decoder.decodes_startCoded hden hunits hdata hlength with
    ⟨timing, htiming, hdecodes⟩
  rcases swift_bind_eq_ok htiming with ⟨duration, hlasting, htiming⟩
  rcases swift_bind_eq_ok htiming with ⟨presented, hpresented, htiming⟩
  rcases swift_bind_eq_ok htiming with ⟨decoded, hdecoded, htiming⟩
  cases htiming
  have hsentFirst := @sentPacket_decodedFirst emission.packet.toAVPacket hfirst
  have hmono := cmTime_mono hsentFirst hdecoded hpresented
  have hptsTicks : (sentPacket emission.packet.toAVPacket).pts.toInt64 =
      if emission.packet.ptsTicks = avNoptsValue then 0 else emission.packet.ptsTicks :=
    Int64.toInt64_toUInt64 _
  have hdurTicks : (sentPacket emission.packet.toAVPacket).duration.toInt64 =
      if 0 < emission.packet.durTicks then emission.packet.durTicks else 0 :=
    Int64.toInt64_toUInt64 _
  rw [hptsTicks] at hpresented
  rw [hdurTicks] at hlasting
  have hread := readPrefixed_prefixAll_iff decoder.nalLengthField.size
    (units.map NALUnit.bytes)
  rw [<- lengthPrefixed_eq] at hread
  have hfits : Fitting decoder.nalLengthField.size (units.map NALUnit.bytes) <->
      forall unit, unit ∈ units ->
        unit.bytes.length < 256 ^ decoder.nalLengthField.size :=
    List.forall_mem_map
  exact ⟨_, hdecodes, ⟨units, hblock, rfl, hread.trans hfits⟩, ⟨_, hpts, hpresented⟩,
    ⟨_, hduration, hlasting⟩, hmono, rfl⟩

end Decoding

/-!
## The trip
-/

def HoldUnits (n : NALLength) (outputs : List EncoderOutput) : Prop :=
  forall sbuf block, .encoded sbuf ∈ outputs -> sbuf.dataBuffer = some block ->
    exists units : List NALUnit, units ≠ [] ∧
      (forall unit, unit ∈ units -> unit.bytes.length < 256 ^ n.size) ∧
      block = lengthPrefixed n.size units

namespace EncoderSession

theorem messages_of_storable {emissions : List Emission}
    (hstorable : forall emission, emission ∈ emissions -> emission.packet.Storable) :
    exists messages : List ServerPacket,
      List.Forall₂ (fun emission message => emission.packet.body = .ok message.payload.bytes)
        emissions messages ∧
      ServerMessage.packets (messages.map ServerMessage.packet) =
        emissions.map fun emission => emission.packet.toAVPacket := by
  induction emissions with
  | nil => exact ⟨[], .nil, rfl⟩
  | cons emission rest ih =>
      rcases (hstorable emission List.mem_cons_self).sent with ⟨message, hbody, hview⟩
      rcases ih fun other hmem => hstorable other (List.mem_cons_of_mem emission hmem) with
        ⟨messages, hbodies, hpackets⟩
      refine ⟨message :: messages, .cons hbody hbodies, ?_⟩
      rw [List.map_cons, ServerMessage.packets, hview, hpackets, List.map_cons]

theorem samples_of_packets {decoder : DecoderSession} {timebase : Timebase}
    {config : ClientConfiguration} {n : NALLength} {emissions : List Emission}
    (h : forall emission, emission ∈ emissions ->
      exists sample, decoder.Decodes timebase emission.packet.toAVPacket sample ∧
        Arrives decoder timebase config n emission sample) :
    exists samples,
      List.Forall₂ (decoder.Decodes timebase)
        (emissions.map fun emission => emission.packet.toAVPacket) samples ∧
      List.Forall₂ (Arrives decoder timebase config n) emissions samples := by
  induction emissions with
  | nil => exact ⟨[], .nil, .nil⟩
  | cons emission rest ih =>
      rcases h emission List.mem_cons_self with ⟨sample, hdecodes, harrives⟩
      rcases ih fun other hmem => h other (List.mem_cons_of_mem emission hmem) with
        ⟨samples, hdecoded, harrived⟩
      exact ⟨sample :: samples, .cons hdecodes hdecoded, .cons harrives harrived⟩

end EncoderSession

open EncoderSession

/-- Behind the sample that brought the extradata, however many packets the caller of the
encoder has got and passed on, the decoder's session has made as many samples, in order,
of the units and times of the first samples that the encoder's session has sent. -/
theorem samples_arrive {s s' : EncoderSession} {config : ClientConfiguration}
    {n : NALLength} (hcaptured : s.Captured config n) {outputs : List EncoderOutput}
    (hunits : HoldUnits n outputs) {emissions : List Emission}
    (h : s.outputCallbacks outputs = .ok (emissions, s'))
    (hstorable : forall emission, emission ∈ emissions -> emission.packet.Storable)
    (decoder : DecoderSession) {timebase : Timebase} (hden : timebase.den ≤ 2147483647) :
    exists messages : List ServerPacket,
      List.Forall₂ (fun emission message => emission.packet.body = .ok message.payload.bytes)
        emissions messages ∧
      forall delivered,
        delivered <+: ServerMessage.packets (messages.map ServerMessage.packet) ->
        exists samples, List.Forall₂ (decoder.Decodes timebase) delivered samples ∧
          List.Forall₂ (Arrives decoder timebase config n)
            (emissions.take delivered.length) samples := by
  rcases messages_of_storable hstorable with ⟨messages, hbodies, hpackets⟩
  refine ⟨messages, hbodies, ?_⟩
  intro delivered hprefix
  have hpacketOf := (hcaptured.outputCallbacks h).2
  have hdelivered : delivered = (emissions.take delivered.length).map
      fun emission => emission.packet.toAVPacket := by
    rw [hpackets] at hprefix
    rw [List.map_take]
    exact List.prefix_iff_eq_take.mp hprefix
  have harrive : forall emission, emission ∈ emissions.take delivered.length ->
      exists sample, decoder.Decodes timebase emission.packet.toAVPacket sample ∧
        Arrives decoder timebase config n emission sample := by
    intro emission hmem
    have hall := List.mem_of_mem_take hmem
    rcases hpacketOf emission hall with ⟨hsample, hof⟩
    rcases hof.converted with ⟨block, hblock, _⟩
    rcases hunits emission.sbuf block hsample hblock with ⟨units, hne, hfit, rfl⟩
    exact hof.arrives (hstorable emission hall) hden hne hfit hblock
  rcases samples_of_packets harrive with ⟨samples, hdecodes, harrives⟩
  rw [<- hdelivered] at hdecodes
  exact ⟨samples, hdecodes, harrives⟩

def tickConfiguration : ClientConfiguration where
  mode := .encode
  width := 16
  height := 16
  pixelFormat := 1
  wireCompression := 0
  codec := .h264
  timebase := { num := 1, den := 1 }

def warmSession : EncoderSession where
  config := some tickConfiguration
  encoderExtradata := some [1]

def tickEmission (ptsTicks : Int64) : Emission where
  sbuf :=
    { dataBuffer := some [0, 0, 0, 1, 65]
      formatDescription := none
      presentationTimeStamp := ⟨ptsTicks, 1⟩
      decodeTimeStamp := none
      duration := none
      notSync := false }
  packet :=
    { ptsTicks, dtsTicks := ptsTicks, dts := ptsTicks, durTicks := 0, isKey := true
      annex := [0, 0, 0, 1, 65] }

def tickDecoder : DecoderSession := ⟨.ofByte 1, .parameterSets [] 4⟩

/-- Three samples, the second of them a duplicate. -/
theorem samples_arrive_duplicate :
    exists messages : List ServerPacket,
      List.Forall₂ (fun emission message => emission.packet.body = .ok message.payload.bytes)
        [tickEmission 1, tickEmission 2] messages ∧
      forall delivered,
        delivered <+: ServerMessage.packets (messages.map ServerMessage.packet) ->
        exists samples,
          List.Forall₂ (tickDecoder.Decodes { num := 1, den := 30 }) delivered samples ∧
          List.Forall₂ (Arrives tickDecoder { num := 1, den := 30 } tickConfiguration .four)
            ([tickEmission 1, tickEmission 2].take delivered.length) samples := by
  let samples : List CMSampleBuffer :=
    [(tickEmission 1).sbuf, (tickEmission 1).sbuf, (tickEmission 2).sbuf]
  have hrun : (outputCallbacks warmSession (samples.map .encoded)).toOption.map Prod.fst =
      some [tickEmission 1, tickEmission 2] := by
    decide +kernel
  have hsession : exists last, outputCallbacks warmSession (samples.map .encoded) =
      .ok ([tickEmission 1, tickEmission 2], last) := by
    cases hcallbacks : outputCallbacks warmSession (samples.map .encoded) with
    | error e =>
        rw [hcallbacks] at hrun
        cases hrun
    | ok result =>
        rw [hcallbacks] at hrun
        exact ⟨result.2, congrArg Except.ok (Prod.ext (Option.some.inj hrun) rfl)⟩
  rcases hsession with ⟨last, hcallbacks⟩
  have hunits : HoldUnits .four (samples.map .encoded) := by
    intro sbuf block hmem hblock
    refine ⟨[⟨[65], by decide, by decide, by decide, by decide⟩], List.cons_ne_nil _ _, ?_, ?_⟩
    · intro unit hunit
      rcases List.mem_singleton.mp hunit with rfl
      decide
    · have hdata : forall sample, sample ∈ samples ->
          sample.dataBuffer = some [0, 0, 0, 1, 65] := by
        decide
      rcases List.mem_map.mp hmem with ⟨sample, hsample, hencoded⟩
      cases hencoded
      rw [hdata sbuf hsample] at hblock
      cases hblock
      rfl
  exact samples_arrive ⟨rfl, rfl, rfl⟩ hunits hcallbacks (by decide) tickDecoder (by decide)

end VTRemote
