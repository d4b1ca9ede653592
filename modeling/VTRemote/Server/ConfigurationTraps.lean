import VTRemote.Server.CopyBounds
import VTRemote.Server.SessionSetup

/-!
# Configurations that trap the server

The fields of a CONFIGURE are unsigned values of 32 bits, and both sessions
narrow them, or products of them, later on.  Which configurations survive all
of that is said here in terms of the fields.
-/

namespace VTRemote

/-!
## Computations that do not trap
-/

def Survives {α : Type} (x : Except Failure α) : Prop := x ≠ .error .trapped

section Survives

variable {α β : Type}

theorem Survives.ok (a : α) : Survives (.ok a) := fun h => nomatch h

theorem Survives.thrown (e : VTRemotedError) :
    Survives (.error (.thrown e) : Except Failure α) := fun h => nomatch h

theorem not_survives_trapped : ¬ Survives (.error .trapped : Except Failure α) :=
  fun h => h rfl

theorem survives_bind_iff {x : Except Failure α} {f : α -> Except Failure β} :
    Survives (x >>= f) <->
      Survives x ∧ forall a, x = .ok a -> Survives (f a) := by
  cases x with
  | ok a =>
      constructor
      · intro h
        refine ⟨.ok a, ?_⟩
        intro b hb
        cases hb
        exact h
      · intro h
        exact h.2 a rfl
  | error e =>
      cases e with
      | trapped => exact iff_of_false not_survives_trapped fun h => h.1 rfl
      | thrown e =>
          exact iff_of_true (.thrown e)
            ⟨.thrown e, fun a ha => nomatch ha⟩

theorem survives_step_iff {x : Except Failure α} {f : α -> Except Failure β}
    {a : α} {p : Prop} (hsurvives : Survives x <-> p) (hok : p -> x = .ok a) :
    Survives (x >>= f) <-> p ∧ Survives (f a) := by
  rw [survives_bind_iff, hsurvives]
  refine and_congr_right fun hp => ?_
  rw [hok hp]
  constructor
  · intro h
    exact h a rfl
  · intro h b hb
    cases hb
    exact h

theorem swiftInt_survives_iff {n : Nat} :
    Survives (swiftInt n) <-> n ≤ swiftIntMax := by
  rcases Nat.lt_or_ge swiftIntMax n with hlt | hle
  · rw [swiftInt_of_lt hlt]
    exact iff_of_false not_survives_trapped (Nat.not_le_of_lt hlt)
  · rw [swiftInt_of_le hle]
    exact iff_of_true (.ok n) hle

theorem swiftInt32_survives_iff {n : Nat} :
    Survives (swiftInt32 n) <-> n ≤ swiftInt32Max := by
  rcases Nat.lt_or_ge swiftInt32Max n with hlt | hle
  · rw [swiftInt32_of_lt hlt]
    exact iff_of_false not_survives_trapped (Nat.not_le_of_lt hlt)
  · rw [swiftInt32_of_le hle]
    exact iff_of_true (.ok n) hle

theorem swiftUInt32_survives_iff {n : Nat} :
    Survives (swiftUInt32 n) <-> n ≤ swiftUInt32Max := by
  rcases Nat.lt_or_ge swiftUInt32Max n with hlt | hle
  · have htrapped : swiftUInt32 n = .error .trapped :=
      if_neg (Nat.not_le_of_lt hlt)
    rw [htrapped]
    exact iff_of_false not_survives_trapped (Nat.not_le_of_lt hlt)
  · rw [swiftUInt32_of_le hle]
    exact iff_of_true (.ok _) hle

theorem called_survives (answer : Except VTRemotedError Unit) :
    Survives (called answer) := by
  cases answer with
  | ok _ => exact .ok ()
  | error e => exact .thrown e

end Survives

/-!
## Times
-/

theorem Timebase.time_survives_iff (timebase : Timebase) (ticks : Int64) :
    Survives (timebase.time ticks) <-> timebase.den ≤ swiftInt32Max :=
  (not_congr (timebase.time_trapped_iff ticks)).trans Nat.not_lt

theorem cmTime_survives_iff (ticks : Int64) (timebase : Timebase) :
    Survives (cmTime ticks timebase) <-> timebase.den ≤ swiftInt32Max :=
  (not_congr (cmTime_trapped_iff ticks timebase)).trans Nat.not_lt

theorem Timebase.ticks_survives (timebase : Timebase) (time : RationalTime) :
    Survives (timebase.ticks time) := by
  rw [timebase.ticks_eq time]
  exact .ok _

/-!
## The VideoToolbox session
-/

namespace VideoToolboxCodecSession

theorem sampleTiming_survives {timebase : Timebase}
    (h : timebase.den ≤ swiftInt32Max) (ptsTicks dtsTicks durTicks : Int64) :
    Survives (sampleTiming timebase ptsTicks dtsTicks durTicks) := by
  unfold sampleTiming
  refine survives_bind_iff.mpr ⟨(cmTime_survives_iff _ _).mpr h, fun _ _ => ?_⟩
  refine survives_bind_iff.mpr ⟨(cmTime_survives_iff _ _).mpr h, fun _ _ => ?_⟩
  refine survives_bind_iff.mpr ⟨(cmTime_survives_iff _ _).mpr h, fun _ _ => ?_⟩
  exact .ok _

/-- A width and a height that the frameworks take. -/
def DimensionsFit (config : SetupConfiguration) : Prop :=
  config.width ≤ swiftInt32Max ∧ config.height ≤ swiftInt32Max

def KnownPixelFormat (config : SetupConfiguration) : Prop :=
  config.pixelFormat = 1 ∨ config.pixelFormat = 2

def CreatesEncoder (appleSilicon : Bool) (config : SetupConfiguration) : Prop :=
  ¬ (config.codec = .h264 ∧ config.pixelFormat ≠ 1) ∧
    KnownPixelFormat config ∧
    ¬ (LowLatency appleSilicon config ∧ config.bitrate ≤ 0)

def DescribesRecord (config : SetupConfiguration) : Prop :=
  KnownPixelFormat config ∧
    config.codec.IsRecord (stripAtomHeaderIfPresent
      (config.configExtradata.getD []) config.codec.atom)

theorem pickCVPixelFormat_cases (config : SetupConfiguration) :
    (KnownPixelFormat config ∧
        exists format, pickCVPixelFormat config.pixelFormat = .ok format) ∨
      (¬ KnownPixelFormat config ∧
        exists e, pickCVPixelFormat config.pixelFormat =
          .error (.thrown e)) := by
  unfold KnownPixelFormat pickCVPixelFormat
  by_cases hone : config.pixelFormat = 1
  · rw [if_pos hone]
    exact .inl ⟨.inl hone, _, rfl⟩
  · rw [if_neg hone]
    by_cases htwo : config.pixelFormat = 2
    · rw [if_pos htwo]
      exact .inl ⟨.inr htwo, _, rfl⟩
    · rw [if_neg htwo]
      refine .inr ⟨?_, _, rfl⟩
      intro h
      rcases h with h | h
      · exact hone h
      · exact htwo h

theorem dimensions_survive_iff {α : Type} (config : SetupConfiguration)
    {next : Nat -> Nat -> Except Failure α}
    (hnext : forall width height, Survives (next width height)) :
    Survives (do
      let width ← swiftInt32 config.width
      let height ← swiftInt32 config.height
      next width height) <-> DimensionsFit config := by
  unfold DimensionsFit
  rw [survives_step_iff swiftInt32_survives_iff swiftInt32_of_le,
    survives_step_iff swiftInt32_survives_iff swiftInt32_of_le]
  exact and_congr_right fun _ => and_iff_left (hnext _ _)

theorem setupEncoder_survives_iff (appleSilicon : Bool) (frameworks : Frameworks)
    (config : SetupConfiguration) :
    Survives (setupEncoder appleSilicon frameworks config) <->
      (CreatesEncoder appleSilicon config -> DimensionsFit config) := by
  unfold setupEncoder CreatesEncoder
  by_cases hnv12 : config.codec = .h264 ∧ config.pixelFormat ≠ 1
  · rw [if_pos hnv12]
    exact iff_of_true (.thrown _) fun h => absurd hnv12 h.1
  · rw [if_neg hnv12]
    rcases pickCVPixelFormat_cases config with
      ⟨hknown, format, hpick⟩ | ⟨hunknown, e, hpick⟩
    · rw [hpick]
      show Survives (if _ then _ else _) <-> _
      by_cases hbitrate : LowLatency appleSilicon config ∧ config.bitrate ≤ 0
      · rw [if_pos hbitrate]
        exact iff_of_true (.thrown _) fun h => absurd hbitrate h.2.2
      · rw [if_neg hbitrate, imp_iff_right ⟨hnv12, hknown, hbitrate⟩]
        exact dimensions_survive_iff config fun width height =>
          survives_bind_iff.mpr ⟨called_survives _, fun _ _ => .ok _⟩
    · rw [hpick]
      exact iff_of_true (.thrown e) fun h => absurd h.2.1 hunknown

theorem warmup_survives (frameworks : Frameworks) {config : SetupConfiguration}
    (h : config.timebase.den ≤ swiftInt32Max) (cvPixelFormat : CVPixelFormat) :
    Survives (warmup frameworks config cvPixelFormat) := by
  unfold warmup
  split
  · refine survives_bind_iff.mpr ⟨swiftInt32_survives_iff.mpr ?_,
      fun _ _ => .ok _⟩
    exact Nat.max_le.mpr ⟨by decide, h⟩
  · exact .ok none

theorem not_isRecord_nil (codec : VideoCodec) :
    ¬ codec.IsRecord (stripAtomHeaderIfPresent [] codec.atom) := by
  cases codec <;> decide

theorem setupDecoder_survives_iff (frameworks : Frameworks)
    (config : SetupConfiguration) :
    Survives (setupDecoder frameworks config) <->
      (DescribesRecord config -> DimensionsFit config) := by
  unfold setupDecoder DescribesRecord
  rcases pickCVPixelFormat_cases config with
    ⟨hknown, format, hpick⟩ | ⟨hunknown, e, hpick⟩
  · rw [hpick]
    show Survives (if _ then _ else _) <-> _
    by_cases hextra : config.configExtradata.getD [] = []
    · rw [if_pos hextra]
      refine iff_of_true (.thrown _) fun h => ?_
      rw [hextra] at h
      exact absurd h.2 (not_isRecord_nil config.codec)
    · rw [if_neg hextra]
      dsimp only
      by_cases hrecord : config.codec.IsRecord (stripAtomHeaderIfPresent
          (config.configExtradata.getD []) config.codec.atom)
      · rw [if_pos hrecord, imp_iff_right ⟨hknown, hrecord⟩]
        unfold makeFormatDescriptionFromAtom
        simp only [bind_assoc]
        exact dimensions_survive_iff config fun width height =>
          survives_bind_iff.mpr
            ⟨called_survives _, fun _ _ => called_survives _⟩
      · rw [if_neg hrecord]
        exact iff_of_true (survives_bind_iff.mpr
          ⟨called_survives _, fun _ _ => called_survives _⟩)
          fun h => absurd h.2 hrecord
  · rw [hpick]
    exact iff_of_true (.thrown e) fun h => absurd h.1 hunknown

def refusingFrameworks : Frameworks where
  compressionSession _ _ := .error .videoToolboxUnavailable
  pixelBuffer _ _ _ := false
  warmupSample _ := none
  formatDescription _ _ _ := .error .videoToolboxUnavailable
  parameterSets _ := .error .videoToolboxUnavailable
  decompressionSession := .error .videoToolboxUnavailable

theorem rowBytes_le {config : ClientConfiguration}
    (h : config.width ≤ swiftUInt32Max) : config.rowBytes ≤ swiftIntMax := by
  have hsample : bytesPerSample config ≤ 2 := by
    unfold bytesPerSample
    split
    · exact Nat.le_refl 2
    · exact Nat.le_succ 1
  exact Nat.le_trans (Nat.mul_le_mul h hsample) (by decide)

def NarrowsDimensions (appleSilicon : Bool) (config : SetupConfiguration) :
    Prop :=
  match config.mode with
  | .encode => CreatesEncoder appleSilicon config
  | .decode => DescribesRecord config

theorem configure_survives_iff (appleSilicon : Bool) (frameworks : Frameworks)
    {config : SetupConfiguration} (hden : config.timebase.den ≤ swiftInt32Max) :
    Survives (configure appleSilicon frameworks config) <->
      (NarrowsDimensions appleSilicon config -> DimensionsFit config) := by
  unfold configure NarrowsDimensions
  cases config.mode with
  | encode =>
      dsimp only
      rw [<- setupEncoder_survives_iff appleSilicon frameworks,
        survives_bind_iff]
      refine and_iff_left fun cvPixelFormat _ => ?_
      exact survives_bind_iff.mpr
        ⟨warmup_survives frameworks hden cvPixelFormat, fun _ _ => .ok _⟩
  | decode =>
      dsimp only
      rw [<- setupDecoder_survives_iff frameworks, survives_bind_iff]
      exact and_iff_left fun _ _ => .ok _

/-- What a session computes from its configuration, for every answer of the
frameworks and for all ticks, does not trap. -/
structure ConfigurationSurvives (appleSilicon : Bool)
    (config : SetupConfiguration) : Prop where
  configure : forall frameworks,
    Survives (configure appleSilicon frameworks config)
  time : forall ticks, Survives (config.timebase.time ticks)
  ticks : forall time, Survives (config.timebase.ticks time)
  cmTime : forall ticks, Survives (cmTime ticks config.timebase)
  sampleTiming : forall ptsTicks dtsTicks durTicks,
    Survives (sampleTiming config.timebase ptsTicks dtsTicks durTicks)
  rowBytes : Survives (swiftInt config.rowBytes)

theorem configurationSurvives_iff (appleSilicon : Bool)
    {config : SetupConfiguration} (hwidth : config.width ≤ swiftUInt32Max) :
    ConfigurationSurvives appleSilicon config <->
      config.timebase.den ≤ swiftInt32Max ∧
        (NarrowsDimensions appleSilicon config -> DimensionsFit config) := by
  constructor
  · intro h
    have hden := (config.timebase.time_survives_iff 0).mp (h.time 0)
    exact ⟨hden, (configure_survives_iff appleSilicon refusingFrameworks hden).mp
      (h.configure refusingFrameworks)⟩
  · intro h
    rcases h with ⟨hden, hdimensions⟩
    exact
      { configure := fun frameworks =>
          (configure_survives_iff appleSilicon frameworks hden).mpr hdimensions
        time := fun ticks => (config.timebase.time_survives_iff ticks).mpr hden
        ticks := config.timebase.ticks_survives
        cmTime := fun ticks =>
          (cmTime_survives_iff ticks config.timebase).mpr hden
        sampleTiming := sampleTiming_survives hden
        rowBytes := swiftInt_survives_iff.mpr (rowBytes_le hwidth) }

end VideoToolboxCodecSession

/-!
## The stub
-/

namespace StubCodecSession

variable (codecs : PlaneCodecs)

theorem writePlane_survives_iff {w : ByteWriter} {stride height : Nat}
    {data : List UInt8} :
    Survives (writePlane w stride height data) <->
      stride ≤ swiftUInt32Max ∧ height ≤ swiftUInt32Max ∧
        data.length ≤ swiftUInt32Max := by
  unfold writePlane
  rw [survives_step_iff swiftUInt32_survives_iff swiftUInt32_of_le,
    survives_step_iff swiftUInt32_survives_iff swiftUInt32_of_le,
    survives_step_iff swiftUInt32_survives_iff swiftUInt32_of_le]
  exact and_congr_right fun _ => and_congr_right fun _ =>
    and_iff_left (.ok _)

theorem maybeCompress_survives_iff {wireCompression : Int} {data : List UInt8} :
    Survives (maybeCompress codecs wireCompression data) <->
      (wireCompression = 1 -> data.length ≤ swiftInt32Max) := by
  unfold maybeCompress PlaneCodecs.narrowCount
  by_cases hlz4 : wireCompression = 1
  · rw [if_pos hlz4, imp_iff_right hlz4, survives_bind_iff,
      swiftInt32_survives_iff]
    refine and_iff_left fun _ _ => ?_
    rw [if_pos hlz4]
    cases codecs.lz4Compress data with
    | some compressed => exact .ok compressed
    | none => exact .thrown _
  · rw [if_neg hlz4]
    refine iff_of_true ?_ fun h => absurd h hlz4
    show Survives (if _ then _ else _)
    rw [if_neg hlz4]
    split
    · cases codecs.zstdCompress data with
      | some compressed => exact .ok compressed
      | none => exact .thrown _
    · exact .ok data

def lumaSize (configuration : SessionConfiguration) : Nat :=
  stubStride configuration * configuration.height

def chromaSize (configuration : SessionConfiguration) : Nat :=
  stubStride configuration * (configuration.height / 2)

theorem chromaSize_le (configuration : SessionConfiguration) :
    chromaSize configuration ≤ lumaSize configuration :=
  Nat.mul_le_mul_left _ (Nat.div_le_self _ 2)

theorem stubStride_le {configuration : SessionConfiguration}
    (h : configuration.width ≤ swiftUInt32Max) :
    stubStride configuration ≤ swiftIntMax := by
  have hsample : (if configuration.pixelFormat = 2 then 2 else 1) ≤ 2 := by
    split
    · exact Nat.le_refl 2
    · exact Nat.le_succ 1
  exact Nat.le_trans (Nat.mul_le_mul h hsample) (by decide)

theorem writePlanes_survives_iff {w : ByteWriter} {stride height : Nat}
    {y uv : List UInt8} (hheight : height ≤ swiftUInt32Max) :
    Survives (do
      let writer ← writePlane w stride height y
      let writer ← writePlane writer stride (height / 2) uv
      pure writer.data) <->
      stride ≤ swiftUInt32Max ∧ y.length ≤ swiftUInt32Max ∧
        uv.length ≤ swiftUInt32Max := by
  have hhalf : height / 2 ≤ swiftUInt32Max :=
    Nat.le_trans (Nat.div_le_self _ 2) hheight
  rw [survives_bind_iff, writePlane_survives_iff]
  constructor
  · intro h
    rcases h with ⟨⟨hstride, _, hy⟩, hnext⟩
    rcases writePlane_of_le w hstride hheight hy with ⟨w', hw⟩
    have huv := writePlane_survives_iff.mp (survives_bind_iff.mp (hnext w' hw)).1
    exact ⟨hstride, hy, huv.2.2⟩
  · intro h
    rcases h with ⟨hstride, hy, huv⟩
    exact ⟨⟨hstride, hheight, hy⟩, fun _ _ => survives_bind_iff.mpr
      ⟨writePlane_survives_iff.mpr ⟨hstride, hhalf, huv⟩, fun _ _ => .ok _⟩⟩

theorem frameBody_survives_iff {configuration : SessionConfiguration}
    (hwidth : configuration.width ≤ swiftUInt32Max)
    (hheight : configuration.height ≤ swiftUInt32Max) (pts dur : UInt64) :
    Survives (frameBody codecs configuration pts dur) <->
      lumaSize configuration ≤ swiftIntMax ∧
        (configuration.wireCompression = 1 ->
          lumaSize configuration ≤ swiftInt32Max) ∧
        forall y uv,
          maybeCompress codecs configuration.wireCompression
            (List.replicate (lumaSize configuration) 0) = .ok y ->
          maybeCompress codecs configuration.wireCompression
            (List.replicate (chromaSize configuration) 0) = .ok uv ->
          stubStride configuration ≤ swiftUInt32Max ∧
            y.length ≤ swiftUInt32Max ∧ uv.length ≤ swiftUInt32Max := by
  have hstride := stubStride_le hwidth
  have hchroma := chromaSize_le configuration
  unfold frameBody
  dsimp only
  rw [survives_step_iff swiftInt_survives_iff swiftInt_of_le,
    survives_step_iff swiftInt_survives_iff swiftInt_of_le,
    survives_step_iff swiftInt_survives_iff swiftInt_of_le,
    survives_step_iff swiftInt_survives_iff swiftInt_of_le,
    survives_bind_iff, maybeCompress_survives_iff, List.length_replicate]
  show stubStride configuration ≤ _ ∧ stubStride configuration ≤ _ ∧
    lumaSize configuration ≤ _ ∧ chromaSize configuration ≤ _ ∧
    (_ -> lumaSize configuration ≤ _) ∧ _ <-> _
  constructor
  · intro h
    rcases h with ⟨_, _, hluma, _, hlz4, hrest⟩
    refine ⟨hluma, hlz4, fun y uv hy huv => ?_⟩
    exact (writePlanes_survives_iff hheight).mp ((survives_bind_iff.mp (hrest y hy)).2 uv huv)
  · intro h
    rcases h with ⟨hluma, hlz4, hrest⟩
    refine ⟨hstride, hstride, hluma, Nat.le_trans hchroma hluma, hlz4,
      fun y hy => survives_bind_iff.mpr ⟨?_, fun uv huv => ?_⟩⟩
    · refine (maybeCompress_survives_iff codecs).mpr fun h => ?_
      rw [List.length_replicate]
      exact Nat.le_trans hchroma (hlz4 h)
    · exact (writePlanes_survives_iff hheight).mpr (hrest y uv hy huv)

/-- What the functions of `LZ4Codec` that compress give: nothing for no bytes,
and else an output that was cut to a count of 32 bits. -/
structure Lz4Bounded (codecs : PlaneCodecs) : Prop where
  empty : codecs.lz4Compress [] = some []
  length_le : forall data out, codecs.lz4Compress data = some out ->
    out.length ≤ swiftInt32Max

/-- The sizes of the black planes can be computed and written down.  Zstd
decides how large they become. -/
def BodySafe (configuration : SessionConfiguration) : Prop :=
  if configuration.wireCompression = 1 then
    lumaSize configuration ≤ swiftInt32Max ∧
      stubStride configuration ≤ swiftUInt32Max
  else if configuration.wireCompression = 2 then
    lumaSize configuration ≤ swiftIntMax ∧
      forall y uv,
        codecs.zstdCompress (List.replicate (lumaSize configuration) 0) =
          some y ->
        codecs.zstdCompress (List.replicate (chromaSize configuration) 0) =
          some uv ->
        stubStride configuration ≤ swiftUInt32Max ∧
          y.length ≤ swiftUInt32Max ∧ uv.length ≤ swiftUInt32Max
  else
    lumaSize configuration ≤ swiftUInt32Max ∧
      stubStride configuration ≤ swiftUInt32Max

theorem maybeCompress_lz4 {data out : List UInt8} :
    maybeCompress codecs 1 data = .ok out <->
      data.length ≤ swiftInt32Max ∧ codecs.lz4Compress data = some out := by
  unfold maybeCompress PlaneCodecs.narrowCount
  rw [if_pos rfl, if_pos rfl]
  rcases Nat.lt_or_ge swiftInt32Max data.length with hlt | hle
  · rw [swiftInt32_of_lt hlt]
    exact iff_of_false (fun h => nomatch h) fun h =>
      absurd h.1 (Nat.not_le_of_lt hlt)
  · rw [swiftInt32_of_le hle, and_iff_right hle]
    cases codecs.lz4Compress data with
    | none => exact iff_of_false (fun h => nomatch h) fun h => nomatch h
    | some compressed =>
        constructor
        · intro h
          cases h
          rfl
        · intro h
          cases h
          rfl

theorem maybeCompress_zstd {wireCompression : Int} {data out : List UInt8}
    (h : wireCompression = 2) :
    maybeCompress codecs wireCompression data = .ok out <->
      codecs.zstdCompress data = some out := by
  have hne : wireCompression ≠ 1 := by
    rw [h]
    decide
  unfold maybeCompress PlaneCodecs.narrowCount
  rw [if_neg hne]
  show (if _ then _ else _) = _ <-> _
  rw [if_neg hne, if_pos h]
  cases codecs.zstdCompress data with
  | none => exact iff_of_false (fun h => nomatch h) fun h => nomatch h
  | some compressed =>
      constructor
      · intro h
        cases h
        rfl
      · intro h
        cases h
        rfl

theorem maybeCompress_plain {wireCompression : Int} {data : List UInt8}
    (hlz4 : wireCompression ≠ 1) (hzstd : wireCompression ≠ 2) :
    maybeCompress codecs wireCompression data = .ok data := by
  unfold maybeCompress PlaneCodecs.narrowCount
  rw [if_neg hlz4]
  show (if _ then _ else _) = _
  rw [if_neg hlz4, if_neg hzstd]
  rfl

theorem frameBody_survives_iff_bodySafe (hlz4 : Lz4Bounded codecs)
    {configuration : SessionConfiguration}
    (hwidth : configuration.width ≤ swiftUInt32Max)
    (hheight : configuration.height ≤ swiftUInt32Max) (pts dur : UInt64) :
    Survives (frameBody codecs configuration pts dur) <->
      BodySafe codecs configuration := by
  have hchroma := chromaSize_le configuration
  rw [frameBody_survives_iff codecs hwidth hheight]
  unfold BodySafe
  by_cases hone : configuration.wireCompression = 1
  · rw [if_pos hone, hone, imp_iff_right rfl]
    simp only [maybeCompress_lz4, List.length_replicate]
    constructor
    · intro h
      rcases h with ⟨_, hluma, h⟩
      refine ⟨hluma, ?_⟩
      rcases Nat.eq_zero_or_pos configuration.height with hzero | hpos
      · -- no samples, but the strides are written
        have hnone : lumaSize configuration = 0 := by
          unfold lumaSize
          rw [hzero, Nat.mul_zero]
        have hempty : codecs.lz4Compress (List.replicate 0 0) = some [] :=
          hlz4.empty
        rw [hnone] at hchroma h
        rw [Nat.le_zero.mp hchroma] at h
        exact (h [] [] ⟨Nat.zero_le _, hempty⟩ ⟨Nat.zero_le _, hempty⟩).1
      · exact Nat.le_trans (Nat.le_mul_of_pos_right _ hpos)
          (Nat.le_trans hluma (by decide))
    · intro h
      rcases h with ⟨hluma, hstride⟩
      refine ⟨Nat.le_trans hluma (by decide), hluma, fun y uv hy huv => ?_⟩
      exact ⟨hstride, Nat.le_trans (hlz4.length_le _ y hy.2) (by decide),
        Nat.le_trans (hlz4.length_le _ uv huv.2) (by decide)⟩
  · rw [if_neg hone]
    by_cases htwo : configuration.wireCompression = 2
    · rw [if_pos htwo]
      simp only [maybeCompress_zstd codecs htwo]
      exact and_congr_right fun _ => and_iff_right fun h => absurd h hone
    · rw [if_neg htwo]
      simp only [maybeCompress_plain codecs hone htwo]
      constructor
      · intro h
        rcases h with ⟨_, _, h⟩
        have hfits := h _ _ rfl rfl
        rw [List.length_replicate] at hfits
        exact ⟨hfits.2.1, hfits.1⟩
      · intro h
        rcases h with ⟨hluma, hstride⟩
        refine ⟨Nat.le_trans hluma (by decide), fun h => absurd h hone, ?_⟩
        intro y uv hy huv
        cases hy
        cases huv
        rw [List.length_replicate, List.length_replicate]
        exact ⟨hstride, hluma, Nat.le_trans hchroma hluma⟩

theorem readStubPacket_neverTraps : ByteReader.NeverTraps readStubPacket :=
  ByteReader.readBEUInt64_neverTraps.bind fun _ =>
    ByteReader.readBEUInt64_neverTraps.bind fun _ =>
      ByteReader.readBEUInt64_neverTraps.bind fun _ =>
        ByteReader.readBEUInt32_neverTraps.bind fun _ =>
          ByteReader.readBEUInt32_neverTraps.bind fun _ =>
            (ByteReader.readBytes_neverTraps _).bind fun _ =>
              ByteReader.NeverTraps.pure _

/-- No PACKET traps a stub of this configuration. -/
def ConfigurationSurvives (configuration : SessionConfiguration) : Prop :=
  forall (s : StubCodecSession) (payload : List UInt8),
    s.config = some configuration ->
      Survives (s.handlePacketMessage codecs payload)

theorem configurationSurvives_iff (hlz4 : Lz4Bounded codecs)
    {configuration : SessionConfiguration}
    (hwidth : configuration.width ≤ swiftUInt32Max)
    (hheight : configuration.height ≤ swiftUInt32Max) :
    ConfigurationSurvives codecs configuration <->
      (configuration.mode = .decode -> BodySafe codecs configuration) := by
  have hbody := frameBody_survives_iff_bodySafe codecs hlz4 hwidth hheight
  constructor
  · intro h hmode
    -- a PACKET of no bytes
    have hpacket := h { config := some configuration } (List.replicate 32 0) rfl
    unfold handlePacketMessage at hpacket
    dsimp only at hpacket
    rw [if_neg (not_not.mpr hmode)] at hpacket
    have hread : exists reader, readStubPacket (ByteReader.init
        (List.replicate 32 0)) = .ok ((0, 0), reader) := ⟨_, rfl⟩
    rcases hread with ⟨reader, hread⟩
    have hsurvives := (survives_bind_iff.mp hpacket).2 _ hread
    exact (hbody 0 0).mp (survives_bind_iff.mp hsurvives).1
  · intro hsafe s payload hconfig
    unfold handlePacketMessage
    rw [hconfig]
    dsimp only
    by_cases hmode : configuration.mode = .decode
    · rw [if_neg (not_not.mpr hmode)]
      refine survives_bind_iff.mpr ⟨readStubPacket_neverTraps _, ?_⟩
      intro h _
      rcases h with ⟨⟨pts, dur⟩, reader⟩
      exact survives_bind_iff.mpr
        ⟨(hbody pts dur).mpr (hsafe hmode), fun _ _ => .ok _⟩
    · rw [if_pos hmode]
      exact .ok _

end StubCodecSession

/-!
## Both sessions
-/

theorem ConfigureRequest.decode_fits {canonical : String -> String}
    {payload : List UInt8} {request : ConfigureRequest canonical}
    (h : ConfigureRequest.decode canonical payload = .ok request) :
    request.width ≤ swiftUInt32Max ∧ request.height ≤ swiftUInt32Max := by
  unfold ConfigureRequest.decode at h
  cases hread : ConfigureRequest.read canonical (ByteReader.init payload) with
  | error e =>
      rw [hread] at h
      cases h
  | ok p =>
      rcases p with ⟨read, reader⟩
      rw [hread] at h
      cases h
      unfold ConfigureRequest.read at hread
      rcases bind_eq_ok hread with ⟨width, _, _, hread⟩
      rcases bind_eq_ok hread with ⟨height, _, _, hread⟩
      rcases bind_eq_ok hread with ⟨_, _, _, hread⟩
      rcases bind_eq_ok hread with ⟨_, _, _, hread⟩
      rcases bind_eq_ok hread with ⟨_, _, _, hread⟩
      rcases bind_eq_ok hread with ⟨_, _, _, hread⟩
      rcases bind_eq_ok hread with ⟨_, _, _, hread⟩
      rcases bind_eq_ok hread with ⟨_, _, _, hread⟩
      rcases bind_eq_ok hread with ⟨_, _, _, hread⟩
      cases hread
      exact ⟨Nat.le_of_lt_succ width.toNat_lt,
        Nat.le_of_lt_succ height.toNat_lt⟩

/-- Which configurations the sessions survive, for every request that can be
decoded. -/
theorem configuration_survived_iff (canonical : String -> String)
    (appleSilicon : Bool) {codecs : PlaneCodecs}
    (hlz4 : StubCodecSession.Lz4Bounded codecs) (codec : VideoCodec)
    {payload : List UInt8} {request : ConfigureRequest canonical}
    (hdecode : ConfigureRequest.decode canonical payload = .ok request) :
    let config := SetupConfiguration.init canonical codec request
    (VideoToolboxCodecSession.ConfigurationSurvives appleSilicon config <->
      config.timebase.den ≤ swiftInt32Max ∧
        (VideoToolboxCodecSession.NarrowsDimensions appleSilicon config ->
          VideoToolboxCodecSession.DimensionsFit config)) ∧
    (StubCodecSession.ConfigurationSurvives codecs
        config.toSessionConfiguration <->
      (config.mode = .decode ->
        StubCodecSession.BodySafe codecs config.toSessionConfiguration)) := by
  intro config
  rcases ConfigureRequest.decode_fits hdecode with ⟨hwidth, hheight⟩
  exact
    ⟨VideoToolboxCodecSession.configurationSurvives_iff appleSilicon hwidth,
      StubCodecSession.configurationSurvives_iff codecs hlz4 hwidth hheight⟩

def configurePayload (den : List UInt8) : List UInt8 :=
  [0, 0, 0, 2, 0, 0, 0, 2, 1, 0, 0, 0, 1] ++ den ++
    [0, 0, 0, 25, 0, 0, 0, 1]

def boundedCodecs : PlaneCodecs where
  lz4Compress data := if data.length ≤ swiftInt32Max then some data else none
  lz4DecompressSafe data _ := some data
  zstdCompress data := some data
  zstdDecompressRaw data _ := some data

theorem boundedCodecs_lz4Bounded : StubCodecSession.Lz4Bounded boundedCodecs where
  empty := rfl
  length_le := by
    intro data out h
    rcases Option.ite_none_right_eq_some.mp h with ⟨hle, hout⟩
    cases hout
    exact hle

theorem configuration_survived_iff_small :
    exists request : ConfigureRequest id,
      ConfigureRequest.decode id (configurePayload [0, 0, 0, 25]) =
        .ok request ∧
      VideoToolboxCodecSession.ConfigurationSurvives true
        (SetupConfiguration.init id .h264 request) ∧
      StubCodecSession.ConfigurationSurvives boundedCodecs
        (SetupConfiguration.init id .h264 request).toSessionConfiguration := by
  have hdecode : exists request : ConfigureRequest id,
      ConfigureRequest.decode id (configurePayload [0, 0, 0, 25]) =
        .ok request := ⟨_, rfl⟩
  rcases hdecode with ⟨request, hdecode⟩
  have hiff := configuration_survived_iff id true boundedCodecs_lz4Bounded
    .h264 hdecode
  cases hdecode
  refine ⟨_, rfl, hiff.1.mpr ⟨by decide, fun _ => ⟨by decide, by decide⟩⟩,
    hiff.2.mpr fun hmode => ?_⟩
  exact absurd hmode (by decide +kernel)

/-- A denominator of `2 ^ 31` is out of range for the times of the session. -/
theorem configuration_of_large_denominator_traps :
    ¬ forall (canonical : String -> String) (appleSilicon : Bool)
        (codecs : PlaneCodecs) (codec : VideoCodec) (payload : List UInt8)
        (request : ConfigureRequest canonical),
      StubCodecSession.Lz4Bounded codecs ->
      ConfigureRequest.decode canonical payload = .ok request ->
      VideoToolboxCodecSession.ConfigurationSurvives appleSilicon
          (SetupConfiguration.init canonical codec request) ∧
        StubCodecSession.ConfigurationSurvives codecs
          (SetupConfiguration.init canonical codec
            request).toSessionConfiguration := by
  intro h
  have hsurvives := (h id true boundedCodecs .h264
    (configurePayload [128, 0, 0, 0]) _ boundedCodecs_lz4Bounded rfl).1
  exact hsurvives.cmTime 0 rfl

end VTRemote
