import VTRemote.Formats.FramePlanes
import VTRemote.Server.PlaneCopies

/-!
# Frames that trap the server

Each integer operation of `handleFrameMessage` whose operands come from the
wire has values that it traps on.  What a FRAME must be for a session to
survive it is said here in terms of the fields of the payload, and so is what a
session refuses, because a refused plane ends the work before the rest of the
payload is looked at.
-/

namespace VTRemote

open Grammar

theorem read_cases {α : Type} {read : ReaderM α} {d : Decoder α}
    (hf : SwiftFollows read d) (hr : SwiftRefuses read d)
    (ht : ByteReader.NeverTraps read) (r : ByteReader) :
    (d r.ahead = none ∧ exists e, read r = .error (.thrown e)) ∨
      exists a rest r', d r.ahead = some (a, rest) ∧ read r = .ok (a, r') ∧
        r'.ahead = rest := by
  cases hd : d r.ahead with
  | none =>
      rcases hr r trivial hd with ⟨e, he⟩
      cases e with
      | thrown e => exact .inl ⟨rfl, e, he⟩
      | trapped => exact absurd he (ht r)
  | some p =>
      rcases p with ⟨a, rest⟩
      rcases hf r a rest trivial hd with ⟨r', hread, _, hrest⟩
      exact .inr ⟨a, rest, r', rfl, hread, hrest⟩

theorem readSideData_cases (r : ByteReader) :
    (Frame.decodeSideData r.ahead = none ∧
        exists e, readSideData r = .error (.thrown e)) ∨
      exists sideData r', Frame.decodeSideData r.ahead ≠ none ∧
        readSideData r = .ok (sideData, r') := by
  cases hd : Frame.decodeSideData r.ahead with
  | none =>
      rcases readSideData_refuses.of_map trivial hd with ⟨e, he⟩
      cases e with
      | thrown e => exact .inl ⟨rfl, e, he⟩
      | trapped => exact absurd he (readSideData_neverTraps r)
  | some p =>
      rcases p with ⟨entries, rest⟩
      rcases readSideData_follows.of_map trivial hd with ⟨r', hread, _, _⟩
      exact .inr ⟨_, r', Option.some_ne_none _, hread⟩

/-!
## The VideoToolbox session
-/

section VideoToolbox

variable (codecs : PlaneCodecs)

/-- The copy of a plane survives: its size can be decompressed to, and its
rows can be computed unless the plane is refused before. -/
def PlaneSafe (wireCompression : Int) (rowBytes : Nat)
    (dest : Option DestPlane) (p : PlaneMessage) : Prop :=
  forall d, dest = some d ->
    (wireCompression = 0 ∨ DecompressSafe wireCompression p.data p.size) ∧
    (planeSource codecs wireCompression p.data p.size = none ∨
      CopySafe d.stride p.stride.toNat rowBytes p.height.toNat)

/-- A plane too small for its size, or one that does not decompress. -/
def PlaneRefused (wireCompression : Int) (dest : Option DestPlane)
    (p : PlaneMessage) : Prop :=
  dest ≠ none ∧ planeSource codecs wireCompression p.data p.size = none

theorem processPlane_cases (wireCompression : Int) (rowBytes : Nat)
    (dest : Option DestPlane) (p : PlaneMessage) (hsize : p.size ≤ swiftIntMax) :
    let result := processPlane codecs wireCompression dest p.data p.size
      p.stride.toNat rowBytes
    (¬ PlaneSafe codecs wireCompression rowBytes dest p ∧
        result = .error .trapped) ∨
      (PlaneSafe codecs wireCompression rowBytes dest p ∧
        PlaneRefused codecs wireCompression dest p ∧
        result = .error (.thrown (planeRefusal wireCompression))) ∨
      (PlaneSafe codecs wireCompression rowBytes dest p ∧
        ¬ PlaneRefused codecs wireCompression dest p ∧
        exists copy, result = .ok copy) := by
  intro result
  cases dest with
  | none =>
      refine .inr (.inr ⟨?_, ?_, none, rfl⟩)
      · intro d hd
        cases hd
      · intro h
        exact h.1 rfl
  | some dest =>
      have hsafe : PlaneSafe codecs wireCompression rowBytes (some dest) p <->
          (wireCompression = 0 ∨
            DecompressSafe wireCompression p.data p.size) ∧
          (planeSource codecs wireCompression p.data p.size = none ∨
            CopySafe dest.stride p.stride.toNat rowBytes p.height.toNat) := by
        constructor
        · intro h
          exact h dest rfl
        · intro h d hd
          cases hd
          exact h
      have hresult : result = _ :=
        processPlane_eq codecs wireCompression dest p.data hsize
      rw [show p.stride.toNat * p.height.toNat = p.size from rfl] at hresult
      rw [hsafe, hresult]
      unfold PlaneRefused
      by_cases hdecompress : wireCompression = 0 ∨
          DecompressSafe wireCompression p.data p.size
      · rw [if_pos hdecompress]
        cases hsource :
            planeSource codecs wireCompression p.data p.size with
        | none =>
            exact .inr (.inl ⟨⟨hdecompress, .inl rfl⟩,
              ⟨Option.some_ne_none dest, rfl⟩, rfl⟩)
        | some source =>
            dsimp only
            by_cases hcopy :
                CopySafe dest.stride p.stride.toNat rowBytes p.height.toNat
            · rw [if_pos hcopy]
              exact .inr (.inr ⟨⟨hdecompress, .inr hcopy⟩,
                fun h => Option.some_ne_none source h.2, _, rfl⟩)
            · rw [if_neg hcopy]
              refine .inl ⟨?_, rfl⟩
              intro h
              rcases h with ⟨_, h | h⟩
              · cases h
              · exact hcopy h
      · rw [if_neg hdecompress]
        exact .inl ⟨fun h => hdecompress h.1, rfl⟩

structure PlanesSafe (config : ClientConfiguration)
    (pool : Except VTRemotedError PixelBuffer) (planes : FramePlanes)
    (rest : List UInt8) : Prop where
  sizeY : planes.y.size ≤ swiftIntMax
  sizeUV : planes.uv.size ≤ swiftIntMax
  rowBytes : forall buffer, pool = .ok buffer ->
    config.width * VideoToolboxCodecSession.bytesPerSample config ≤ swiftIntMax
  y : forall buffer, pool = .ok buffer ->
    PlaneSafe codecs config.wireCompression
      (config.width * VideoToolboxCodecSession.bytesPerSample config)
      (buffer.plane 0) planes.y
  uv : forall buffer, pool = .ok buffer ->
    PlaneSafe codecs config.wireCompression
      (config.width * VideoToolboxCodecSession.bytesPerSample config)
      (buffer.plane 1) planes.uv
  -- the time stamp is computed for a frame that is otherwise in order
  timescale : forall buffer, pool = .ok buffer ->
    PlaneRefused codecs config.wireCompression (buffer.plane 0) planes.y ∨
    PlaneRefused codecs config.wireCompression (buffer.plane 1) planes.uv ∨
    Frame.decodeSideData rest = none ∨
    config.timebase.den ≤ swiftInt32Max

theorem sideData_time_survive_iff {β : Type} (ticks : Int64) (timebase : Timebase)
    (reader : ByteReader) (next : List SideDataMessage × ByteReader -> CMTime -> β) :
    (readSideData reader >>= fun read => cmTime ticks timebase >>= fun time =>
        pure (next read time)) ≠ Except.error Failure.trapped <->
      Frame.decodeSideData reader.ahead = none ∨ timebase.den ≤ swiftInt32Max := by
  rcases readSideData_cases reader with
    ⟨hnone, e, hread⟩ | ⟨sideData, reader', hsome, hread⟩
  · rw [hread]
    exact iff_of_true (fun h => nomatch h) (.inl hnone)
  · rw [hread]
    show (cmTime ticks timebase >>= _) ≠ _ <-> _
    rcases Nat.lt_or_ge swiftInt32Max timebase.den with hlt | hden
    · rw [(cmTime_trapped_iff _ _).mpr hlt]
      apply iff_of_false
      · exact fun h => h rfl
      · exact fun h => h.elim hsome (Nat.not_le_of_lt hlt)
    · rcases cmTime_of_le hden ticks with ⟨time, htime⟩
      rw [htime]
      exact iff_of_true (fun h => nomatch h) (.inr hden)

theorem planesSafe_iff_of_buffer {config : ClientConfiguration} {buffer : PixelBuffer}
    {planes : FramePlanes} {rest : List UInt8} (hsizeY : planes.y.size ≤ swiftIntMax)
    (hsizeUV : planes.uv.size ≤ swiftIntMax)
    (hrow : config.width * VideoToolboxCodecSession.bytesPerSample config ≤
      swiftIntMax) :
    PlanesSafe codecs config (.ok buffer) planes rest <->
      PlaneSafe codecs config.wireCompression
        (config.width * VideoToolboxCodecSession.bytesPerSample config)
        (buffer.plane 0) planes.y ∧
      PlaneSafe codecs config.wireCompression
        (config.width * VideoToolboxCodecSession.bytesPerSample config)
        (buffer.plane 1) planes.uv ∧
      (PlaneRefused codecs config.wireCompression (buffer.plane 0) planes.y ∨
        PlaneRefused codecs config.wireCompression (buffer.plane 1) planes.uv ∨
        Frame.decodeSideData rest = none ∨
        config.timebase.den ≤ swiftInt32Max) := by
  constructor
  · intro h
    exact ⟨h.y buffer rfl, h.uv buffer rfl, h.timescale buffer rfl⟩
  · intro h
    rcases h with ⟨hy, huv, htime⟩
    constructor
    · exact hsizeY
    · exact hsizeUV
    all_goals
      intro buffer' h
      cases h
    · exact hrow
    · exact hy
    · exact huv
    · exact htime

theorem encodePlanes_survives_iff (s : VideoToolboxCodecSession)
    (config : ClientConfiguration) (pool : Except VTRemotedError PixelBuffer)
    (planes : FramePlanes) (reader : ByteReader) :
    s.encodePlanes codecs config pool planes reader ≠ .error .trapped <->
      PlanesSafe codecs config pool planes reader.ahead := by
  unfold VideoToolboxCodecSession.encodePlanes
  dsimp only
  rcases Nat.lt_or_ge swiftIntMax planes.y.size with hlt | hsizeY
  · rw [swiftInt_of_lt hlt]
    exact iff_of_false (fun h => h rfl) fun h => Nat.not_lt_of_le h.sizeY hlt
  rw [swiftInt_of_le hsizeY]
  rcases Nat.lt_or_ge swiftIntMax planes.uv.size with hlt | hsizeUV
  · rw [swiftInt_of_lt hlt]
    exact iff_of_false (fun h => h rfl) fun h => Nat.not_lt_of_le h.sizeUV hlt
  rw [swiftInt_of_le hsizeUV]
  cases pool with
  | error e =>
      refine iff_of_true (fun h => nomatch h) ?_
      constructor
      · exact hsizeY
      · exact hsizeUV
      all_goals
        intro buffer h
        cases h
  | ok buffer =>
      show (swiftInt _ >>= _) ≠ _ <-> _
      rcases Nat.lt_or_ge swiftIntMax (config.width *
        VideoToolboxCodecSession.bytesPerSample config) with hlt | hrow
      · rw [swiftInt_of_lt hlt]
        exact iff_of_false (fun h => h rfl)
          fun h => Nat.not_lt_of_le (h.rowBytes buffer rfl) hlt
      rw [swiftInt_of_le hrow, planesSafe_iff_of_buffer codecs hsizeY hsizeUV hrow]
      show (concurrentPerform _ _ >>= _) ≠ _ <-> _
      have hy := processPlane_cases codecs config.wireCompression
        (config.width * VideoToolboxCodecSession.bytesPerSample config)
        (buffer.plane 0) planes.y hsizeY
      have huv := processPlane_cases codecs config.wireCompression
        (config.width * VideoToolboxCodecSession.bytesPerSample config)
        (buffer.plane 1) planes.uv hsizeUV
      dsimp only at hy huv
      generalize processPlane codecs config.wireCompression (buffer.plane 0)
        planes.y.data planes.y.size planes.y.stride.toNat _ = result0 at hy ⊢
      generalize processPlane codecs config.wireCompression (buffer.plane 1)
        planes.uv.data planes.uv.size planes.uv.stride.toNat _ = result1
        at huv ⊢
      rcases hy with ⟨h0, rfl⟩ | ⟨h0, href0, rfl⟩ | ⟨h0, hok0, copy0, rfl⟩
      · exact iff_of_false (fun h => h rfl) fun h => h0 h.1
      · rcases huv with ⟨h1, rfl⟩ | ⟨h1, _, rfl⟩ | ⟨h1, _, copy1, rfl⟩
        · exact iff_of_false (fun h => h rfl) fun h => h1 h.2.1
        · exact iff_of_true (fun h => nomatch h) ⟨h0, h1, .inl href0⟩
        · exact iff_of_true (fun h => nomatch h) ⟨h0, h1, .inl href0⟩
      · rcases huv with ⟨h1, rfl⟩ | ⟨h1, href1, rfl⟩ | ⟨h1, hok1, copy1, rfl⟩
        · exact iff_of_false (fun h => h rfl) fun h => h1 h.2.1
        · exact iff_of_true (fun h => nomatch h) ⟨h0, h1, .inr (.inl href1)⟩
        · -- both planes are copied
          rw [and_iff_right h0, and_iff_right h1, or_iff_right hok0, or_iff_right hok1]
          exact sideData_time_survive_iff planes.ptsTicks config.timebase reader _

/-- Of every payload: what a FRAME must be for the session to survive it. -/
def FrameSafe (config : ClientConfiguration)
    (pool : Except VTRemotedError PixelBuffer) (payload : List UInt8) : Prop :=
  forall planes rest, framePlanes payload = some (planes, rest) ->
    PlanesSafe codecs config pool planes rest

theorem VideoToolboxCodecSession.handleFrameMessage_survives_iff
    (s : VideoToolboxCodecSession) (pool : Except VTRemotedError PixelBuffer)
    (payload : List UInt8) :
    s.handleFrameMessage codecs pool payload ≠ .error .trapped <->
      forall config, s.config = some config -> config.mode = .encode ->
        s.compressionSession = true -> FrameSafe codecs config pool payload := by
  unfold handleFrameMessage
  cases hconfig : s.config with
  | none => exact iff_of_true (fun h => nomatch h) fun _ h => nomatch h
  | some config =>
      dsimp only
      by_cases hmode : config.mode ≠ .encode
      · rw [if_pos hmode]
        refine iff_of_true (fun h => nomatch h) ?_
        intro config' h hencode
        cases h
        exact absurd hencode hmode
      rw [if_neg hmode]
      cases hsession : s.compressionSession with
      | false =>
          rw [if_pos rfl]
          exact iff_of_true (fun h => nomatch h) fun _ _ _ h => nomatch h
      | true =>
          rw [if_neg Bool.noConfusion]
          have hforall : (forall config', some config = some config' ->
              config'.mode = .encode -> true = true ->
                FrameSafe codecs config' pool payload) <->
              FrameSafe codecs config pool payload := by
            constructor
            · intro h
              exact h config rfl (not_not.mp hmode) rfl
            · intro h config' heq _ _
              cases heq
              exact h
          rw [hforall]
          rcases read_cases readFramePlanes_follows readFramePlanes_refuses
            readFramePlanes_neverTraps (ByteReader.init payload) with
            ⟨hnone, e, hread⟩ | ⟨planes, rest, reader, hsome, hread, hrest⟩
          · rw [hread]
            refine iff_of_true (fun h => nomatch h) ?_
            intro planes rest hsome
            rw [ByteReader.ahead_init] at hnone
            rw [hnone] at hsome
            cases hsome
          · rw [hread]
            rw [ByteReader.ahead_init] at hsome
            have hplanes : FrameSafe codecs config pool payload <->
                PlanesSafe codecs config pool planes reader.ahead := by
              unfold FrameSafe
              rw [hsome, hrest]
              constructor
              · intro h
                exact h planes rest rfl
              · intro h planes' rest' heq
                cases heq
                exact h
            rw [hplanes, <- encodePlanes_survives_iff codecs s config pool
              planes reader]
            show (s.encodePlanes codecs config pool planes reader >>= _) ≠ _ <-> _
            cases s.encodePlanes codecs config pool planes reader with
            | error e =>
                cases e with
                | thrown e =>
                    exact iff_of_true (fun h => nomatch h) fun h => nomatch h
                | trapped => exact iff_of_false (fun h => h rfl) fun h => h rfl
            | ok result => exact iff_of_true (fun h => nomatch h) fun h => nomatch h

end VideoToolbox
/-!
## The stub
-/

namespace StubCodecSession

variable (codecs : PlaneCodecs)

/-- The size of a plane is an `Int`, and LZ4's numbers fit it. -/
def PlaneSafe (wireCompression : Int) (p : PlaneMessage) : Prop :=
  p.size ≤ swiftIntMax ∧
    (wireCompression = 1 -> p.size = 0 ∨
      (p.data.length ≤ swiftInt32Max ∧ p.size ≤ swiftInt32Max))

def PlaneRefused (wireCompression : Int) (p : PlaneMessage) : Prop :=
  (wireCompression = 1 ∨ wireCompression = 2) ∧ p.size ≠ 0 ∧
    (p.data = [] ∨ codecs.decoded wireCompression p.data p.size = none)

theorem lz4DecompressData_cases (p : PlaneMessage) :
    let safe := p.size = 0 ∨
      (p.data.length ≤ swiftInt32Max ∧ p.size ≤ swiftInt32Max)
    let refused := p.size ≠ 0 ∧
      (p.data = [] ∨ codecs.decoded 1 p.data p.size = none)
    (¬ safe ∧ codecs.lz4DecompressData p.data p.size = .error .trapped) ∨
      (safe ∧ refused ∧ codecs.lz4DecompressData p.data p.size = .ok none) ∨
      (safe ∧ ¬ refused ∧
        exists data, codecs.lz4DecompressData p.data p.size = .ok (some data)) := by
  intro safe refused
  unfold PlaneCodecs.lz4DecompressData
  rcases Nat.eq_zero_or_pos p.size with hzero | hpos
  · rw [if_neg fun h => Nat.ne_of_gt h.2 hzero, hzero]
    exact .inr (.inr ⟨.inl hzero, fun h => h.1 hzero, [], rfl⟩)
  · have hsafe : safe <->
        p.data.length ≤ swiftInt32Max ∧ p.size ≤ swiftInt32Max :=
      or_iff_right (Nat.ne_of_gt hpos)
    rw [hsafe]
    cases hdata : p.data with
    | nil =>
        rw [if_pos ⟨rfl, hpos⟩]
        rcases Nat.lt_or_ge swiftInt32Max p.size with hlt | hle
        · rw [swiftInt32_of_lt hlt]
          exact .inl ⟨fun h => Nat.not_lt_of_le h.2 hlt, rfl⟩
        · rw [swiftInt32_of_le hle]
          exact .inr (.inl ⟨⟨Nat.zero_le _, hle⟩,
            ⟨Nat.ne_of_gt hpos, .inl hdata⟩, rfl⟩)
    | cons b rest =>
        rw [if_neg fun h => Bool.noConfusion h.1, <- hdata,
          lz4Decompress_eq codecs p.data hpos]
        by_cases hfit :
            p.data.length ≤ swiftInt32Max ∧ p.size ≤ swiftInt32Max
        · rw [if_pos hfit]
          cases hdecoded : PlaneCodecs.ofSize
              (codecs.lz4DecompressSafe p.data p.size) p.size with
          | none =>
              exact .inr (.inl ⟨hfit,
                ⟨Nat.ne_of_gt hpos, .inr hdecoded⟩, rfl⟩)
          | some data =>
              refine .inr (.inr ⟨hfit, ?_, data, rfl⟩)
              intro h
              rcases h with ⟨_, h | h⟩
              · rw [hdata] at h
                cases h
              · have hone : codecs.decoded 1 p.data p.size = some data :=
                  hdecoded
                rw [hone] at h
                cases h
        · rw [if_neg hfit]
          exact .inl ⟨hfit, rfl⟩

theorem zstdDecompressData_eq_none_iff (p : PlaneMessage) :
    codecs.zstdDecompressData p.data p.size = none <->
      p.size ≠ 0 ∧ (p.data = [] ∨ codecs.decoded 2 p.data p.size = none) := by
  unfold PlaneCodecs.zstdDecompressData PlaneCodecs.zstdDecompress
  rcases Nat.eq_zero_or_pos p.size with hzero | hpos
  · rw [if_neg fun h => Nat.ne_of_gt h.2 hzero, if_pos hzero]
    exact iff_of_false (fun h => nomatch h) fun h => h.1 hzero
  · rw [if_neg (Nat.ne_of_gt hpos), and_iff_right (Nat.ne_of_gt hpos)]
    cases hdata : p.data with
    | nil =>
        rw [if_pos ⟨rfl, hpos⟩]
        exact iff_of_true rfl (.inl rfl)
    | cons b rest =>
        rw [if_neg fun h => Bool.noConfusion h.1,
          or_iff_right (List.cons_ne_nil b rest)]
        exact Iff.rfl

theorem planeData_cases (wireCompression : Int) {p : PlaneMessage}
    (hsize : p.size ≤ swiftIntMax) :
    let result := planeData codecs wireCompression p.data p.size
    (¬ PlaneSafe wireCompression p ∧ result = .error .trapped) ∨
      (PlaneSafe wireCompression p ∧ PlaneRefused codecs wireCompression p ∧
        exists e, result = .error (.thrown e)) ∨
      (PlaneSafe wireCompression p ∧ ¬ PlaneRefused codecs wireCompression p ∧
        exists data, result = .ok data) := by
  intro result
  have hresult : result = planeData codecs wireCompression p.data p.size := rfl
  unfold planeData at hresult
  by_cases hlz4 : wireCompression = 1
  · subst hlz4
    rw [if_pos rfl] at hresult
    rcases lz4DecompressData_cases codecs p with
      ⟨hbad, hdata⟩ | ⟨hsafe, href, hdata⟩ | ⟨hsafe, href, data, hdata⟩
    · rw [hdata] at hresult
      exact .inl ⟨fun h => hbad (h.2 rfl), hresult⟩
    · rw [hdata] at hresult
      exact .inr (.inl ⟨⟨hsize, fun _ => hsafe⟩, ⟨.inl rfl, href⟩, _, hresult⟩)
    · rw [hdata] at hresult
      exact .inr (.inr ⟨⟨hsize, fun _ => hsafe⟩, fun h => href h.2, _, hresult⟩)
  · have hsafe : PlaneSafe wireCompression p :=
      ⟨hsize, fun h => absurd h hlz4⟩
    rw [if_neg hlz4] at hresult
    by_cases hzstd : wireCompression = 2
    · subst hzstd
      rw [if_pos rfl] at hresult
      have href := zstdDecompressData_eq_none_iff codecs p
      cases hdata : codecs.zstdDecompressData p.data p.size with
      | none =>
          rw [hdata] at hresult
          exact .inr (.inl ⟨hsafe, ⟨.inr rfl, href.mp hdata⟩, _, hresult⟩)
      | some data =>
          rw [hdata] at hresult
          refine .inr (.inr ⟨hsafe, fun h => ?_, _, hresult⟩)
          rw [href.mpr h.2] at hdata
          cases hdata
    · rw [if_neg hzstd] at hresult
      exact .inr (.inr ⟨hsafe, fun h => h.1.elim hlz4 hzstd, _, hresult⟩)

theorem readStubPlane_eq (wireCompression : Int) :
    readStubPlane codecs wireCompression = (do
      let p ← readPlane
      let expectedSize ← swiftInt p.size
      planeData codecs wireCompression p.data expectedSize) := by
  simp only [readStubPlane, readPlane, ByteReader.sliceRange, bind_assoc,
    pure_bind]
  rfl

/-- A plane ahead that is there survives, and what comes after it as well
unless the plane is refused. -/
def PlaneThen (wireCompression : Int) (ahead : List UInt8)
    (next : List UInt8 -> Prop) : Prop :=
  forall p rest, Plane.decode ahead = some (p, rest) ->
    PlaneSafe wireCompression p.toMessage ∧
      (PlaneRefused codecs wireCompression p.toMessage ∨ next rest)

theorem planeThen_iff_of_decode (wireCompression : Int)
    {ahead rest : List UInt8} {p : Plane} (next : List UInt8 -> Prop)
    (h : Plane.decode ahead = some (p, rest)) :
    PlaneThen codecs wireCompression ahead next <->
      PlaneSafe wireCompression p.toMessage ∧
        (PlaneRefused codecs wireCompression p.toMessage ∨ next rest) := by
  constructor
  · intro hthen
    exact hthen p rest h
  · intro hplane p' rest' hsome
    rw [h] at hsome
    cases hsome
    exact hplane

theorem readStubPlane_cases (wireCompression : Int) (r : ByteReader) :
    ((exists e, readStubPlane codecs wireCompression r = .error (.thrown e)) ∧
        forall next, PlaneThen codecs wireCompression r.ahead next) ∨
      (readStubPlane codecs wireCompression r = .error .trapped ∧
        forall next, ¬ PlaneThen codecs wireCompression r.ahead next) ∨
      exists data r', readStubPlane codecs wireCompression r = .ok (data, r') ∧
        forall next, PlaneThen codecs wireCompression r.ahead next <->
          next r'.ahead := by
  rw [readStubPlane_eq]
  cases hd : Plane.decode r.ahead with
  | none =>
      rcases readPlane_refuses.of_map trivial hd with ⟨e, he⟩
      cases e with
      | trapped => exact absurd he (readPlane_neverTraps r)
      | thrown e =>
          refine .inl ⟨⟨e, bind_of_error he⟩, ?_⟩
          intro next p rest hsome
          rw [hd] at hsome
          cases hsome
  | some result =>
      rcases result with ⟨p, rest⟩
      rcases readPlane_follows.of_map trivial hd with ⟨r', hread, _, rfl⟩
      have hthen := fun next =>
        planeThen_iff_of_decode codecs wireCompression next hd
      rw [bind_of_ok hread]
      rcases Nat.lt_or_ge swiftIntMax p.toMessage.size with hlt | hsize
      · rw [swiftInt_of_lt hlt]
        refine .inr (.inl ⟨rfl, fun next h => ?_⟩)
        exact Nat.not_lt_of_le ((hthen next).mp h).1.1 hlt
      · rw [swiftInt_of_le hsize]
        show (exists e, (planeData codecs wireCompression _ _ >>= _) = _) ∧ _ ∨
          (planeData codecs wireCompression _ _ >>= _) = _ ∧ _ ∨
          exists data r'', (planeData codecs wireCompression _ _ >>= _) = _ ∧ _
        rcases planeData_cases codecs wireCompression hsize with
          ⟨hbad, hdata⟩ | ⟨hsafe, href, e, hdata⟩ | ⟨hsafe, hok, data, hdata⟩
        · rw [hdata]
          exact .inr (.inl ⟨rfl, fun next h => hbad ((hthen next).mp h).1⟩)
        · rw [hdata]
          exact .inl ⟨⟨e, rfl⟩, fun next => (hthen next).mpr ⟨hsafe, .inl href⟩⟩
        · rw [hdata]
          refine .inr (.inr ⟨data, r', rfl, fun next => ?_⟩)
          rw [hthen next, and_iff_right hsafe, or_iff_right hok]

/-- The tracker has a later time stamp to give, or the frame is skipped. -/
def TrackerSafe (t : TimestampTracker) (pts : Int64) : Prop :=
  t.lastDtsTicks = Int64.maxValue ->
    pts = t.lastPtsTicks ∧ t.lastPtsTicks ≠ Int64.minValue

theorem process_survives_iff (t : TimestampTracker) (pts : Int64) :
    t.process pts pts ≠ .error .trapped <-> TrackerSafe t pts := by
  have hclamp : TimestampTracker.clampToPts pts pts = pts := ite_self pts
  unfold TimestampTracker.process TrackerSafe
  by_cases hskip : pts = t.lastPtsTicks ∧ t.lastPtsTicks ≠ Int64.minValue
  · rw [if_pos hskip]
    exact iff_of_true (fun h => nomatch h) fun _ => hskip
  · rw [if_neg hskip]
    dsimp only
    rw [hclamp]
    by_cases hmax : t.lastDtsTicks = Int64.maxValue
    · have hlate : t.lastDtsTicks ≠ Int64.minValue ∧ pts ≤ t.lastDtsTicks := by
        rw [hmax]
        exact ⟨by decide, Int64.le_maxValue pts⟩
      rw [if_pos hlate, if_pos hmax]
      exact iff_of_false (fun h => h rfl) fun h => hskip (h hmax)
    · rw [if_neg hmax]
      refine iff_of_true ?_ fun h => absurd h hmax
      split
      · exact fun h => nomatch h
      · exact fun h => nomatch h

def FrameSafe (configuration : SessionConfiguration)
    (tracker : TimestampTracker) (payload : List UInt8) : Prop :=
  forall pts duration flags rest,
    frameHead payload = some ((pts, duration, flags), rest) ->
      PlaneThen codecs configuration.wireCompression rest fun rest0 =>
        PlaneThen codecs configuration.wireCompression rest0 fun _ =>
          TrackerSafe tracker pts.toInt64

/-- The reads of a frame end in an error that the tracker has no part in, or
leave it to the tracker. -/
theorem readStubFrame_cases (configuration : SessionConfiguration)
    (payload : List UInt8) :
    let read := readStubFrame codecs configuration.wireCompression
      (ByteReader.init payload)
    ((exists e, read = .error (.thrown e)) ∧
        forall tracker, FrameSafe codecs configuration tracker payload) ∨
      (read = .error .trapped ∧
        forall tracker, ¬ FrameSafe codecs configuration tracker payload) ∨
      exists frame r', read = .ok (frame, r') ∧
        forall tracker, FrameSafe codecs configuration tracker payload <->
          TrackerSafe tracker frame.pts := by
  intro read
  have hread : read = _ := congrFun
    (readStubFrame_eq codecs configuration.wireCompression) _
  rcases read_cases readFrameHead_follows readFrameHead_refuses
    readFrameHead_neverTraps (ByteReader.init payload) with
    ⟨hnone, e, he⟩ | ⟨⟨pts, dur, flags⟩, rest, r, hhead, hok, rfl⟩
  · rw [bind_of_error he] at hread
    refine .inl ⟨⟨e, hread⟩, ?_⟩
    intro tracker pts dur flags rest hsome
    rw [ByteReader.ahead_init] at hnone
    rw [hnone] at hsome
    cases hsome
  rw [bind_of_ok hok] at hread
  rw [ByteReader.ahead_init] at hhead
  have hsafe : forall tracker,
      FrameSafe codecs configuration tracker payload <->
        PlaneThen codecs configuration.wireCompression r.ahead fun rest0 =>
          PlaneThen codecs configuration.wireCompression rest0 fun _ =>
            TrackerSafe tracker pts.toInt64 := by
    intro tracker
    constructor
    · intro h
      exact h pts dur flags r.ahead hhead
    · intro h pts' dur' flags' rest' hsome
      rw [hhead] at hsome
      cases hsome
      exact h
  simp only [hsafe]
  simp only [readTimes, bind_assoc, pure_bind] at hread
  rcases readStubPlane_cases codecs configuration.wireCompression r with
    ⟨⟨e, hy⟩, hthen0⟩ | ⟨hy, hthen0⟩ | ⟨y, r0, hy, hthen0⟩
  · rw [bind_of_error hy] at hread
    exact .inl ⟨⟨e, hread⟩, fun _ => hthen0 _⟩
  · rw [bind_of_error hy] at hread
    exact .inr (.inl ⟨hread, fun _ => hthen0 _⟩)
  rw [bind_of_ok hy] at hread
  simp only [hthen0]
  rcases readStubPlane_cases codecs configuration.wireCompression r0 with
    ⟨⟨e, huv⟩, hthen1⟩ | ⟨huv, hthen1⟩ | ⟨uv, r1, huv, hthen1⟩
  · rw [bind_of_error huv] at hread
    exact .inl ⟨⟨e, hread⟩, fun _ => hthen1 _⟩
  · rw [bind_of_error huv] at hread
    exact .inr (.inl ⟨hread, fun _ => hthen1 _⟩)
  rw [bind_of_ok huv] at hread
  exact .inr (.inr ⟨_, r1, hread, fun _ => hthen1 _⟩)

theorem packetBody_annexB (pts dts dur : Int64) (flags : UInt32)
    (planes : List (List UInt8)) :
    exists body, packetBody pts dts dur flags (annexB planes) = .ok body := by
  have hlen : (annexB planes).length ≤ 4294967295 := by
    have htake := List.length_take_le 16 (planes.headD [])
    unfold annexB
    rw [List.length_append]
    exact Nat.le_trans (Nat.add_le_add_left htake _) (by decide)
  have hcount : swiftUInt32 (annexB planes).length = .ok _ := if_pos hlen
  unfold packetBody encodedSampleMessage
  rw [hcount]
  exact ⟨_, rfl⟩

theorem handleFrameMessage_survives_iff (s : StubCodecSession)
    (payload : List UInt8) :
    s.handleFrameMessage codecs payload ≠ .error .trapped <->
      forall configuration, s.config = some configuration ->
        configuration.mode = .encode ->
          FrameSafe codecs configuration s.timestampTracker payload := by
  unfold handleFrameMessage
  cases hconfig : s.config with
  | none => exact iff_of_true (fun h => nomatch h) fun _ h => nomatch h
  | some configuration =>
      dsimp only
      by_cases hmode : configuration.mode ≠ .encode
      · rw [if_pos hmode]
        refine iff_of_true (fun h => nomatch h) ?_
        intro configuration' h hencode
        cases h
        exact absurd hencode hmode
      rw [if_neg hmode]
      have hforall : (forall configuration',
          some configuration = some configuration' ->
          configuration'.mode = .encode ->
            FrameSafe codecs configuration' s.timestampTracker payload) <->
          FrameSafe codecs configuration s.timestampTracker payload := by
        constructor
        · intro h
          exact h configuration rfl (not_not.mp hmode)
        · intro h configuration' heq _
          cases heq
          exact h
      rw [hforall]
      rcases readStubFrame_cases codecs configuration payload with
        ⟨⟨e, hread⟩, hsafe⟩ | ⟨hread, hsafe⟩ | ⟨frame, r', hread, hsafe⟩
      · rw [hread]
        exact iff_of_true (fun h => nomatch h) (hsafe _)
      · rw [hread]
        exact iff_of_false (fun h => h rfl) (hsafe _)
      · rw [hread, hsafe, <- process_survives_iff]
        show (s.timestampTracker.process frame.pts frame.pts >>= _) ≠ _ <-> _
        cases hprocess : s.timestampTracker.process frame.pts frame.pts with
        | error e =>
            cases e with
            | thrown e =>
                exact iff_of_true (fun h => nomatch h) fun h => nomatch h
            | trapped => exact iff_of_false (fun h => h rfl) fun h => h rfl
        | ok result =>
            rcases result with ⟨result, tracker⟩
            refine iff_of_true ?_ fun h => nomatch h
            cases result with
            | skip => exact fun h => nomatch h
            | emit dts =>
                rcases packetBody_annexB frame.pts dts frame.dur frame.flags
                  frame.planes with ⟨body, hbody⟩
                show (packetBody _ _ _ _ _ >>= _) ≠ _
                rw [hbody]
                exact fun h => nomatch h

end StubCodecSession
/-!
## Both sessions
-/

/-- Which frames either session survives. -/
theorem frames_survived_iff (codecs : PlaneCodecs) (payload : List UInt8) :
    (forall (s : VideoToolboxCodecSession)
        (pool : Except VTRemotedError PixelBuffer),
      s.handleFrameMessage codecs pool payload ≠ .error .trapped <->
        forall config, s.config = some config -> config.mode = .encode ->
          s.compressionSession = true ->
            FrameSafe codecs config pool payload) ∧
    (forall s : StubCodecSession,
      s.handleFrameMessage codecs payload ≠ .error .trapped <->
        forall configuration, s.config = some configuration ->
          configuration.mode = .encode ->
            StubCodecSession.FrameSafe codecs configuration s.timestampTracker
              payload) :=
  ⟨fun s pool => s.handleFrameMessage_survives_iff codecs pool payload,
    fun s => s.handleFrameMessage_survives_iff codecs payload⟩

/-- A luma plane of stride zero, uncompressed, for a buffer with rows: the
division by the stride traps. -/
theorem frame_of_stride_zero_traps :
    ¬ forall (codecs : PlaneCodecs) (payload : List UInt8)
        (s : VideoToolboxCodecSession)
        (pool : Except VTRemotedError PixelBuffer) (stub : StubCodecSession),
      (forall config, s.config = some config ->
        config.wireCompression = 0 ∨ config.wireCompression = 1 ∨
          config.wireCompression = 2) ->
      (forall configuration, stub.config = some configuration ->
        configuration.wireCompression = 0 ∨
          configuration.wireCompression = 1 ∨
          configuration.wireCompression = 2) ->
      s.handleFrameMessage codecs pool payload ≠ .error .trapped ∧
        stub.handleFrameMessage codecs payload ≠ .error .trapped := by
  intro h
  have hsurvives := h
    ⟨fun _ => none, fun _ _ => none, fun _ => none, fun _ _ => none⟩
    (List.replicate 20 0 ++ [2] ++ [0, 0, 0, 0, 0, 0, 0, 1, 0, 0, 0, 0] ++
      [0, 0, 0, 0, 0, 0, 0, 1, 0, 0, 0, 0])
    { config := some
        { mode := .encode, width := 2, height := 2, pixelFormat := 1
          wireCompression := 0, codec := .h264, timebase := ⟨1, 25⟩ }
      compressionSession := true }
    (.ok ⟨fun _ => some ⟨64, 2, fun _ => 0⟩⟩)
    {}
    (fun config hconfig => by
      cases hconfig
      exact .inl rfl)
    (fun configuration hconfig => nomatch hconfig)
  exact hsurvives.1 (by rfl)

end VTRemote
