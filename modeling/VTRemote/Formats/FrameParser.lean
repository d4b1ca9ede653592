import VTRemote.Formats.FrameGrammar
import VTRemote.Proto.Overreads

/-!
# What the client's parser accepts

`vtremote_parse_frame` against the texts of a FRAME.  It takes exactly these and
shows exactly their data, unless it comes to want a word so close to the largest
`int` that the test in `rbuf_need` wraps.
-/

namespace VTRemote

open Grammar Format

/-!
## Refused parts
-/

section Parts

variable (payload : Bytes)

theorem planeView_refuses :
    OverRefuses payload planeView (Plane.toView <$> Plane.decode) := by
  unfold planeView Plane.decode
  simp only [map_bind, map_pure, blobDecoder_count32, bind_assoc]
  apply Refuses.bind (vtremoteRbufReadU32_over payload)
    (vtremoteRbufReadU32_refuses payload)
  intro stride
  apply Refuses.bind (vtremoteRbufReadU32_over payload)
    (vtremoteRbufReadU32_refuses payload)
  intro height
  apply Refuses.bind (vtremoteRbufReadU32_over payload)
    (vtremoteRbufReadU32_refuses payload)
  intro dataLen
  apply Refuses.bind (rbufSection_over payload dataLen)
    (rbufSection_refuses payload dataLen)
  intro data r _ hnone
  cases hnone

theorem sideDataView_refuses :
    OverRefuses payload sideDataView (SideData.toView <$> SideData.decode) := by
  unfold sideDataView SideData.decode
  simp only [map_bind, map_pure, blobDecoder_count32, bind_assoc]
  apply Refuses.bind (vtremoteRbufReadU32_over payload)
    (vtremoteRbufReadU32_refuses payload)
  intro type
  apply Refuses.bind (vtremoteRbufReadU32_over payload)
    (vtremoteRbufReadU32_refuses payload)
  intro size
  apply Refuses.bind (rbufSection_over payload size)
    (rbufSection_refuses payload size)
  intro data r _ hnone
  cases hnone

theorem planeView_over :
    OverFollows payload planeView (Plane.toView <$> Plane.decode) :=
  planeView_follows.over planeView_keepsData payload

theorem sideDataView_over :
    OverFollows payload sideDataView (SideData.toView <$> SideData.decode) :=
  sideDataView_follows.over sideDataView_keepsData payload

theorem sideDataSection_refuses :
    OverRefuses payload sideDataSection
      (List.map SideData.toView <$> Frame.decodeSideData) := by
  unfold Frame.decodeSideData
  rw [Decoder.map_ifAny]
  simp only [map_bind]
  apply Refuses.ifAny (do
    let sdCount ← vtremoteRbufReadU8
    readTimes sideDataView sdCount.toNat)
  · apply Refuses.bind (vtremoteRbufReadU8_over payload)
      (vtremoteRbufReadU8_refuses payload)
    intro count
    exact Refuses.times_map (sideDataView_over payload)
      (sideDataView_refuses payload) count.toNat
  · intro r hr hne
    exact if_pos (hr.wellFormed.pos_lt_iff.mpr hne)

theorem frameView_refuses :
    OverRefuses payload frameView
      (Frame.toView <$> Frame.decode fun count => count ≤ 4) := by
  unfold frameView Frame.decode
  simp only [map_bind, map_pure]
  apply Refuses.bind (vtremoteRbufReadU64_over payload)
    (vtremoteRbufReadU64_refuses payload)
  intro pts
  apply Refuses.bind (vtremoteRbufReadU64_over payload)
    (vtremoteRbufReadU64_refuses payload)
  intro duration
  apply Refuses.bind (vtremoteRbufReadU32_over payload)
    (vtremoteRbufReadU32_refuses payload)
  intro flags
  apply Refuses.bind (vtremoteRbufReadU8_over payload)
    (vtremoteRbufReadU8_refuses payload)
  intro count
  apply Refuses.require_bind
  intro _
  apply Refuses.bind_map (Follows.times_map (planeView_over payload) count.toNat)
    (Refuses.times_map (planeView_over payload) (planeView_refuses payload)
      count.toNat)
  intro planes
  apply Refuses.bind_map
    (sideDataSection_follows.over sideDataSection_keepsData payload)
    (sideDataSection_refuses payload)
  intro sideData r _ hnone
  cases hnone

end Parts

/-!
## The words that can be run past
-/

/-- Behind the head: some planes, and words of the next one's head; or all
planes, a count, some entries, and words of the next one's head. -/
inductive WordDue (count : UInt8) : Bytes -> Prop where
  | plane {front : Bytes}
      (h : DueAmong Plane.encode Plane.Fits (WordsDue 3) count.toNat front) :
      WordDue count front
  | sideData {planes : List Plane} {sdCount : UInt8} {front : Bytes}
      (hplanes : Items Plane.Fits count.toNat planes)
      (h : DueAmong SideData.encode SideData.Fits (WordsDue 2) sdCount.toNat front) :
      WordDue count (planes.flatMap Plane.encode ++ (u8.encode sdCount ++ front))

/-- The payload ends in a word that is due in the last four bytes below the
largest `int`. -/
def Overruns (payload : Bytes) : Prop :=
  exists (pts duration : UInt64) (flags : UInt32) (count : UInt8) (front cut : Bytes),
    count ≤ 4 ∧ WordDue count front ∧ WrapsAt payload cut ∧
      payload = Frame.head pts duration flags count ++ (front ++ cut)

def SideDataDue (front : Bytes) : Prop :=
  exists (sdCount : UInt8) (rest : Bytes), front = u8.encode sdCount ++ rest ∧
    DueAmong SideData.encode SideData.Fits (WordsDue 2) sdCount.toNat rest

section Overruns

variable {payload : Bytes}

theorem sideDataSection_overreads :
    Overreads payload sideDataSection SideDataDue := by
  intro r hr
  cases hahead : r.ahead with
  | nil =>
      have hread : sideDataSection r = .ok ([], r) :=
        if_neg fun hpos => hr.wellFormed.pos_lt_iff.mp hpos hahead
      rw [hread]
      constructor
      · exact fun h => nomatch h
      · intro h
        rcases h with ⟨front, cut, hnil, ⟨sdCount, rest, hfront, _⟩, _⟩
        rw [hfront] at hnil
        cases hnil
  | cons sdCount bytes =>
      have hd : u8.decode r.ahead = some (sdCount, bytes) := by
        rw [hahead]
        rfl
      rcases vtremoteRbufReadU8_over payload r sdCount bytes hr hd with
        ⟨r1, hread, hr1, hahead1⟩
      have hne : r.ahead ≠ [] := by
        rw [hahead]
        exact List.cons_ne_nil _ _
      have hsection : sideDataSection r = readTimes sideDataView sdCount.toNat r1 :=
        (if_pos (hr.wellFormed.pos_lt_iff.mpr hne)).trans (bind_of_ok hread)
      have htimes := FailsBehind.times SideData.reads (sideDataView_over payload)
        (sideDataView_refuses payload) sideDataView_overreads sdCount.toNat r1 hr1
      rw [hsection, htimes, hahead1]
      constructor
      · intro h
        rcases h with ⟨front, cut, hbytes, hdue, hcut⟩
        refine ⟨sdCount :: front, cut, ?_, ⟨sdCount, front, rfl, hdue⟩, hcut⟩
        rw [hbytes]
        rfl
      · intro h
        rcases h with ⟨front, cut, hbytes, ⟨count, rest, hfront, hdue⟩, hcut⟩
        rw [hfront] at hbytes
        cases hbytes
        exact ⟨rest, cut, rfl, hdue, hcut⟩

theorem wordDue_iff {count : UInt8} {front : Bytes} :
    WordDue count front <->
      DueAmong Plane.encode Plane.Fits (WordsDue 3) count.toNat front ∨
        exists planes rest, Items Plane.Fits count.toNat planes ∧
          front = planes.flatMap Plane.encode ++ rest ∧ SideDataDue rest := by
  constructor
  · intro h
    cases h with
    | plane h => exact Or.inl h
    | sideData hplanes h => exact Or.inr ⟨_, _, hplanes, rfl, _, _, rfl, h⟩
  · intro h
    rcases h with h | ⟨planes, rest, hplanes, hfront, sdCount, last, hrest, hdue⟩
    · exact .plane h
    · rw [hfront, hrest]
      exact .sideData hplanes hdue

def frameTail (pts duration : UInt64) (flags : UInt32) (planeCount : UInt8) :
    RbufRead VTRemoteFrameView := do
  let planes ← readTimes planeView planeCount.toNat
  let sideData ← sideDataSection
  pure
    { pts := pts.toInt64
      duration := duration.toInt64
      flags := flags
      planeCount := planeCount
      planes := planes
      sideDataCount := UInt8.ofNat (min sideData.length 8)
      sideData := sideData.take 8 }

theorem frameTail_overreads (pts duration : UInt64) (flags : UInt32) (count : UInt8) :
    Overreads payload (frameTail pts duration flags count) (WordDue count) := by
  have hplanes := FailsBehind.times Plane.reads (planeView_over payload)
    (planeView_refuses payload) planeView_overreads count.toNat
  unfold frameTail
  apply (FailsBehind.bind_map (Plane.reads.times count.toNat)
    (Follows.times_map (planeView_over payload) count.toNat)
    (Refuses.times_map (planeView_over payload) (planeView_refuses payload)
      count.toNat) hplanes fun planes _ =>
        sideDataSection_overreads.map _).of_iff
  exact fun front => wordDue_iff.symm

theorem frameView_of_head (hmax : (payload.length : Int) ≤ intMax)
    {pts duration : UInt64} {flags : UInt32} {count : UInt8} {rest : Bytes}
    (hpayload : payload = Frame.head pts duration flags count ++ rest) :
    exists r, r.Over payload ∧ r.ahead = rest ∧
      frameView (vtremoteRbufInit payload payload.length) =
        if count ≤ 4 then frameTail pts duration flags count r
        else .error (.returned averrorInvaliddata) := by
  have hahead : (vtremoteRbufInit payload payload.length).ahead =
      u64.encode pts ++ (u64.encode duration ++
        (u32.encode flags ++ (u8.encode count ++ rest))) := by
    rw [VTRemoteRBuf.ahead_init]
    simp only [hpayload, Frame.head, List.append_assoc]
  rcases (vtremoteRbufReadU64_over payload).read_encode (VTRemoteRBuf.over_init hmax)
    hahead with ⟨r1, hread1, h1, hahead1⟩
  rcases (vtremoteRbufReadU64_over payload).read_encode h1 hahead1 with
    ⟨r2, hread2, h2, hahead2⟩
  rcases (vtremoteRbufReadU32_over payload).read_encode h2 hahead2 with
    ⟨r3, hread3, h3, hahead3⟩
  rcases (vtremoteRbufReadU8_over payload).read_encode h3 hahead3 with
    ⟨r4, hread4, h4, hahead4⟩
  refine ⟨r4, h4, hahead4, ?_⟩
  unfold frameView
  rw [bind_of_ok hread1, bind_of_ok hread2, bind_of_ok hread3, bind_of_ok hread4]
  by_cases hcount : count ≤ 4
  · have hrequire : readRequire (decide (count ≤ 4))
        (AccessError.returned averrorInvaliddata) r4 = .ok ((), r4) :=
      if_pos (decide_eq_true hcount)
    rw [if_pos hcount, bind_of_ok hrequire]
    rfl
  · have hrequire : readRequire (decide (count ≤ 4))
        (AccessError.returned averrorInvaliddata) r4 =
          .error (.returned averrorInvaliddata) :=
      if_neg (ne_true_of_eq_false (decide_eq_false hcount))
    rw [if_neg hcount, bind_of_error hrequire]

theorem exists_head {payload : Bytes} (h : 21 ≤ payload.length) :
    exists pts duration flags count rest,
      payload = Frame.head pts duration flags count ++ rest := by
  have hlong : 8 + (8 + (4 + (1 + 0))) ≤ payload.length := h
  rcases u64_split hlong with ⟨pts, m1, h1, hlong⟩
  rcases u64_split hlong with ⟨duration, m2, h2, hlong⟩
  rcases u32_split hlong with ⟨flags, m3, h3, hlong⟩
  rcases u8.exists_of_length (fun _ => rfl) u8_decode_none hlong with
    ⟨count, rest, h4, _⟩
  refine ⟨pts, duration, flags, count, rest, ?_⟩
  rw [h1, h2, h3, h4]
  simp only [Frame.head, List.append_assoc]

theorem map_fst_eq_error {ε α β : Type} {x : Except ε (α × β)} {e : ε} :
    x.map Prod.fst = .error e <-> x = .error e := by
  cases x with
  | error e' =>
      exact ⟨fun h => congrArg _ (Except.error.inj h),
        fun h => congrArg _ (Except.error.inj h)⟩
  | ok p => exact ⟨fun h => (nomatch h), fun h => (nomatch h)⟩

theorem vtremoteParseFrame_of_long (h : 21 ≤ payload.length) :
    vtremoteParseFrame payload payload.length =
      (frameView (vtremoteRbufInit payload payload.length)).map Prod.fst :=
  if_neg (by omega)

theorem vtremoteParseFrame_of_short (h : payload.length < 21) :
    vtremoteParseFrame payload payload.length =
      .error (.returned (averror einval)) :=
  if_pos (by omega)

/-- The parser reads past the end exactly on the payloads that overrun. -/
theorem vtremoteParseFrame_overreads_iff (hmax : (payload.length : Int) ≤ intMax) :
    vtremoteParseFrame payload payload.length = .error .outOfRange <->
      Overruns payload := by
  constructor
  · intro h
    by_cases hlong : 21 ≤ payload.length
    · rcases exists_head hlong with ⟨pts, duration, flags, count, rest, hpayload⟩
      rcases frameView_of_head hmax hpayload with ⟨r, hr, hahead, hview⟩
      rw [vtremoteParseFrame_of_long hlong, map_fst_eq_error, hview] at h
      by_cases hcount : count ≤ 4
      · rw [if_pos hcount] at h
        rcases (frameTail_overreads pts duration flags count r hr).mp h with
          ⟨front, cut, hrest, hdue, hcut⟩
        rw [hahead] at hrest
        rw [hrest] at hpayload
        exact ⟨pts, duration, flags, count, front, cut, hcount, hdue, hcut, hpayload⟩
      · rw [if_neg hcount] at h
        cases h
    · rw [vtremoteParseFrame_of_short (Nat.lt_of_not_le hlong)] at h
      cases h
  · intro h
    rcases h with
      ⟨pts, duration, flags, count, front, cut, hcount, hdue, hcut, hpayload⟩
    have hlong : 21 ≤ payload.length := by
      rw [hpayload, List.length_append]
      exact Nat.le_add_right 21 _
    rcases frameView_of_head hmax hpayload with ⟨r, hr, hahead, hview⟩
    rw [vtremoteParseFrame_of_long hlong, map_fst_eq_error, hview, if_pos hcount]
    exact (frameTail_overreads pts duration flags count r hr).mpr
      ⟨front, cut, hahead, hdue, hcut⟩

/-!
## Accepted payloads
-/

theorem vtremoteParseFrame_of_text (hmax : (payload.length : Int) ≤ intMax)
    {f : Frame} (h : f.Text payload) :
    vtremoteParseFrame payload payload.length = .ok f.toView := by
  rcases Frame.decode_iff.mpr h with ⟨rest, hd⟩
  have hlong : 21 ≤ payload.length := by
    rcases h.text with ⟨tail, _, hpayload⟩
    rw [hpayload, List.length_append]
    exact Nat.le_add_right 21 _
  rcases frameView_follows.of_map (VTRemoteRBuf.wellFormed_init hmax) hd with
    ⟨r, hview, _, _⟩
  rw [vtremoteParseFrame_of_long hlong, hview]
  rfl

theorem vtremoteParseFrame_of_not_text (hmax : (payload.length : Int) ≤ intMax)
    (h : forall f, ¬ Frame.Text f payload) :
    exists e, vtremoteParseFrame payload payload.length = .error e := by
  by_cases hlong : 21 ≤ payload.length
  · cases hd : Frame.decode (fun count => count ≤ 4) payload with
    | some p =>
        rcases p with ⟨f, rest⟩
        exact absurd (Frame.decode_iff.mp ⟨rest, hd⟩) (h f)
    | none =>
        rcases (frameView_refuses payload).of_map (VTRemoteRBuf.over_init hmax) hd with
          ⟨e, hview⟩
        exact ⟨e, by rw [vtremoteParseFrame_of_long hlong, map_fst_eq_error, hview]⟩
  · exact ⟨_, vtremoteParseFrame_of_short (Nat.lt_of_not_le hlong)⟩

end Overruns

structure Shows (payload : Bytes) (f : Frame) (view : VTRemoteFrameView) : Prop where
  eq : view = f.toView
  plane : forall i plane, view.planes[i]? = some plane ->
    plane.dataLen.toNat = plane.data.length ∧
      Frame.Stands payload (f.planeOffset i) plane.data
  sideData : forall i sd, view.sideData[i]? = some sd ->
    sd.size.toNat = sd.data.length ∧
      Frame.Stands payload (f.sideDataOffset i) sd.data

theorem Grammar.Frame.Text.shows {payload : Bytes} {f : Frame}
    (h : f.Text payload) : Shows payload f f.toView := by
  constructor
  · rfl
  · intro i plane hplane
    have hmap : (f.planes.map Plane.toView)[i]? = some plane := hplane
    rw [List.getElem?_map] at hmap
    rcases Option.map_eq_some_iff.mp hmap with ⟨p, hp, rfl⟩
    have hfits := h.fits.planeData p (List.mem_of_getElem? hp)
    exact ⟨UInt32.toNat_ofNat_of_lt' hfits, h.plane_stands hp⟩
  · intro i sd hsd
    have htake : ((f.sideData.map SideData.toView).take 8)[i]? = some sd := hsd
    have hi : i < 8 := by
      have hlt := (List.getElem?_eq_some_iff.mp htake).1
      rw [List.length_take] at hlt
      exact Nat.lt_of_lt_of_le hlt (Nat.min_le_left _ _)
    rw [List.getElem?_take_of_lt hi, List.getElem?_map] at htake
    rcases Option.map_eq_some_iff.mp htake with ⟨entry, hentry, rfl⟩
    have hfits := h.fits.sideDataData entry (List.mem_of_getElem? hentry)
    exact ⟨UInt32.toNat_ofNat_of_lt' hfits, h.sideData_stands hentry⟩

/-- Whatever a call of the parser can come to: it returns 0 exactly on the texts
of a frame of at most four planes, and then it shows the frame's data. -/
structure ParsesExactly (payload : Bytes) : Prop where
  accepts : forall result,
    Accesses.Allows (vtremoteParseFrame payload payload.length) result ->
      ((exists view, result = .ok view) <-> exists f, Frame.Text f payload)
  shows : forall view,
    Accesses.Allows (vtremoteParseFrame payload payload.length) (.ok view) ->
      exists f, Shows payload f view ∧ Frame.Text f payload

theorem parsesExactly_of_text {payload : Bytes}
    (hmax : (payload.length : Int) ≤ intMax) {f : Frame} (h : f.Text payload) :
    ParsesExactly payload := by
  have hparse := vtremoteParseFrame_of_text hmax h
  constructor
  · intro result hresult
    rw [hparse] at hresult
    exact ⟨fun _ => ⟨f, h⟩, fun _ => ⟨_, hresult⟩⟩
  · intro view hview
    rw [hparse] at hview
    cases hview
    exact ⟨f, h.shows, h⟩

theorem parsesExactly_of_returned {payload : Bytes} {e : AvError}
    (hparse : vtremoteParseFrame payload payload.length = .error (.returned e))
    (h : forall f, ¬ Frame.Text f payload) : ParsesExactly payload := by
  constructor
  · intro result hresult
    rw [hparse] at hresult
    cases hresult
    constructor
    · intro hview
      rcases hview with ⟨view, hview⟩
      cases hview
    · intro hf
      rcases hf with ⟨f, hf⟩
      exact absurd hf (h f)
  · intro view hview
    rw [hparse] at hview
    cases hview

theorem parsesExactly_of_inside {payload : Bytes}
    (hmax : (payload.length : Int) ≤ intMax)
    (h : vtremoteParseFrame payload payload.length ≠ .error .outOfRange) :
    ParsesExactly payload := by
  by_cases hsome : exists f, Frame.Text f payload
  · rcases hsome with ⟨f, hf⟩
    exact parsesExactly_of_text hmax hf
  · have hnone : forall f, ¬ Frame.Text f payload := fun f hf => hsome ⟨f, hf⟩
    rcases vtremoteParseFrame_of_not_text hmax hnone with ⟨e, he⟩
    cases e with
    | returned e => exact parsesExactly_of_returned he hnone
    | outOfRange => exact absurd he h

theorem not_text_of_outOfRange {payload : Bytes}
    (hmax : (payload.length : Int) ≤ intMax)
    (h : vtremoteParseFrame payload payload.length = .error .outOfRange) (f : Frame) :
    ¬ f.Text payload := by
  intro hf
  rw [vtremoteParseFrame_of_text hmax hf] at h
  cases h

/-- Past the end the parser can return 0 as well. -/
theorem not_parsesExactly_of_outOfRange {payload : Bytes}
    (hmax : (payload.length : Int) ≤ intMax)
    (h : vtremoteParseFrame payload payload.length = .error .outOfRange) :
    ¬ ParsesExactly payload := by
  intro hexact
  have hallows : forall result,
      Accesses.Allows (vtremoteParseFrame payload payload.length) result := by
    intro result
    rw [h]
    exact trivial
  let view : VTRemoteFrameView := ⟨0, 0, 0, 0, [], 0, []⟩
  rcases (hexact.accepts (.ok view) (hallows _)).mp ⟨view, rfl⟩ with ⟨f, hf⟩
  exact not_text_of_outOfRange hmax h f hf

theorem parsesExactly_iff {payload : Bytes} (hmax : (payload.length : Int) ≤ intMax) :
    ParsesExactly payload <-> ¬ Overruns payload := by
  rw [<- vtremoteParseFrame_overreads_iff hmax]
  constructor
  · exact fun hexact h => not_parsesExactly_of_outOfRange hmax h hexact
  · exact parsesExactly_of_inside hmax

/-!
## The writer's payloads
-/

def writtenView (pts duration : Int64) (flags : UInt32) (planeCount : UInt8)
    (planes : List FramePlane) (sideData : Option (List VTRemoteSideData))
    (sideDataCount : UInt8) : VTRemoteFrameView where
  pts := pts
  duration := duration
  flags := flags
  planeCount := planeCount
  planes := planes.map fun p => ⟨p.stride, p.height, p.size, p.data⟩
  sideDataCount := sideDataCount
  sideData := sideData.getD []

theorem payloadFrame_toView {pts duration : Int64} {flags : UInt32}
    {planeCount sideDataCount : UInt8} {planes : List FramePlane}
    {sideData : Option (List VTRemoteSideData)}
    (hargs : FrameArguments planeCount planes sideData sideDataCount)
    (hentries : sideDataCount ≤ 8) :
    (payloadFrame pts duration flags planes sideData).toView =
      writtenView pts duration flags planeCount planes sideData sideDataCount := by
  have hplaneCount : UInt8.ofNat (planes.map FramePlane.toWire).length = planeCount := by
    rw [List.length_map, hargs.planes_length]
    exact UInt8.ofNat_toNat
  have hplanes : (planes.map FramePlane.toWire).map Plane.toView =
      planes.map fun p => ⟨p.stride, p.height, p.size, p.data⟩ := by
    rw [List.map_map]
    apply List.map_congr_left
    intro p hp
    have hsize := ofNat_length_of_toNat (hargs.planes_sized p hp)
    show VTRemotePlaneView.mk p.stride p.height (UInt32.ofNat p.data.length) p.data = _
    rw [hsize]
  have hle : (sideData.getD []).length ≤ 8 := by
    rw [hargs.sideData_length]
    exact UInt8.le_iff_toNat_le.mp hentries
  have hviews : ((sideData.getD []).map VTRemoteSideData.toWire).map
      SideData.toView = sideData.getD [] := by
    rw [List.map_map]
    refine (List.map_congr_left ?_).trans (List.map_id _)
    intro sd hsd
    have hsize := ofNat_length_of_toNat (hargs.sideData_sized sd hsd)
    show VTRemoteSideData.mk sd.type (UInt32.ofNat sd.data.length) sd.data = _
    rw [hsize]
    rfl
  have hsideData : (((sideData.getD []).map VTRemoteSideData.toWire).map
      SideData.toView).take 8 = sideData.getD [] := by
    rw [hviews]
    exact List.take_of_length_le hle
  have hcount : UInt8.ofNat (min ((sideData.getD []).map
      VTRemoteSideData.toWire).length 8) = sideDataCount := by
    rw [List.length_map, Nat.min_eq_left hle, hargs.sideData_length]
    exact UInt8.ofNat_toNat
  unfold Frame.toView writtenView payloadFrame
  simp only [hplaneCount, hplanes, hsideData, hcount]
  rfl

theorem vtremoteParseFrame_written {pts duration : Int64} {flags : UInt32}
    {planeCount sideDataCount : UInt8} {planes : List FramePlane}
    {sideData : Option (List VTRemoteSideData)} {b : VTRemoteWBuf}
    (hargs : FrameArguments planeCount planes sideData sideDataCount)
    (hplanes : planeCount ≤ 4) (hentries : sideDataCount ≤ 8)
    (h : (vtremotePayloadFrame pts duration flags planeCount planes sideData
      sideDataCount b).1 = 0) :
    let payload := (vtremotePayloadFrame pts duration flags planeCount planes
      sideData sideDataCount b).2.contents
    vtremoteParseFrame payload payload.length = .ok
      (writtenView pts duration flags planeCount planes sideData sideDataCount) := by
  intro payload
  have hmax : (payload.length : Int) ≤ intMax := by
    have hle := (vtremotePayloadFrame pts duration flags planeCount planes sideData
      sideDataCount b).2.contents_length_le
    exact Int.ofNat_le.mpr hle
  have hpayload : payload = (payloadFrame pts duration flags planes sideData).encode :=
    vtremotePayloadFrame_encode hargs h
  have hfour : (payloadFrame pts duration flags planes sideData).planes.length ≤ 4 := by
    show (planes.map FramePlane.toWire).length ≤ 4
    rw [List.length_map, hargs.planes_length]
    exact UInt8.le_iff_toNat_le.mp hplanes
  rw [hpayload] at hmax ⊢
  rw [vtremoteParseFrame_encode (hargs.fits pts duration flags) hfour hmax,
    payloadFrame_toView hargs hentries]

/-- The parser does on a payload what the grammar says exactly if it does not run
past the end there, and it undoes the writer. -/
theorem vtremoteParseFrame_exact_iff {payload : Bytes}
    (hmax : (payload.length : Int) ≤ intMax) :
    (ParsesExactly payload <-> ¬ Overruns payload) ∧
    (forall (pts duration : Int64) (flags : UInt32) (planeCount : UInt8)
        (planes : List FramePlane) (sideData : Option (List VTRemoteSideData))
        (sideDataCount : UInt8) (b : VTRemoteWBuf),
      FrameArguments planeCount planes sideData sideDataCount ->
      planeCount ≤ 4 -> sideDataCount ≤ 8 ->
      (vtremotePayloadFrame pts duration flags planeCount planes sideData
        sideDataCount b).1 = 0 ->
      let written := (vtremotePayloadFrame pts duration flags planeCount planes
        sideData sideDataCount b).2.contents
      vtremoteParseFrame written written.length = .ok
        (writtenView pts duration flags planeCount planes sideData sideDataCount)) := by
  constructor
  · exact parsesExactly_iff hmax
  · intro pts duration flags planeCount planes sideData sideDataCount b hargs hplanes
      hentries h
    exact vtremoteParseFrame_written hargs hplanes hentries h

theorem vtremoteParseFrame_exact_iff_empty :
    ParsesExactly (List.replicate 21 0) ∧
      vtremoteParseFrame (vtremotePayloadFrame 10 2 1 1 [⟨[5, 6], 2, 1, 2⟩]
          (some [⟨7, 1, [9]⟩]) 1 (vtremoteWbufInit [])).2.contents
        (vtremotePayloadFrame 10 2 1 1 [⟨[5, 6], 2, 1, 2⟩] (some [⟨7, 1, [9]⟩]) 1
          (vtremoteWbufInit [])).2.contents.length =
        .ok ⟨10, 2, 1, 1, [⟨2, 1, 2, [5, 6]⟩], 1, [⟨7, 1, [9]⟩]⟩ := by
  have hboth := @vtremoteParseFrame_exact_iff (List.replicate 21 0) (by decide)
  constructor
  · apply hboth.1.mpr
    intro hoverruns
    rcases hoverruns with ⟨_, _, _, _, _, cut, _, _, hcut, _⟩
    have hwraps : (2147483647 : Int) < 21 - cut.length + 4 := hcut.wraps
    omega
  · apply hboth.2 10 2 1 1 [⟨[5, 6], 2, 1, 2⟩]
      (some [⟨7, 1, [9]⟩]) 1 (vtremoteWbufInit [])
    · constructor
      · rfl
      · rfl
      · intro p hp
        rw [List.mem_singleton.mp hp]
        rfl
      · intro sd hsd
        rw [List.mem_singleton.mp hsd]
        rfl
    · decide
    · decide
    · rfl

def cutSection (data : Bytes) : Bytes :=
  Frame.head 0 0 0 1 ++ (Plane.encode ⟨0, 0, data⟩ ++ u8.encode 1)

theorem cutSection_length (data : Bytes) :
    (cutSection data).length = data.length + 34 := by
  have hword : forall word, (u32.encode word).length = 4 := fun _ => rfl
  have hplane : (Plane.encode ⟨0, 0, data⟩).length = 12 + data.length := by
    unfold Plane.encode blob32
    simp only [List.length_append, hword]
    omega
  have hcount : (u8.encode 1).length = 1 := rfl
  unfold cutSection
  rw [List.length_append, List.length_append, Frame.head_length, hplane, hcount]
  omega

theorem cutSection_overruns {data : Bytes} (h : data.length = 2147483613) :
    Overruns (cutSection data) := by
  have hitems : Items Plane.Fits (1 : UInt8).toNat [⟨0, 0, data⟩] := by
    constructor
    · rfl
    · intro p hp
      rw [List.mem_singleton.mp hp]
      show data.length < 2 ^ 32
      omega
  have hdue : DueAmong SideData.encode SideData.Fits (WordsDue 2) (1 : UInt8).toNat [] :=
    ⟨[], [], Nat.one_pos, (fun sd hsd => nomatch hsd), rfl,
      [], [], Nat.two_pos, (fun word hword => nomatch hword), rfl, rfl⟩
  refine ⟨0, 0, 0, 1, _, [], by decide, .sideData hitems hdue, ?_, ?_⟩
  · constructor
    · exact Nat.succ_pos 3
    · have hlength := cutSection_length data
      unfold intMax
      rw [List.length_nil]
      omega
  · rw [List.append_nil, List.append_nil, List.flatMap_singleton]
    rfl

/-- A payload of the largest size whose last byte announces an entry of side
data: it is no frame, but the entry's type is read from behind it. -/
theorem cutSection_overreads :
    exists payload, payload = cutSection (List.replicate 2147483613 0) ∧
      (payload.length : Int) = intMax ∧
      vtremoteParseFrame payload payload.length = .error .outOfRange ∧
      (forall f, ¬ Frame.Text f payload) ∧ ¬ ParsesExactly payload := by
  have hdata : (List.replicate 2147483613 (0 : UInt8)).length = 2147483613 :=
    List.length_replicate
  have hlength : ((cutSection (List.replicate 2147483613 0)).length : Int) = intMax := by
    rw [cutSection_length, hdata]
    rfl
  have hmax := Int.le_of_eq hlength
  have hread := (vtremoteParseFrame_overreads_iff hmax).mpr (cutSection_overruns hdata)
  exact ⟨_, rfl, hlength, hread, not_text_of_outOfRange hmax hread,
    not_parsesExactly_of_outOfRange hmax hread⟩

end VTRemote
