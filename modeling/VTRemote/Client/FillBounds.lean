import VTRemote.Client.DecoderOutput

/-!
# The bounds of fill_frame_from_view

A frame that the decoder gives back was filled by the copies of its planes.
These stay inside exactly for the frames that the conditions on the wire describe.
-/

namespace VTRemote

attribute [local irreducible] cInt

/-!
## What a decoded frame went through
-/

def KeepsCompression {σ : Type} (s s' : VTRemoteDecContext σ) : Prop :=
  s'.wireCompression = s.wireCompression

instance {σ : Type} :
    IsPreorder (VTRemoteDecContext σ) (KeepsCompression (σ := σ)) where
  refl _ := rfl
  trans _ _ _ h1 h2 := h2.trans h1

section Decoded

variable {σ : Type} {link : Link σ} {libs : DecompressionLibraries}

theorem onDecLink_keeps {α : Type} (m : Call AvError σ α) :
    Call.Moves KeepsCompression (onDecLink m) := by
  intro s
  apply Call.ends_zoom
  cases m s.fd with
  | returned r t => exact rfl
  | blocked t => exact rfl

theorem growDecBuf_keeps (i : Fin 2) (expected : Int) :
    Call.Moves KeepsCompression (growDecBuf link i expected) := by
  apply Call.Moves.bind Call.Moves.get
  intro s
  apply Call.Moves.when
  apply Call.Moves.bind (onDecLink_keeps _)
  intro _
  exact Call.Moves.modify fun _ => rfl

theorem createDctx_keeps : Call.Moves KeepsCompression (createDctx link) := by
  apply Call.Moves.bind Call.Moves.get
  intro s
  apply Call.Moves.when
  apply Call.Moves.bind (onDecLink_keeps _)
  intro _
  exact Call.Moves.modify fun _ => rfl

theorem decompressPlane_eq_ok {view : VTRemoteFrameView} {i : Fin 2}
    {s s' : VTRemoteDecContext σ} {plane : VTRemotePlaneView}
    (h : decompressPlane link libs view i s = .returned (.ok plane) s') :
    0 < (view.plane i).expected ∧
      libs.decompress s.wireCompression (view.plane i) = .ok plane ∧
      s'.wireCompression = s.wireCompression := by
  unfold decompressPlane at h
  by_cases hpos : (view.plane i).expected ≤ 0
  · rw [if_pos hpos] at h
    cases h
  · rw [if_neg hpos] at h
    rcases Call.bind_eq_ok h with ⟨_, s1, hgrow, h⟩
    rcases Call.bind_eq_ok h with ⟨_, s2, hcreate, h⟩
    have hkeeps1 : KeepsCompression s s1 :=
      (growDecBuf_keeps i _).of_returned hgrow
    have hkeeps2 : KeepsCompression s1 s2 :=
      createDctx_keeps.of_returned hcreate
    have hkeeps : s2.wireCompression = s.wireCompression :=
      trans_of KeepsCompression hkeeps1 hkeeps2
    rw [Call.get_bind, hkeeps] at h
    refine ⟨Int.not_le.mp hpos, ?_⟩
    cases hplane : libs.decompress s.wireCompression (view.plane i) with
    | error e =>
        simp only [hplane] at h
        cases h
    | ok shown =>
        simp only [hplane] at h
        cases h
        exact ⟨rfl, hkeeps⟩

theorem decompressFrame_eq_ok {view shown : VTRemoteFrameView}
    {s s' : VTRemoteDecContext σ}
    (hcompressed : s.wireCompression = 1 ∨ s.wireCompression = 2)
    (h : decompressFrame link libs view s = .returned (.ok shown) s') :
    Decompresses libs s.wireCompression view shown := by
  unfold decompressFrame at h
  by_cases hplanar : view.planeCount < 2
  · rw [if_pos hplanar] at h
    cases h
  · rw [if_neg hplanar] at h
    rcases Call.bind_eq_ok h with ⟨plane0, s1, h0, h⟩
    rcases Call.bind_eq_ok h with ⟨plane1, s2, h1, h⟩
    cases h
    rcases decompressPlane_eq_ok h0 with ⟨hpos0, hplane0, hkeeps⟩
    rcases decompressPlane_eq_ok h1 with ⟨hpos1, hplane1, _⟩
    rw [hkeeps] at hplane1
    exact .planes plane0 plane1 hcompressed
      (Fin.forall_fin_two.mpr ⟨hpos0, hpos1⟩) hplane0 hplane1

theorem fillFrameFromView_eq_ok {avctx : AVCodecContext} {frame out : AVFrame}
    {view : VTRemoteFrameView} {s s' : VTRemoteDecContext σ}
    (h : fillFrameFromView link avctx frame view s = .returned (.ok out) s') :
    out.data = (filledFrame avctx frame view).data := by
  unfold fillFrameFromView at h
  by_cases hplanar : view.planeCount < 2
  · rw [if_pos hplanar] at h
    cases h
  · rw [if_neg hplanar] at h
    rcases Call.bind_eq_ok h with ⟨_, s1, _, h⟩
    rcases Call.bind_eq_ok h with ⟨added, s2, _, h⟩
    cases h
    rfl

theorem decodeFrame_eq_ok {avctx : AVCodecContext} {frame out : AVFrame}
    {payload : Bytes} {size : Int} {view : VTRemoteFrameView}
    (hparse : vtremoteParseFrame payload size = .ok view)
    {s s' : VTRemoteDecContext σ}
    (h : decodeFrame link libs avctx frame payload size s =
      .returned (.ok out) s') :
    exists shown, Decompresses libs s.wireCompression view shown ∧
      out.data = (filledFrame avctx frame shown).data := by
  unfold decodeFrame at h
  simp only [hparse, Call.get_bind] at h
  by_cases hcompressed : s.wireCompression = 1 ∨ s.wireCompression = 2
  · rw [if_pos hcompressed] at h
    rcases Call.bind_eq_ok h with ⟨shown, s1, hshown, hfill⟩
    exact ⟨shown, decompressFrame_eq_ok hcompressed hshown,
      fillFrameFromView_eq_ok hfill⟩
  · rw [if_neg hcompressed] at h
    exact ⟨view, .plain hcompressed, fillFrameFromView_eq_ok h⟩

/-- Which frames the decoder reads and writes within bounds.  A plane that it
decompresses has the size of the 32-bit product exactly if the product is in
range.  A frame that it gives back was filled by copies from the planes that it
shows, and these stay inside exactly if both planes on the wire are safe. -/
theorem decodeFrame_inside_iff (link : Link σ) (libs : DecompressionLibraries)
    (avctx : AVCodecContext)
    (hlinesize : forall i, -2147483648 ≤ avctx.getBuffer.linesize i ∧
      avctx.getBuffer.linesize i ≤ intMax)
    (height : Fin 2 -> Nat) (frame : AVFrame) {payload : Bytes} {size : Int}
    {view : VTRemoteFrameView}
    (hparse : vtremoteParseFrame payload size = .ok view)
    (s : VTRemoteDecContext σ) :
    (forall i plane s', decompressPlane link libs view i s =
        .returned (.ok plane) s' ->
      ((view.plane i).expected = (view.plane i).size <->
        (view.plane i).size ≤ intMax)) ∧
    (forall out s', decodeFrame link libs avctx frame payload size s =
        .returned (.ok out) s' ->
      exists shown, Decompresses libs s.wireCompression view shown ∧
        (FillInside shown height avctx.getBuffer.linesize <->
          forall i, FillSafe s.wireCompression (view.plane i) (height i)
            (avctx.getBuffer.linesize i)) ∧
        (FillInside shown height avctx.getBuffer.linesize ->
          forall i, out.data i =
            (fillRows (shown.plane i) (avctx.getBuffer.linesize i)).foldl
              (RowMemcpy.apply (shown.plane i).data)
              (avctx.getBuffer.data i))) := by
  constructor
  · intro i plane s' _
    exact expected_exact_iff (view.plane i)
  · intro out s' hrun
    rcases decodeFrame_eq_ok hparse hrun with ⟨shown, hshown, hdata⟩
    refine ⟨shown, hshown, hshown.inside_iff hlinesize, fun _ i => ?_⟩
    rw [hdata]
    rfl

end Decoded

def oneRowPayload : Bytes :=
  List.replicate 20 0 ++ [2] ++ [0, 0, 0, 2, 0, 0, 0, 1, 0, 0, 0, 2, 10, 11] ++
    [0, 0, 0, 2, 0, 0, 0, 1, 0, 0, 0, 2, 20, 21]

def oneRowView : VTRemoteFrameView where
  pts := 0
  duration := 0
  flags := 0
  planeCount := 2
  planes := [⟨2, 1, 2, [10, 11]⟩, ⟨2, 1, 2, [20, 21]⟩]
  sideDataCount := 0
  sideData := []

theorem decodeFrame_inside_iff_oneRow :
    exists out s', decodeFrame hostLink noDecompression narrowCodecContext
        unreferencedFrame oneRowPayload 49
        (VTRemoteDecContext.afterInit lateFrameHost 0) =
      .returned (.ok out) s' ∧
    exists shown, Decompresses noDecompression 0 oneRowView shown ∧
      (FillInside shown (fun _ => 1) (fun _ => 2) <->
        forall i, FillSafe 0 (oneRowView.plane i) 1 2) ∧
      (FillInside shown (fun _ => 1) (fun _ => 2) ->
        forall i, out.data i = (fillRows (shown.plane i) 2).foldl
          (RowMemcpy.apply (shown.plane i).data) [0, 0]) := by
  have hlinesize : forall i, -2147483648 ≤ narrowCodecContext.getBuffer.linesize i ∧
      narrowCodecContext.getBuffer.linesize i ≤ intMax :=
    Fin.forall_fin_two.mpr (by decide)
  have hparse : vtremoteParseFrame oneRowPayload 49 = .ok oneRowView := by
    decide +kernel
  have hvalue : (decodeFrame hostLink noDecompression narrowCodecContext
      unreferencedFrame oneRowPayload 49
      (VTRemoteDecContext.afterInit lateFrameHost 0)).value.isSome = true := by
    decide +kernel
  rcases Outcome.eq_of_value hvalue with ⟨out, hrun⟩
  exact ⟨out, _, hrun, (decodeFrame_inside_iff hostLink noDecompression
    narrowCodecContext hlinesize (fun _ => 1) unreferencedFrame hparse
    (VTRemoteDecContext.afterInit lateFrameHost 0)).2 _ _ hrun⟩

/-- Two planes that claim two rows of two bytes and bring no bytes. -/
def absentRowsPayload : Bytes :=
  List.replicate 20 0 ++ [2] ++ [0, 0, 0, 2, 0, 0, 0, 2, 0, 0, 0, 0] ++
    [0, 0, 0, 2, 0, 0, 0, 2, 0, 0, 0, 0]

def absentRowsView : VTRemoteFrameView where
  pts := 0
  duration := 0
  flags := 0
  planeCount := 2
  planes := [⟨2, 2, 0, []⟩, ⟨2, 2, 0, []⟩]
  sideDataCount := 0
  sideData := []

/-- Without compression the rows of such a frame are copied from behind the
payload. -/
theorem absentRows_copied :
    ¬ forall (σ : Type) (link : Link σ) (libs : DecompressionLibraries)
        (avctx : AVCodecContext) (height : Fin 2 -> Nat) (frame : AVFrame)
        (payload : Bytes) (size : Int) (view : VTRemoteFrameView)
        (s s' : VTRemoteDecContext σ) (out : AVFrame),
      (forall i, -2147483648 ≤ avctx.getBuffer.linesize i ∧
        avctx.getBuffer.linesize i ≤ intMax) ->
      s.wireCompression = 0 ∨ s.wireCompression = 1 ∨ s.wireCompression = 2 ->
      vtremoteParseFrame payload size = .ok view ->
      decodeFrame link libs avctx frame payload size s =
        .returned (.ok out) s' ->
      (s.wireCompression = 1 ∨ s.wireCompression = 2 ->
        forall i, (view.plane i).expected = (view.plane i).size) ∧
      forall shown, Decompresses libs s.wireCompression view shown ->
        FillInside shown height avctx.getBuffer.linesize := by
  intro h
  have hvalue : (decodeFrame hostLink noDecompression narrowCodecContext
      unreferencedFrame absentRowsPayload 45
      (VTRemoteDecContext.afterInit lateFrameHost 0)).value.isSome = true := by
    decide +kernel
  rcases Outcome.eq_of_value hvalue with ⟨out, hrun⟩
  have hinside := (h Host hostLink noDecompression narrowCodecContext
    (fun _ => 1) unreferencedFrame absentRowsPayload 45 absentRowsView
    (VTRemoteDecContext.afterInit lateFrameHost 0) _ out
    (Fin.forall_fin_two.mpr (by decide)) (.inl rfl) (by decide +kernel) hrun).2
    absentRowsView (.plain (by decide))
  have hfirst := hinside 0 ⟨0, 0, 2⟩ (by decide +kernel) 0 Nat.two_pos
  exact absurd hfirst.1.2 (by decide)

end VTRemote
