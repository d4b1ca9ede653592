import VTRemote.Client.DecoderRuns

/-!
# The decoder with granted memory

On a connection whose allocations are granted, a FRAME that can be parsed and
decompressed is decoded.
-/

namespace VTRemote

attribute [local irreducible] cInt

/-!
## Planes
-/

section Planes

variable (libs : DecompressionLibraries)

def DecompressionLibraries.restore (wireCompression : Int) (data : Bytes)
    (size : Nat) : Option Bytes :=
  if wireCompression = 1 then libs.lz4DecompressSafe data size
  else libs.zstdDecompressDCtx data size

variable {libs}

theorem restored_plane {wireCompression : Int} {plane : VTRemotePlaneView} {n : Nat}
    {data : Bytes} (hexpected : plane.expected = n) (hlength : data.length = n)
    (hrestore : libs.restore wireCompression plane.data n = some data) :
    libs.decompress wireCompression plane = .ok { plane with
      data := data, dataLen := UInt32.ofInt n } := by
  unfold DecompressionLibraries.restore at hrestore
  unfold DecompressionLibraries.decompress
  rw [hexpected]
  dsimp only
  rw [hrestore]
  exact if_pos (by rw [hlength])

theorem dataLen_black {n : Nat} (h : n ≤ 2147483647) :
    UInt32.ofInt n = UInt32.ofNat n := by
  apply UInt32.toNat_inj.mp
  rw [uint32_ofInt_toNat (Nat.lt_of_le_of_lt h (by decide)),
    UInt32.toNat_ofNat_of_lt' (Nat.lt_of_le_of_lt h (by decide))]

theorem expected_eq_size {plane : VTRemotePlaneView} {stride height : Nat}
    (hstride : plane.stride = UInt32.ofNat stride)
    (hheight : plane.height = UInt32.ofNat height) (hstrideMax : stride ≤ 2147483647)
    (hheightMax : height ≤ 2147483647) (hsize : stride * height ≤ 2147483647) :
    plane.expected = ((stride * height : Nat) : Int) := by
  unfold VTRemotePlaneView.expected
  rw [hstride, hheight,
    UInt32.toNat_ofNat_of_lt' (Nat.lt_of_le_of_lt hstrideMax (by decide)),
    UInt32.toNat_ofNat_of_lt' (Nat.lt_of_le_of_lt hheightMax (by decide)),
    cInt_natCast hstrideMax, cInt_natCast hheightMax, <- Int.natCast_mul, cInt_natCast hsize]

end Planes

/-!
## Frames
-/

section Granted

variable {σ : Type} {link : Link σ} {libs : DecompressionLibraries}

def DecReadies (s s' : VTRemoteDecContext σ) : Prop :=
  exists compBufCap zstdDctx, s' = { s with compBufCap, zstdDctx }

instance : IsPreorder (VTRemoteDecContext σ) DecReadies where
  refl s := ⟨s.compBufCap, s.zstdDctx, rfl⟩
  trans _ _ _ h1 h2 := by
    rcases h1 with ⟨_, _, rfl⟩
    rcases h2 with ⟨compBufCap, zstdDctx, rfl⟩
    exact ⟨compBufCap, zstdDctx, rfl⟩

theorem DecReadies.wireCompression {s s' : VTRemoteDecContext σ}
    (h : DecReadies s s') : s'.wireCompression = s.wireCompression := by
  rcases h with ⟨_, _, rfl⟩
  rfl

variable (hmalloc : forall fd, link.malloc fd = .returned (.ok ()) fd)
include hmalloc

theorem onDecLink_malloc (s : VTRemoteDecContext σ) :
    onDecLink link.malloc s = .returned (.ok ()) s :=
  Call.zoom_of_returned (hmalloc s.fd)

theorem growDecBuf_granted (i : Fin 2) (expected : Int) (s : VTRemoteDecContext σ) :
    exists s', growDecBuf link i expected s = .returned (.ok ()) s' ∧
      DecReadies s s' := by
  unfold growDecBuf Call.when
  rw [Call.get_bind]
  split
  · rw [Call.bind_of_ok _ (onDecLink_malloc hmalloc s)]
    exact ⟨_, rfl, Function.update s.compBufCap i expected, s.zstdDctx, rfl⟩
  · exact ⟨s, rfl, refl_of DecReadies s⟩

theorem createDctx_granted (s : VTRemoteDecContext σ) :
    exists s', createDctx link s = .returned (.ok ()) s' ∧ DecReadies s s' := by
  unfold createDctx Call.when
  rw [Call.get_bind]
  split
  · rw [Call.bind_of_ok _ (onDecLink_malloc hmalloc s)]
    exact ⟨_, rfl, s.compBufCap, true, rfl⟩
  · exact ⟨s, rfl, refl_of DecReadies s⟩

theorem decompressPlane_granted {view : VTRemoteFrameView} {i : Fin 2}
    {plane : VTRemotePlaneView} {s : VTRemoteDecContext σ}
    (hpos : 0 < (view.plane i).expected)
    (hplane : libs.decompress s.wireCompression (view.plane i) = .ok plane) :
    exists s', decompressPlane link libs view i s = .returned (.ok plane) s' ∧
      DecReadies s s' := by
  rcases growDecBuf_granted hmalloc i (view.plane i).expected s with
    ⟨s1, hgrow, hready1⟩
  rcases createDctx_granted hmalloc s1 with ⟨s2, hcreate, hready2⟩
  have hready := trans_of DecReadies hready1 hready2
  refine ⟨s2, ?_, hready⟩
  unfold decompressPlane
  rw [if_neg (Int.not_le.mpr hpos), Call.bind_of_ok _ hgrow,
    Call.bind_of_ok _ hcreate, Call.get_bind, hready.wireCompression]
  simp only [hplane]
  rfl

theorem addSideData_granted (entries : List VTRemoteSideData)
    (s : VTRemoteDecContext σ) :
    addSideData link entries s =
      .returned (.ok (entries.map VTRemoteSideData.toAVFrameSideData)) s := by
  induction entries with
  | nil => rfl
  | cons sd rest ih =>
      unfold addSideData
      rw [Call.bind_of_ok _ (Call.attempt_of_returned (onDecLink_malloc hmalloc s)),
        Call.bind_of_ok _ ih]
      rfl

theorem fillFrameFromView_granted (avctx : AVCodecContext) (frame : AVFrame)
    {view : VTRemoteFrameView} (hplanar : ¬ view.planeCount < 2)
    (s : VTRemoteDecContext σ) :
    fillFrameFromView link avctx frame view s = .returned
      (.ok (grantedFrame avctx frame view)) s := by
  unfold fillFrameFromView
  rw [if_neg hplanar, Call.bind_of_ok _ (onDecLink_malloc hmalloc s),
    Call.bind_of_ok _ (addSideData_granted hmalloc _ s)]
  rfl

theorem decodeFrame_granted (avctx : AVCodecContext) (frame : AVFrame)
    {payload : Bytes} {payloadSize : Int} {view shown : VTRemoteFrameView}
    {s : VTRemoteDecContext σ}
    (hparse : vtremoteParseFrame payload payloadSize = .ok view)
    (hplanar : ¬ view.planeCount < 2)
    (hshown : Decompresses libs s.wireCompression view shown) :
    exists s', decodeFrame link libs avctx frame payload payloadSize s = .returned
        (.ok (grantedFrame avctx frame shown)) s' ∧ DecReadies s s' := by
  unfold decodeFrame
  simp only [hparse]
  rw [Call.get_bind]
  cases hshown with
  | plain hplain =>
      rw [if_neg hplain]
      exact ⟨s, fillFrameFromView_granted hmalloc avctx frame hplanar s,
        refl_of DecReadies s⟩
  | planes plane0 plane1 hcompressed hpos hplane0 hplane1 =>
      rw [if_pos hcompressed]
      rcases decompressPlane_granted hmalloc (hpos 0) hplane0 with
        ⟨s1, h0, hready1⟩
      rw [<- hready1.wireCompression] at hplane1
      rcases decompressPlane_granted hmalloc (hpos 1) hplane1 with
        ⟨s2, h1, hready2⟩
      have hframe : decompressFrame link libs view s = .returned
          (.ok { view with planes := plane0 :: plane1 :: view.planes.drop 2 })
          s2 := by
        unfold decompressFrame
        rw [if_neg hplanar, Call.bind_of_ok _ h0, Call.bind_of_ok _ h1]
        rfl
      refine ⟨s2, ?_, trans_of DecReadies hready1 hready2⟩
      rw [Call.bind_of_ok _ hframe]
      apply fillFrameFromView_granted hmalloc avctx frame
      exact hplanar

end Granted

end VTRemote
