import VTRemote.Client.Decoder
import VTRemote.Library.RowCopy

/-!
# The rows of a filled plane

The rows of a received plane are copied into the frame of the decoder with the
stride and the height on the wire.  The offsets and counts of these copies are
`int` values of their own.  Which planes keep them inside both ends is said here
in terms of the fields of the payload, and what such copies leave in the frame.
-/

namespace VTRemote

attribute [local irreducible] cInt

/-- Each byte that is read has an offset below `dataLen`, and each that is
written is in one of `height` rows and in a column below the line size. -/
def RowMemcpy.Inside (dataLen height : Nat) (dstStride : Int) (c : RowMemcpy) :
    Prop :=
  forall k : Nat, k < c.count ->
    (0 ≤ c.src + k ∧ c.src + k < dataLen) ∧
    exists row col : Nat, row < height ∧ (col : Int) < dstStride ∧
      c.dst + k = row * dstStride + col

/-!
## Offsets that are int values
-/

theorem cInt_offset {stride n y : Nat}
    (h : ((n - 1 : Nat) * (stride : Int)) ≤ intMax) (hy : y < n) :
    cInt (y * (stride : Int)) = y * stride := by
  have hle : (y : Int) * stride ≤ intMax :=
    Int.le_trans (Int.mul_le_mul_of_nonneg_right
      (Int.ofNat_le.mpr (Nat.le_sub_one_of_lt hy))
      (Int.natCast_nonneg stride)) h
  have hnonneg : 0 ≤ (y : Int) * stride :=
    Int.mul_nonneg (Int.natCast_nonneg y) (Int.natCast_nonneg stride)
  exact cInt_eq (Int.le_trans (by decide) hnonneg) hle

/-- Before an offset comes out of range it turns negative. -/
theorem cInt_offsets_iff {stride n : Nat} (hpos : 0 < stride)
    (hstride : stride < 2147483648) :
    (forall y : Nat, y < n -> 0 ≤ cInt (y * (stride : Int))) <->
      ((n - 1 : Nat) * (stride : Int)) ≤ intMax := by
  constructor
  · intro h
    refine Int.not_lt.mp fun hlarge => ?_
    unfold intMax at hlarge
    -- the first offset that is out of range
    have hfirst : 2147483647 / stride + 1 < n := by
      have hdiv : 2147483647 / stride < n - 1 :=
        (Nat.div_lt_iff_lt_mul hpos).mpr (by exact_mod_cast hlarge)
      exact Nat.add_lt_of_lt_sub hdiv
    have habove : 2147483647 < (2147483647 / stride + 1) * stride :=
      Nat.lt_mul_of_div_lt (Nat.lt_succ_self _) hpos
    have hbelow : (2147483647 / stride + 1) * stride < 4294967296 := by
      have hle := Nat.div_mul_le_self 2147483647 stride
      rw [Nat.succ_mul]
      omega
    have hneg := h _ hfirst
    have hcint := cInt_uint32 hbelow
    rw [if_neg (by omega)] at hcint
    rw [<- Int.natCast_mul, hcint] at hneg
    omega
  · intro h y hy
    rw [cInt_offset h hy]
    exact Int.mul_nonneg (Int.natCast_nonneg y) (Int.natCast_nonneg stride)

theorem row_of_offset {stride y row col : Nat} (hcol : col < stride)
    (h : (y : Int) * stride = row * stride + col) : y = row := by
  have hnat : y * stride = row * stride + col := by exact_mod_cast h
  have hle : y < row + 1 := by
    refine Nat.lt_of_mul_lt_mul_right (a := stride) ?_
    rw [hnat, Nat.succ_mul]
    exact Nat.add_lt_add_left hcol _
  have hge : row ≤ y := by
    refine Nat.le_of_mul_le_mul_right (c := stride) ?_
      (Nat.lt_of_le_of_lt (Nat.zero_le col) hcol)
    rw [hnat]
    exact Nat.le_add_right _ _
  exact Nat.le_antisymm (Nat.le_of_lt_succ hle) hge

/-!
## The copies of a plane
-/

/-- Rows are copied, and they stay inside: there are as many in the frame, the
offsets of the last one are in range, and its bytes are there. -/
def RowsInside (dataLen height : Nat) (srcStride dstStride rows : Int) : Prop :=
  0 < min srcStride dstStride ∧ rows ≤ height ∧
    (rows - 1) * max srcStride dstStride ≤ intMax ∧
    (rows - 1) * srcStride + min srcStride dstStride ≤ dataLen

theorem forall_fillRows {plane : VTRemotePlaneView} {dstStride : Int}
    {P : RowMemcpy -> Prop} :
    (forall c, c ∈ fillRows plane dstStride -> P c) <->
      forall y : Nat, y < (cInt plane.height.toNat).toNat -> P
        { dst := cInt (y * dstStride)
          src := cInt (y * cInt plane.stride.toNat)
          count := sizeT (min (cInt plane.stride.toNat) dstStride) } := by
  unfold fillRows
  dsimp only
  rw [List.forall_mem_map]
  constructor
  · intro h y hy
    exact h y (List.mem_range.mpr hy)
  · intro h y hy
    exact h y (List.mem_range.mp hy)

theorem sizeT_natCast {n : Nat} (h : n < 18446744073709551616) :
    sizeT n = n := by
  unfold sizeT
  rw [Int.emod_eq_of_lt (Int.natCast_nonneg n) (by exact_mod_cast h),
    Int.toNat_natCast]

theorem rows_inside_iff {dataLen height n srcStride dstStride : Nat}
    (hn : 0 < n) (hsrc : 0 < srcStride) (hdst : 0 < dstStride)
    (hsrcInt : srcStride < 2147483648) (hdstInt : dstStride < 2147483648) :
    (forall y : Nat, y < n -> RowMemcpy.Inside dataLen height dstStride
      { dst := cInt (y * (dstStride : Int))
        src := cInt (y * (srcStride : Int))
        count := min srcStride dstStride }) <->
      RowsInside dataLen height srcStride dstStride n := by
  have hcount : 0 < min srcStride dstStride := Nat.lt_min.mpr ⟨hsrc, hdst⟩
  have hlast : ((n - 1 : Nat) : Int) = (n : Int) - 1 := by omega
  have hmax : ((n : Int) - 1) * max (srcStride : Int) dstStride ≤ intMax <->
      ((n - 1 : Nat) * (srcStride : Int)) ≤ intMax ∧
        ((n - 1 : Nat) * (dstStride : Int)) ≤ intMax := by
    rw [<- hlast]
    rcases Int.le_total (srcStride : Int) dstStride with hle | hle
    · have hmul := Int.mul_le_mul_of_nonneg_left hle
        (Int.natCast_nonneg (n - 1))
      rw [Int.max_eq_right hle]
      exact ⟨fun h => ⟨Int.le_trans hmul h, h⟩, fun h => h.2⟩
    · have hmul := Int.mul_le_mul_of_nonneg_left hle
        (Int.natCast_nonneg (n - 1))
      rw [Int.max_eq_left hle]
      exact ⟨fun h => ⟨h, Int.le_trans hmul h⟩, fun h => h.1⟩
  unfold RowsInside
  rw [hmax]
  constructor
  · intro h
    have hsrcs := (cInt_offsets_iff hsrc hsrcInt).mp fun y hy => by
      have hfirst := (h y hy 0 hcount).1.1
      rw [Int.natCast_zero, Int.add_zero] at hfirst
      exact hfirst
    have hdsts := (cInt_offsets_iff hdst hdstInt).mp fun y hy => by
      rcases (h y hy 0 hcount).2 with ⟨row, col, _, _, hoffset⟩
      rw [Int.natCast_zero, Int.add_zero] at hoffset
      dsimp only at hoffset
      rw [hoffset]
      exact Int.add_nonneg (Int.mul_nonneg (Int.natCast_nonneg row)
        (Int.natCast_nonneg dstStride)) (Int.natCast_nonneg col)
    have hrow := h (n - 1) (Nat.sub_lt hn Nat.one_pos)
    refine ⟨by exact_mod_cast hcount, ?_, ⟨hsrcs, hdsts⟩, ?_⟩
    · rcases (hrow 0 hcount).2 with ⟨row, col, hlt, hcol, hoffset⟩
      dsimp only at hoffset
      rw [cInt_offset hdsts (Nat.sub_lt hn Nat.one_pos), Int.natCast_zero,
        Int.add_zero] at hoffset
      have hsame := row_of_offset (Int.ofNat_lt.mp hcol) hoffset
      omega
    · have hbyte := (hrow (min srcStride dstStride - 1)
        (Nat.sub_lt hcount Nat.one_pos)).1.2
      dsimp only at hbyte
      rw [cInt_offset hsrcs (Nat.sub_lt hn Nat.one_pos), hlast] at hbyte
      have hmin : ((min srcStride dstStride - 1 : Nat) : Int) =
          min (srcStride : Int) dstStride - 1 := by omega
      rw [hmin] at hbyte
      omega
  · intro h y hy k hk
    rcases h with ⟨_, hrows, ⟨hsrcs, hdsts⟩, hdata⟩
    dsimp only at hk ⊢
    rw [cInt_offset hsrcs hy, cInt_offset hdsts hy]
    have hbelow : (y : Int) * srcStride ≤ ((n : Int) - 1) * srcStride :=
      Int.mul_le_mul_of_nonneg_right (by omega) (Int.natCast_nonneg srcStride)
    have hnonneg : 0 ≤ (y : Int) * srcStride :=
      Int.mul_nonneg (Int.natCast_nonneg y) (Int.natCast_nonneg srcStride)
    refine ⟨⟨by omega, by omega⟩, y, k, by omega, ?_, rfl⟩
    exact Int.ofNat_lt.mpr (Nat.lt_of_lt_of_le hk (Nat.min_le_right _ _))

/-- The copies of a plane stay inside if there are none, if they copy nothing,
or if the rows that they copy stay inside. -/
theorem fillRows_inside_iff (plane : VTRemotePlaneView) (height : Nat)
    {dstStride : Int} (hmin : -2147483648 ≤ dstStride)
    (hmax : dstStride ≤ intMax) :
    (forall c, c ∈ fillRows plane dstStride ->
      c.Inside plane.dataLen.toNat height dstStride) <->
      cInt plane.height.toNat ≤ 0 ∨
        min (cInt plane.stride.toNat) dstStride = 0 ∨
        RowsInside plane.dataLen.toNat height (cInt plane.stride.toNat)
          dstStride (cInt plane.height.toNat) := by
  have hdataLen : plane.dataLen.toNat < 4294967296 := plane.dataLen.toNat_lt
  have hstride := cInt_uint32 plane.stride.toNat_lt
  have hheight := cInt_uint32 plane.height.toNat_lt
  have hstrideLt : plane.stride.toNat < 4294967296 := plane.stride.toNat_lt
  rw [forall_fillRows]
  generalize cInt plane.height.toNat = rows at hheight ⊢
  generalize cInt plane.stride.toNat = srcStride at hstride ⊢
  have hsrcMin : -2147483648 ≤ srcStride := by
    rw [hstride]
    split
    · omega
    · omega
  have hsrcMax : srcStride ≤ intMax := by
    unfold intMax
    rw [hstride]
    split
    · omega
    · omega
  unfold intMax at hmax hsrcMax
  rcases lt_or_ge 0 rows with hrows | hnone
  · rw [or_iff_right (Int.not_le.mpr hrows)]
    rcases Int.lt_trichotomy (min srcStride dstStride) 0 with
      hneg | hzero | hpos
    · -- a negative count is a huge one
      refine iff_of_false (fun h => ?_) ?_
      · have hhuge : plane.dataLen.toNat < sizeT (min srcStride dstStride) := by
          unfold sizeT
          omega
        have hfirst := (h 0 (by omega) plane.dataLen.toNat hhuge).1.2
        dsimp only at hfirst
        rw [Int.natCast_zero, Int.zero_mul, cInt_eq (by decide) (by decide),
          Int.zero_add] at hfirst
        exact Int.lt_irrefl _ hfirst
      · intro h
        rcases h with h | h
        · omega
        · exact Int.lt_asymm h.1 hneg
    · refine iff_of_true (fun y _ k hk => ?_) (.inl hzero)
      rw [hzero] at hk
      exact absurd hk (Nat.not_lt_zero k)
    · rw [or_iff_right (Int.ne_of_gt hpos)]
      have hsrcPos : 0 < srcStride := Int.lt_of_lt_of_le hpos (Int.min_le_left _ _)
      have hdstPos : 0 < dstStride := Int.lt_of_lt_of_le hpos (Int.min_le_right _ _)
      obtain ⟨src, rfl⟩ := Int.eq_ofNat_of_zero_le (Int.le_of_lt hsrcPos)
      obtain ⟨dst, rfl⟩ := Int.eq_ofNat_of_zero_le (Int.le_of_lt hdstPos)
      obtain ⟨n, rfl⟩ := Int.eq_ofNat_of_zero_le (Int.le_of_lt hrows)
      have hcount : sizeT (min (src : Int) dst) = min src dst := by
        have hcast : min (src : Int) dst = (min src dst : Nat) := by omega
        rw [hcast]
        exact sizeT_natCast (by omega)
      rw [Int.toNat_natCast, hcount]
      exact rows_inside_iff (by omega) (by omega) (by omega) (by omega)
        (by omega)
  · refine iff_of_true (fun y hy => ?_) (.inl hnone)
    rw [Int.toNat_of_nonpos hnone] at hy
    exact absurd hy (Nat.not_lt_zero y)

theorem fillRows_inside_of_fits {plane : VTRemotePlaneView} {stride height line : Nat}
    (hstride : cInt plane.stride.toNat = stride)
    (hheight : cInt plane.height.toNat = height)
    (hdataLen : stride * height ≤ plane.dataLen.toNat)
    (hsize : stride * height ≤ 2147483647) (hline : line ≤ 2147483647)
    (hlines : line * height ≤ 2147483647) (c : RowMemcpy)
    (hc : c ∈ fillRows plane line) : c.Inside plane.dataLen.toNat height line := by
  have hmax : (line : Int) ≤ intMax := by
    unfold intMax
    omega
  revert c
  rw [fillRows_inside_iff plane height (by omega) hmax, hstride, hheight]
  rcases Nat.eq_zero_or_pos height with rfl | hrows
  · exact .inl (Int.le_refl 0)
  · rcases Nat.eq_zero_or_pos (min stride line) with hzero | hpos
    · refine .inr (.inl ?_)
      rw [<- Nat.cast_min, hzero]
      rfl
    · obtain ⟨n, rfl⟩ := Nat.exists_eq_succ_of_ne_zero (Nat.ne_of_gt hrows)
      rw [Nat.mul_succ] at hdataLen hsize hlines
      have hlast : ((n.succ : Nat) : Int) - 1 = n := by omega
      have hbytes : min stride line ≤ stride := Nat.min_le_left _ _
      refine .inr (.inr ⟨?_, Int.le_refl _, ?_, ?_⟩)
      · rw [<- Nat.cast_min]
        exact Int.natCast_pos.mpr hpos
      · rw [hlast, <- Nat.cast_max, <- Int.natCast_mul]
        unfold intMax
        rcases Nat.le_total stride line with hle | hle
        · rw [Nat.max_eq_right hle, Nat.mul_comm]
          omega
        · rw [Nat.max_eq_left hle, Nat.mul_comm]
          omega
      · rw [hlast, <- Nat.cast_min, <- Int.natCast_mul, Nat.mul_comm]
        omega

/-!
## The size of a plane
-/

theorem cInt_le_intMax (n : Int) : cInt n ≤ intMax := by
  unfold intMax cInt
  rw [Int.bmod_def]
  split
  · omega
  · omega

theorem cInt_off {n : Int} (h : intMax < n) (hpos : 0 ≤ cInt n) :
    cInt n + 4294967296 ≤ n := by
  unfold intMax at h
  unfold cInt at hpos ⊢
  rw [Int.bmod_def] at hpos ⊢
  split at hpos
  · rename_i hlow
    rw [if_pos hlow]
    omega
  · rename_i hhigh
    rw [if_neg hhigh]
    omega

def VTRemotePlaneView.size (plane : VTRemotePlaneView) : Int :=
  (plane.stride.toNat : Int) * plane.height.toNat

theorem expected_eq (plane : VTRemotePlaneView) :
    plane.expected = cInt plane.size := by
  unfold VTRemotePlaneView.expected VTRemotePlaneView.size cInt
  rw [Int.bmod_mul_bmod, Int.mul_bmod_bmod]

theorem size_nonneg (plane : VTRemotePlaneView) : 0 ≤ plane.size :=
  Int.mul_nonneg (Int.natCast_nonneg _) (Int.natCast_nonneg _)

theorem expected_exact_iff (plane : VTRemotePlaneView) :
    plane.expected = plane.size <-> plane.size ≤ intMax := by
  rw [expected_eq]
  constructor
  · intro h
    rw [<- h]
    exact cInt_le_intMax plane.size
  · intro h
    exact cInt_eq (Int.le_trans (by decide) (size_nonneg plane)) h

/-- The rows of a plane that was decompressed to the 32-bit product are there
exactly if that is the product. -/
theorem rows_decompressed_iff {plane : VTRemotePlaneView} {dstStride : Int}
    (hexpected : 0 < plane.expected) (hrows : 0 < cInt plane.height.toNat)
    (hbytes : 0 < min (cInt plane.stride.toNat) dstStride) :
    (cInt plane.height.toNat - 1) * cInt plane.stride.toNat +
        min (cInt plane.stride.toNat) dstStride ≤ plane.expected <->
      plane.size ≤ intMax := by
  have hstride := cInt_uint32 plane.stride.toNat_lt
  have hheight := cInt_uint32 plane.height.toNat_lt
  have hstrideLt : plane.stride.toNat < 4294967296 := plane.stride.toNat_lt
  have hheightLt : plane.height.toNat < 4294967296 := plane.height.toNat_lt
  rw [if_pos (by by_contra h; rw [if_neg h] at hstride; omega)] at hstride
  rw [if_pos (by by_contra h; rw [if_neg h] at hheight; omega)] at hheight
  have hmin : min (cInt plane.stride.toNat) dstStride ≤ plane.stride.toNat :=
    Int.le_trans (Int.min_le_left _ _) (Int.le_of_eq hstride)
  have hlast : (cInt plane.height.toNat - 1) * cInt plane.stride.toNat =
      plane.size - plane.stride.toNat := by
    unfold VTRemotePlaneView.size
    rw [hstride, hheight, Int.sub_mul, Int.one_mul, Int.mul_comm]
  rw [hlast]
  constructor
  · intro h
    refine Int.not_lt.mp fun hlarge => ?_
    have hoff := cInt_off hlarge (expected_eq plane ▸ Int.le_of_lt hexpected)
    rw [<- expected_eq] at hoff
    omega
  · intro h
    rw [(expected_exact_iff plane).mpr h]
    omega

/-!
## Frames
-/

/-- A plane on the wire whose copies stay inside a plane of the frame. -/
def FillSafe (wireCompression : Int) (plane : VTRemotePlaneView) (height : Nat)
    (dstStride : Int) : Prop :=
  cInt plane.height.toNat ≤ 0 ∨
    min (cInt plane.stride.toNat) dstStride = 0 ∨
    (0 < min (cInt plane.stride.toNat) dstStride ∧
      cInt plane.height.toNat ≤ height ∧
      (cInt plane.height.toNat - 1) *
        max (cInt plane.stride.toNat) dstStride ≤ intMax ∧
      if wireCompression = 1 ∨ wireCompression = 2 then plane.size ≤ intMax
      else
        (cInt plane.height.toNat - 1) * cInt plane.stride.toNat +
          min (cInt plane.stride.toNat) dstStride ≤ plane.dataLen.toNat)

/-- Every byte that the loop over the planes touches is inside its plane. -/
def FillInside (view : VTRemoteFrameView) (height : Fin 2 -> Nat)
    (linesize : Fin 2 -> Int) : Prop :=
  forall i c, c ∈ fillRows (view.plane i) (linesize i) ->
    c.Inside (view.plane i).dataLen.toNat (height i) (linesize i)

theorem fillRows_plain_iff {wireCompression : Int}
    (hplain : ¬ (wireCompression = 1 ∨ wireCompression = 2))
    (plane : VTRemotePlaneView) (height : Nat) {dstStride : Int}
    (hmin : -2147483648 ≤ dstStride) (hmax : dstStride ≤ intMax) :
    (forall c, c ∈ fillRows plane dstStride ->
      c.Inside plane.dataLen.toNat height dstStride) <->
      FillSafe wireCompression plane height dstStride := by
  unfold FillSafe
  rw [if_neg hplain]
  exact fillRows_inside_iff plane height hmin hmax

theorem decompress_fields {libs : DecompressionLibraries} {wireCompression : Int}
    {plane shown : VTRemotePlaneView} (hexpected : 0 < plane.expected)
    (hshown : libs.decompress wireCompression plane = .ok shown) :
    shown.stride = plane.stride ∧ shown.height = plane.height ∧
      (shown.dataLen.toNat : Int) = plane.expected ∧
      (shown.data.length : Int) = plane.expected := by
  unfold DecompressionLibraries.decompress at hshown
  dsimp only at hshown
  split at hshown
  · split at hshown
    · rename_i hlength
      cases hshown
      obtain ⟨n, hn⟩ := Int.eq_ofNat_of_zero_le (Int.le_of_lt hexpected)
      have hle := cInt_le_intMax plane.size
      rw [<- expected_eq, hn] at hle
      unfold intMax at hle
      refine ⟨rfl, rfl, ?_, hlength⟩
      dsimp only
      rw [hn, uint32_ofInt_toNat (by omega)]
    · cases hshown
  · cases hshown

theorem fillRows_decompressed_iff {libs : DecompressionLibraries}
    {wireCompression : Int}
    (hcompressed : wireCompression = 1 ∨ wireCompression = 2)
    {plane shown : VTRemotePlaneView} (hexpected : 0 < plane.expected)
    (hshown : libs.decompress wireCompression plane = .ok shown)
    (height : Nat) {dstStride : Int} (hmin : -2147483648 ≤ dstStride)
    (hmax : dstStride ≤ intMax) :
    (forall c, c ∈ fillRows shown dstStride ->
      c.Inside shown.dataLen.toNat height dstStride) <->
      FillSafe wireCompression plane height dstStride := by
  rcases decompress_fields hexpected hshown with ⟨hstride, hheight, hdataLen, _⟩
  rw [fillRows_inside_iff shown height hmin hmax]
  unfold FillSafe RowsInside
  rw [if_pos hcompressed, hstride, hheight, hdataLen]
  rcases lt_or_ge 0 (cInt plane.height.toNat) with hrows | hnone
  · refine or_congr_right (or_congr_right (and_congr_right fun hbytes => ?_))
    rw [rows_decompressed_iff hexpected hrows hbytes]
  · exact iff_of_true (.inl hnone) (.inl hnone)

/-!
## What the copies leave
-/

theorem overwrite_nil (dst : Bytes) (pos : Nat) :
    VTRemoteWBuf.overwrite dst pos [] = dst := by
  unfold VTRemoteWBuf.overwrite
  rw [List.append_nil, List.length_nil, Nat.add_zero, List.take_append_drop,
    List.take_length]

theorem length_overwrite (dst bytes : Bytes) (pos : Nat) :
    (VTRemoteWBuf.overwrite dst pos bytes).length = dst.length := by
  unfold VTRemoteWBuf.overwrite
  rw [List.length_take, List.length_append, List.length_append, List.length_take,
    List.length_drop]
  omega

theorem getElem?_overwrite {dst bytes : Bytes} {pos : Nat}
    (h : pos + bytes.length ≤ dst.length) (k : Nat) :
    (VTRemoteWBuf.overwrite dst pos bytes)[k]? =
      if pos ≤ k ∧ k < pos + bytes.length then bytes[k - pos]? else dst[k]? := by
  have hpos : (dst.take pos).length = pos := by
    rw [List.length_take]
    omega
  have hlen : (dst.take pos ++ bytes ++ dst.drop (pos + bytes.length)).length =
      dst.length := by
    rw [List.length_append, List.length_append, hpos, List.length_drop]
    omega
  unfold VTRemoteWBuf.overwrite
  rw [<- hlen, List.take_length]
  rcases Nat.lt_or_ge k pos with hbefore | hafter
  · rw [if_neg (by omega), List.append_assoc,
      List.getElem?_append_left (by rw [hpos]; exact hbefore),
      List.getElem?_take_of_lt hbefore]
  · rw [List.append_assoc, List.getElem?_append_right (by rw [hpos]; exact hafter), hpos]
    rcases Nat.lt_or_ge k (pos + bytes.length) with hinside | hbehind
    · rw [if_pos ⟨hafter, hinside⟩, List.getElem?_append_left (by omega)]
    · rw [if_neg (by omega), List.getElem?_append_right (by omega),
        List.getElem?_drop]
      congr 1
      omega

def Copy.toMemcpy (c : Copy) : RowMemcpy :=
  { dst := c.dst, src := c.src, count := c.count }

theorem getElem?_apply {src dst : Bytes} {c : Copy}
    (hwrites : forall offset, c.Writes offset -> offset < dst.length)
    (hreads : forall offset, c.Reads offset -> offset < src.length) (k : Nat) :
    (RowMemcpy.apply src dst c.toMemcpy)[k]? =
      Copy.apply (fun k => src[k]?) (fun k => dst[k]?) c k := by
  rcases c with ⟨start, first, count⟩
  show (VTRemoteWBuf.overwrite dst start ((src.drop first).take count))[k]? = _
  rcases Nat.eq_zero_or_pos count with rfl | hpos
  · rw [List.take_zero, overwrite_nil, Copy.apply_of_not_writes]
    intro h
    exact Nat.lt_irrefl _ (Nat.lt_of_le_of_lt h.1 h.2)
  · have hdst := ((Copy.writes_below_iff _ _).mp hwrites).resolve_left
      (Nat.ne_of_gt hpos)
    have hsrc := ((Copy.reads_below_iff _ _).mp hreads).resolve_left
      (Nat.ne_of_gt hpos)
    dsimp only at hdst hsrc
    have hbytes : ((src.drop first).take count).length = count := by
      rw [List.length_take, List.length_drop]
      omega
    rw [getElem?_overwrite (by rw [hbytes]; exact hdst), hbytes]
    by_cases hinside : start ≤ k ∧ k < start + count
    · have hk : k - start < count := by omega
      have hwrite : Copy.Writes ⟨start, first, count⟩ k := hinside
      unfold Copy.apply
      rw [if_pos hwrite, if_pos hinside, List.getElem?_take_of_lt hk,
        List.getElem?_drop]
    · have hskips : ¬ Copy.Writes ⟨start, first, count⟩ k := hinside
      rw [Copy.apply_of_not_writes hskips]
      exact if_neg hinside

theorem getElem?_foldl_apply {src dst : Bytes} {copies : List Copy}
    (h : Copy.Within dst.length src.length copies) (k : Nat) :
    ((copies.map Copy.toMemcpy).foldl (RowMemcpy.apply src) dst)[k]? =
      Copy.applyAll (fun k => src[k]?) copies (fun k => dst[k]?) k := by
  induction copies generalizing dst with
  | nil => rfl
  | cons c rest ih =>
      rcases h c List.mem_cons_self with ⟨hwrites, hreads⟩
      have hlength : (RowMemcpy.apply src dst c.toMemcpy).length = dst.length :=
        length_overwrite dst _ _
      have hrest := @ih (RowMemcpy.apply src dst c.toMemcpy) (by
        rw [hlength]
        exact fun d hd => h d (List.mem_cons_of_mem c hd))
      have happly : (fun k => (RowMemcpy.apply src dst c.toMemcpy)[k]?) =
          Copy.apply (fun k => src[k]?) (fun k => dst[k]?) c :=
        funext (getElem?_apply hwrites hreads)
      rw [happly] at hrest
      exact hrest

theorem foldl_apply_of_empty {src dst : Bytes} {copies : List RowMemcpy}
    (h : forall c, c ∈ copies -> c.count = 0) :
    copies.foldl (RowMemcpy.apply src) dst = dst := by
  induction copies with
  | nil => rfl
  | cons c rest ih =>
      have happly : RowMemcpy.apply src dst c = dst := by
        unfold RowMemcpy.apply
        rw [h c List.mem_cons_self, List.take_zero, overwrite_nil]
      rw [List.foldl_cons, happly]
      exact ih fun d hd => h d (List.mem_cons_of_mem c hd)

/-- Each byte of a line is that of the row as far as both reach, and what the line
had before elsewhere. -/
def ShowsRows (raw : Bytes) (stride rows : Nat) (old : Bytes) (lineSize : Nat)
    (out : Bytes) : Prop :=
  forall row col, col < lineSize ->
    out[row * lineSize + col]? =
      if row < rows ∧ col < stride then raw[row * stride + col]?
      else old[row * lineSize + col]?

theorem showsRows_foldl {raw old : Bytes} {stride rows lineSize : Nat}
    (hsrc : Copy.Within old.length raw.length
      (Copy.rows lineSize stride (min stride lineSize) rows)) :
    ShowsRows raw stride rows old lineSize
      (((Copy.rows lineSize stride (min stride lineSize) rows).map
        Copy.toMemcpy).foldl (RowMemcpy.apply raw) old) := by
  intro row col hcol
  rw [getElem?_foldl_apply hsrc]
  by_cases hinside : row < rows ∧ col < stride
  · rw [if_pos hinside]
    exact Copy.applyAll_rows _ _ (Nat.min_le_right _ _) hinside.1
      (Nat.lt_min.mpr ⟨hinside.2, hcol⟩)
  · rw [if_neg hinside]
    apply Copy.applyAll_rows_outside _ _ (Nat.min_le_right _ _) hcol
    intro h
    exact hinside ⟨h.1, (Nat.lt_min.mp h.2).1⟩

theorem fillRows_eq_rows {plane : VTRemotePlaneView} {dataLen height : Nat}
    {dstStride : Int} (hmax : dstStride ≤ intMax)
    (h : RowsInside dataLen height (cInt plane.stride.toNat) dstStride
      (cInt plane.height.toNat)) :
    fillRows plane dstStride =
      (Copy.rows dstStride.toNat (cInt plane.stride.toNat).toNat
        (min (cInt plane.stride.toNat).toNat dstStride.toNat)
        (cInt plane.height.toNat).toNat).map Copy.toMemcpy := by
  unfold fillRows Copy.rows
  rw [List.map_map]
  dsimp only
  apply List.map_congr_left
  intro y hy
  have hrow : (y : Int) < cInt plane.height.toNat :=
    Int.lt_toNat.mp (List.mem_range.mp hy)
  generalize cInt plane.height.toNat = rows at h hrow
  generalize cInt plane.stride.toNat = srcStride at h ⊢
  rcases h with ⟨hpos, _, hoffsets, _⟩
  have hsrc : 0 < srcStride := Int.lt_of_lt_of_le hpos (Int.min_le_left _ _)
  have hdst : 0 < dstStride := Int.lt_of_lt_of_le hpos (Int.min_le_right _ _)
  obtain ⟨src, rfl⟩ := Int.eq_ofNat_of_zero_le (Int.le_of_lt hsrc)
  obtain ⟨dst, rfl⟩ := Int.eq_ofNat_of_zero_le (Int.le_of_lt hdst)
  have hoffset : forall stride : Nat, (stride : Int) ≤ max (src : Int) dst ->
      cInt (y * stride) = (y * stride : Nat) := by
    intro stride hle
    rw [Int.natCast_mul]
    have hnonneg := Int.mul_nonneg (Int.natCast_nonneg y) (Int.natCast_nonneg stride)
    refine cInt_eq (Int.le_trans (by decide) hnonneg) (Int.le_trans ?_ hoffsets)
    exact Int.mul_le_mul (Int.le_sub_one_of_lt hrow) hle
      (Int.natCast_nonneg stride) (by omega)
  have hcount : sizeT (min (src : Int) dst) = min src dst := by
    have hcast : min (src : Int) dst = (min src dst : Nat) := by omega
    unfold intMax at hmax
    rw [hcast]
    exact sizeT_natCast (by omega)
  rw [hoffset src (Int.le_max_left _ _), hoffset dst (Int.le_max_right _ _), hcount]
  rfl

theorem RowsInside.within {height : Nat} {srcStride dstStride rows : Int}
    {raw old : Bytes}
    (h : RowsInside raw.length height srcStride dstStride rows)
    (hold : height * dstStride.toNat ≤ old.length) :
    Copy.Within old.length raw.length (Copy.rows dstStride.toNat srcStride.toNat
      (min srcStride.toNat dstStride.toNat) rows.toNat) := by
  rcases h with ⟨hpos, hfew, _, hlast⟩
  have hsrc : 0 < srcStride := Int.lt_of_lt_of_le hpos (Int.min_le_left _ _)
  have hdst : 0 < dstStride := Int.lt_of_lt_of_le hpos (Int.min_le_right _ _)
  obtain ⟨src, rfl⟩ := Int.eq_ofNat_of_zero_le (Int.le_of_lt hsrc)
  obtain ⟨dst, rfl⟩ := Int.eq_ofNat_of_zero_le (Int.le_of_lt hdst)
  rw [Int.toNat_natCast] at hold ⊢
  rw [Int.toNat_natCast]
  have hwrites := (@Copy.rows_writes_iff dst src (min src dst) rows.toNat height
    (Nat.min_le_right _ _)).mpr (.inr (Int.toNat_le.mpr hfew))
  have hreads := (@Copy.rows_reads_iff dst src (min src dst) rows.toNat
    raw.length).mpr ?_
  · intro c hc
    exact ⟨fun offset ho => Nat.lt_of_lt_of_le (hwrites c hc offset ho) hold,
      hreads c hc⟩
  · refine .inr ?_
    rcases Int.lt_or_le 0 rows with hsome | hnone
    · obtain ⟨n, rfl⟩ := Int.eq_ofNat_of_zero_le (Int.le_of_lt hsome)
      refine .inr ?_
      have hone : ((n - 1 : Nat) : Int) = (n : Int) - 1 := by omega
      rw [<- hone, <- Int.natCast_mul] at hlast
      rw [Int.toNat_natCast]
      omega
    · exact .inl (Int.toNat_of_nonpos hnone)

/-- Copies that stay inside leave the rows of the plane in the lines of the
frame. -/
theorem fillRows_showsRows {plane : VTRemotePlaneView} {old : Bytes} {height : Nat}
    {dstStride : Int} (hmin : -2147483648 ≤ dstStride) (hmax : dstStride ≤ intMax)
    (hdata : plane.dataLen.toNat = plane.data.length)
    (hold : height * dstStride.toNat ≤ old.length)
    (h : forall c, c ∈ fillRows plane dstStride ->
      c.Inside plane.dataLen.toNat height dstStride) :
    ShowsRows plane.data (cInt plane.stride.toNat).toNat
      (cInt plane.height.toNat).toNat old dstStride.toNat
      ((fillRows plane dstStride).foldl (RowMemcpy.apply plane.data) old) := by
  rcases (fillRows_inside_iff plane height hmin hmax).mp h with
    hnone | hzero | hrows
  · -- no rows
    have hcount : (cInt plane.height.toNat).toNat = 0 := Int.toNat_of_nonpos hnone
    have hempty : fillRows plane dstStride = [] := by
      unfold fillRows
      dsimp only
      rw [hcount]
      rfl
    intro row col _
    rw [hempty, hcount, if_neg fun h => Nat.not_lt_zero _ h.1]
    rfl
  · -- rows without bytes
    have hcounts : forall c, c ∈ fillRows plane dstStride -> c.count = 0 := by
      apply (@forall_fillRows plane dstStride fun c => c.count = 0).mpr
      intro y _
      have hcount : sizeT 0 = 0 := rfl
      dsimp only
      rw [hzero, hcount]
    have hnarrow : min (cInt plane.stride.toNat).toNat dstStride.toNat = 0 := by
      revert hzero
      generalize cInt plane.stride.toNat = srcStride
      intro hzero
      omega
    intro row col hcol
    rw [foldl_apply_of_empty hcounts, if_neg]
    intro hinside
    exact Nat.not_lt_zero col (hnarrow ▸ Nat.lt_min.mpr ⟨hinside.2, hcol⟩)
  · rw [fillRows_eq_rows hmax hrows]
    rw [hdata] at hrows
    exact showsRows_foldl (hrows.within hold)

end VTRemote
