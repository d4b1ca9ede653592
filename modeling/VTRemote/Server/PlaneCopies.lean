import VTRemote.Server.EncoderSession

/-!
# What processPlane does

The copies of one plane as a function of its strides and height, when the
process survives computing them, and how `processPlane` ends.
-/

namespace VTRemote

/-!
## The runs
-/

theorem mapM_uniform {α β ε : Type} {f : α -> Except ε β} {g : α -> β} {e : ε}
    {p : α -> Prop} [DecidablePred p] (hf : forall a, p a -> f a = .ok (g a))
    (hfail : forall a, ¬ p a -> f a = .error e) (xs : List α) :
    xs.mapM f =
      if forall a, a ∈ xs -> p a then .ok (xs.map g) else .error e := by
  induction xs with
  | nil =>
      rw [if_pos fun a ha => absurd ha List.not_mem_nil]
      rfl
  | cons x rest ih =>
      rw [List.mapM_cons, ih]
      by_cases hx : p x
      · rw [hf x hx]
        by_cases hrest : forall a, a ∈ rest -> p a
        · rw [if_pos hrest, if_pos (List.forall_mem_cons.mpr ⟨hx, hrest⟩)]
          rfl
        · rw [if_neg hrest, if_neg fun h => hrest (List.forall_mem_cons.mp h).2]
          rfl
      · rw [hfail x hx, if_neg fun h => hx (List.forall_mem_cons.mp h).1]
        rfl

abbrev swiftIntMax : Nat := 9223372036854775807

abbrev swiftInt32Max : Nat := 2147483647

theorem rowCopies_eq {destStride stride copyBytes height : Nat}
    (hsize : stride * height ≤ swiftIntMax) :
    rowCopies destStride stride copyBytes height =
      if (height - 1) * destStride ≤ swiftIntMax then
        .ok (Copy.rows destStride stride copyBytes height)
      else .error .trapped := by
  have hloop := mapM_uniform
    (f := fun row => do
      let dst ← swiftInt (row * destStride)
      let src ← swiftInt (row * stride)
      pure { dst, src, count := copyBytes })
    (g := fun row =>
      ({ dst := row * destStride, src := row * stride,
         count := copyBytes } : Copy))
    (e := Failure.trapped)
    (p := fun row =>
      row * destStride ≤ swiftIntMax ∧ row * stride ≤ swiftIntMax)
    ?_ ?_ (List.range height)
  · unfold rowCopies
    rw [hloop]
    refine if_congr ?_ rfl rfl
    constructor
    · intro h
      rcases Nat.eq_zero_or_pos height with rfl | hpos
      · rw [Nat.zero_sub, Nat.zero_mul]
        exact Nat.zero_le _
      · exact (h (height - 1)
          (List.mem_range.mpr (Nat.sub_lt hpos Nat.one_pos))).1
    · intro h row hrow
      have hrow := List.mem_range.mp hrow
      constructor
      · exact Nat.le_trans
          (Nat.mul_le_mul_right destStride (Nat.le_sub_one_of_lt hrow)) h
      · rw [Nat.mul_comm row stride]
        exact Nat.le_trans
          (Nat.mul_le_mul_left stride (Nat.le_of_lt hrow)) hsize
  · intro row h
    rcases h with ⟨hdst, hsrc⟩
    rw [swiftInt_of_le hdst, swiftInt_of_le hsrc]
    rfl
  · intro row hover
    rcases Nat.lt_or_ge swiftIntMax (row * destStride) with hdst | hdst
    · rw [swiftInt_of_lt hdst]
      rfl
    · have hsrc : swiftIntMax < row * stride :=
        Nat.lt_of_not_le fun hsrc => hover ⟨hdst, hsrc⟩
      rw [swiftInt_of_le hdst, swiftInt_of_lt hsrc]
      rfl

/-- The computation of the runs survives: there is one run, or the division by
the stride and the offsets of the last row are defined. -/
def CopySafe (destStride stride rowBytes height : Nat) : Prop :=
  (stride = destStride ∧ stride = rowBytes) ∨
    (stride ≠ 0 ∧ (height - 1) * destStride ≤ swiftIntMax)

instance (destStride stride rowBytes height : Nat) :
    Decidable (CopySafe destStride stride rowBytes height) :=
  inferInstanceAs (Decidable (_ ∨ _))

def planeRuns (destStride stride rowBytes height : Nat) : List Copy :=
  if stride = destStride ∧ stride = rowBytes then
    [{ dst := 0, src := 0, count := stride * height }]
  else
    Copy.rows destStride stride (min rowBytes (min stride destStride)) height

theorem planeCopies_eq {destStride stride rowBytes height : Nat}
    (hsize : stride * height ≤ swiftIntMax) :
    planeCopies destStride stride rowBytes (stride * height) =
      if CopySafe destStride stride rowBytes height then
        .ok (planeRuns destStride stride rowBytes height)
      else .error .trapped := by
  unfold planeCopies planeRuns
  by_cases hone : stride = destStride ∧ stride = rowBytes
  · have hsafe : CopySafe destStride stride rowBytes height := Or.inl hone
    rw [if_pos hone, if_pos hone, if_pos hsafe]
  · rw [if_neg hone, if_neg hone]
    have hsafe : CopySafe destStride stride rowBytes height <->
        stride ≠ 0 ∧ (height - 1) * destStride ≤ swiftIntMax :=
      or_iff_right hone
    rcases Nat.eq_zero_or_pos stride with rfl | hpos
    · rw [if_neg fun h => (hsafe.mp h).1 rfl]
      rfl
    · have hdiv : swiftDiv (stride * height) stride = .ok height := by
        unfold swiftDiv
        rw [if_neg (Nat.ne_of_gt hpos), Nat.mul_div_cancel_left height hpos]
      rw [hdiv]
      show rowCopies _ _ _ _ = _
      rw [rowCopies_eq hsize]
      refine if_congr ?_ rfl rfl
      rw [hsafe]
      exact (and_iff_right (Nat.ne_of_gt hpos)).symm

/-- What the runs read is there, and they write inside the destination plane
exactly when it has as many rows, unless there is nothing to copy. -/
theorem planeRuns_within_iff {destStride stride rowBytes height limit : Nat}
    {source : List UInt8} (hsource : stride * height ≤ source.length) :
    Copy.Within (limit * destStride) source.length
        (planeRuns destStride stride rowBytes height) <->
      min rowBytes (min stride destStride) = 0 ∨ height ≤ limit := by
  have hreads : forall c,
      c ∈ planeRuns destStride stride rowBytes height ->
      forall offset, c.Reads offset -> offset < source.length := by
    intro c hc offset hreads
    refine Nat.lt_of_lt_of_le ?_ hsource
    unfold planeRuns at hc
    split at hc
    · rw [List.mem_singleton.mp hc] at hreads
      simpa [Copy.Reads] using hreads
    · refine (Copy.rows_reads_iff.mpr ?_) c hc offset hreads
      rcases Nat.eq_zero_or_pos height with hzero | hpos
      · exact .inr (.inl hzero)
      · refine .inr (.inr ?_)
        calc (height - 1) * stride + min rowBytes (min stride destStride)
            ≤ (height - 1) * stride + stride :=
              Nat.add_le_add_left
                (Nat.le_trans (Nat.min_le_right _ _) (Nat.min_le_left _ _)) _
          _ = stride * height := by
              rw [<- Nat.succ_mul, Nat.succ_eq_add_one,
                Nat.sub_add_cancel hpos, Nat.mul_comm]
  have hwrites : (forall c,
      c ∈ planeRuns destStride stride rowBytes height ->
      forall offset, c.Writes offset -> offset < limit * destStride) <->
      min rowBytes (min stride destStride) = 0 ∨ height ≤ limit := by
    unfold planeRuns
    split
    · rename_i hone
      rcases hone with ⟨rfl, rfl⟩
      rw [Nat.min_self, Nat.min_self, List.forall_mem_singleton,
        Copy.writes_below_iff, Nat.zero_add, Nat.mul_eq_zero, or_assoc]
      rcases Nat.eq_zero_or_pos stride with rfl | hpos
      · simp
      · rw [or_iff_right (Nat.ne_of_gt hpos), or_iff_right (Nat.ne_of_gt hpos),
          Nat.mul_comm limit stride]
        constructor
        · intro h
          rcases h with rfl | h
          · exact Nat.zero_le _
          · exact Nat.le_of_mul_le_mul_left h hpos
        · intro h
          exact .inr (Nat.mul_le_mul_left stride h)
    · exact Copy.rows_writes_iff
        (Nat.le_trans (Nat.min_le_right _ _) (Nat.min_le_right _ _))
  constructor
  · intro h
    exact hwrites.mp fun c hc => (h c hc).1
  · intro h c hc
    exact ⟨hwrites.mpr h c hc, hreads c hc⟩

theorem planeRuns_filled {destStride stride rowBytes height row col : Nat}
    (source memory : Nat -> UInt8) (hstride : rowBytes ≤ stride)
    (hdest : rowBytes ≤ destStride) (hcol : col < destStride) :
    Copy.applyAll source (planeRuns destStride stride rowBytes height) memory
        (row * destStride + col) =
      if row < height ∧ col < rowBytes then source (row * stride + col)
      else memory (row * destStride + col) := by
  unfold planeRuns
  by_cases hone : stride = destStride ∧ stride = rowBytes
  · rw [if_pos hone]
    rcases hone with ⟨rfl, rfl⟩
    rw [Copy.applyAll_singleton]
    by_cases hrow : row < height
    · rw [if_pos ⟨hrow, hcol⟩]
      have hlt : row * stride + col < stride * height :=
        calc row * stride + col
            < row * stride + stride := Nat.add_lt_add_left hcol _
          _ = (row + 1) * stride := (Nat.succ_mul row stride).symm
          _ ≤ height * stride := Nat.mul_le_mul_right stride hrow
          _ = stride * height := Nat.mul_comm height stride
      have hrun := Copy.apply_run source memory
        { dst := 0, src := 0, count := stride * height } hlt
      rw [Nat.zero_add] at hrun
      exact hrun
    · rw [if_neg fun h => hrow h.1]
      apply Copy.apply_of_not_writes
      intro h
      rcases h with ⟨_, hlt⟩
      refine Nat.not_lt_of_le ?_ hlt
      calc 0 + stride * height
          = height * stride := by rw [Nat.zero_add, Nat.mul_comm]
        _ ≤ row * stride := Nat.mul_le_mul_right stride (Nat.le_of_not_lt hrow)
        _ ≤ row * stride + col := Nat.le_add_right _ _
  · rw [if_neg hone, Nat.min_eq_left (Nat.le_min.mpr ⟨hstride, hdest⟩)]
    by_cases hinside : row < height ∧ col < rowBytes
    · rw [if_pos hinside]
      exact Copy.applyAll_rows source memory hdest hinside.1 hinside.2
    · rw [if_neg hinside]
      exact Copy.applyAll_rows_outside source memory hdest hcol hinside

/-!
## The bytes to copy from
-/

/-- What a decompressor leaves that fills the destination. -/
def PlaneCodecs.decoded (codecs : PlaneCodecs) (wireCompression : Int)
    (raw : List UInt8) (size : Nat) : Option (List UInt8) :=
  if wireCompression = 1 then
    PlaneCodecs.ofSize (codecs.lz4DecompressSafe raw size) size
  else PlaneCodecs.ofSize (codecs.zstdDecompressRaw raw size) size

/-- There is something to decompress into, and LZ4's numbers fit it. -/
def DecompressSafe (wireCompression : Int) (raw : List UInt8) (size : Nat) :
    Prop :=
  0 < size ∧
    (wireCompression = 1 -> raw.length ≤ swiftInt32Max ∧ size ≤ swiftInt32Max)

instance (wireCompression : Int) (raw : List UInt8) (size : Nat) :
    Decidable (DecompressSafe wireCompression raw size) :=
  inferInstanceAs (Decidable (_ ∧ _))

theorem PlaneCodecs.ofSize_eq_some {decoded : Option (List UInt8)} {size : Nat}
    {temp : List UInt8} (h : PlaneCodecs.ofSize decoded size = some temp) :
    temp.length = size := by
  have hfilter := (Option.filter_eq_some_iff.mp h).2
  exact of_decide_eq_true hfilter

theorem PlaneCodecs.decoded_length {codecs : PlaneCodecs}
    {wireCompression : Int} {raw temp : List UInt8} {size : Nat}
    (h : codecs.decoded wireCompression raw size = some temp) :
    temp.length = size := by
  unfold PlaneCodecs.decoded at h
  split at h
  · exact PlaneCodecs.ofSize_eq_some h
  · exact PlaneCodecs.ofSize_eq_some h

theorem lz4Decompress_eq (codecs : PlaneCodecs) (raw : List UInt8) {size : Nat}
    (hsize : 0 < size) :
    codecs.lz4Decompress raw size =
      if raw.length ≤ swiftInt32Max ∧ size ≤ swiftInt32Max then
        .ok (PlaneCodecs.ofSize (codecs.lz4DecompressSafe raw size) size)
      else .error .trapped := by
  unfold PlaneCodecs.lz4Decompress
  rw [if_neg (Nat.ne_of_gt hsize)]
  rcases Nat.lt_or_ge swiftInt32Max raw.length with hlong | hraw
  · rw [swiftInt32_of_lt hlong, if_neg fun h => Nat.not_lt_of_le h.1 hlong]
    rfl
  · rw [swiftInt32_of_le hraw]
    rcases Nat.lt_or_ge swiftInt32Max size with hlarge | hle
    · rw [swiftInt32_of_lt hlarge, if_neg fun h => Nat.not_lt_of_le h.2 hlarge]
      rfl
    · rw [swiftInt32_of_le hle, if_pos ⟨hraw, hle⟩]
      rfl

theorem decompressTemp_eq (codecs : PlaneCodecs) (wireCompression : Int)
    (raw : List UInt8) (size : Nat) :
    decompressTemp codecs wireCompression raw size =
      if DecompressSafe wireCompression raw size then
        match codecs.decoded wireCompression raw size with
        | some temp => .ok temp
        | none => .error (thrownViolation "Decompress failed")
      else .error .trapped := by
  unfold decompressTemp
  rcases Nat.eq_zero_or_pos size with rfl | hpos
  · rw [if_pos rfl, if_neg fun h => Nat.lt_irrefl 0 h.1]
    rfl
  · rw [if_neg (Nat.ne_of_gt hpos)]
    unfold PlaneCodecs.decoded
    by_cases hlz4 : wireCompression = 1
    · rw [if_pos hlz4, if_pos hlz4, lz4Decompress_eq codecs raw hpos]
      by_cases hfit : raw.length ≤ swiftInt32Max ∧ size ≤ swiftInt32Max
      · rw [if_pos hfit, if_pos (show DecompressSafe _ _ _ from
          ⟨hpos, fun _ => hfit⟩)]
        cases PlaneCodecs.ofSize (codecs.lz4DecompressSafe raw size) size with
        | none => rfl
        | some temp => rfl
      · rw [if_neg hfit, if_neg fun h : DecompressSafe _ _ _ =>
          hfit (h.2 hlz4)]
        rfl
    · rw [if_neg hlz4, if_neg hlz4, if_pos (show DecompressSafe _ _ _ from
        ⟨hpos, fun h => absurd h hlz4⟩)]
      unfold PlaneCodecs.zstdDecompress
      rw [if_neg (Nat.ne_of_gt hpos)]
      cases PlaneCodecs.ofSize (codecs.zstdDecompressRaw raw size) size with
      | none => rfl
      | some temp => rfl

/-- The plane's bytes in system memory: those of the payload, if there are
enough, or what they decompress to. -/
def planeSource (codecs : PlaneCodecs) (wireCompression : Int)
    (raw : List UInt8) (size : Nat) : Option (List UInt8) :=
  if wireCompression = 0 then
    if raw.length < size then none else some raw
  else codecs.decoded wireCompression raw size

theorem planeSource_length {codecs : PlaneCodecs} {wireCompression : Int}
    {raw source : List UInt8} {size : Nat}
    (h : planeSource codecs wireCompression raw size = some source) :
    size ≤ source.length := by
  unfold planeSource at h
  split at h
  · split at h
    · cases h
    · rename_i hlen
      cases h
      exact Nat.le_of_not_lt hlen
  · exact Nat.le_of_eq (PlaneCodecs.decoded_length h).symm

/-!
## How processPlane ends
-/

def planeRefusal (wireCompression : Int) : VTRemotedError :=
  .protocolViolation
    (if wireCompression = 0 then "plane too small" else "Decompress failed")

theorem processPlane_eq (codecs : PlaneCodecs) (wireCompression : Int)
    (dest : DestPlane) (raw : List UInt8) {stride rowBytes height : Nat}
    (hsize : stride * height ≤ swiftIntMax) :
    processPlane codecs wireCompression (some dest) raw (stride * height)
        stride rowBytes =
      if wireCompression = 0 ∨
          DecompressSafe wireCompression raw (stride * height) then
        match planeSource codecs wireCompression raw (stride * height) with
        | none => .error (.thrown (planeRefusal wireCompression))
        | some source =>
            if CopySafe dest.stride stride rowBytes height then
              .ok (some
                { dest, source
                  copies := planeRuns dest.stride stride rowBytes height })
            else .error .trapped
      else .error .trapped := by
  unfold processPlane planeSource planeRefusal
  dsimp only
  rw [planeCopies_eq hsize]
  by_cases hzero : wireCompression = 0
  · rw [if_pos hzero, if_pos (Or.inl hzero), if_pos hzero, if_pos hzero]
    by_cases hlen : raw.length < stride * height
    · rw [if_pos hlen, if_pos hlen]
      rfl
    · rw [if_neg hlen, if_neg hlen]
      dsimp only
      split
      · rfl
      · rfl
  · rw [if_neg hzero, if_neg hzero, if_neg hzero, decompressTemp_eq]
    by_cases hsafe : DecompressSafe wireCompression raw (stride * height)
    · rw [if_pos hsafe, if_pos (Or.inr hsafe)]
      cases codecs.decoded wireCompression raw (stride * height) with
      | none => rfl
      | some temp =>
          dsimp only
          split
          · rfl
          · rfl
    · rw [if_neg hsafe, if_neg (not_or.mpr ⟨hzero, hsafe⟩)]
      rfl

theorem processPlane_none (codecs : PlaneCodecs) (wireCompression : Int)
    (raw : List UInt8) (expectedSize stride rowBytes : Nat) :
    processPlane codecs wireCompression none raw expectedSize stride rowBytes =
      .ok none := rfl

/-- What a plane of the buffer received: nothing if it has no base address, and
else the runs of the plane on the wire. -/
def PlaneReceived (codecs : PlaneCodecs) (wireCompression : Int)
    (rowBytes : Nat) (dest : Option DestPlane) (p : PlaneMessage)
    (copy : Option PlaneCopy) : Prop :=
  (dest = none ∧ copy = none) ∨
    exists d source, dest = some d ∧
      planeSource codecs wireCompression p.data p.size = some source ∧
      copy = some
        { dest := d, source
          copies := planeRuns d.stride p.stride.toNat rowBytes p.height.toNat }

theorem processPlane_eq_ok {codecs : PlaneCodecs} {wireCompression : Int}
    {dest : Option DestPlane} {p : PlaneMessage} {rowBytes : Nat}
    {copy : Option PlaneCopy} (hsize : p.size ≤ swiftIntMax)
    (h : processPlane codecs wireCompression dest p.data p.size
      p.stride.toNat rowBytes = .ok copy) :
    PlaneReceived codecs wireCompression rowBytes dest p copy := by
  cases dest with
  | none =>
      rw [processPlane_none] at h
      cases h
      exact .inl ⟨rfl, rfl⟩
  | some d =>
      have hplane : processPlane codecs wireCompression (some d) p.data p.size
          p.stride.toNat rowBytes = _ :=
        processPlane_eq codecs wireCompression d p.data hsize
      rw [show p.stride.toNat * p.height.toNat = p.size from rfl, h] at hplane
      split at hplane
      · cases hsource : planeSource codecs wireCompression p.data p.size with
        | none =>
            rw [hsource] at hplane
            cases hplane
        | some source =>
            rw [hsource] at hplane
            dsimp only at hplane
            split at hplane
            · cases hplane
              exact .inr ⟨d, source, rfl, hsource, rfl⟩
            · cases hplane
      · cases hplane

end VTRemote
