import Mathlib.Data.List.Range

/-!
# Copies of runs

A copy moves a run of elements from a source to a destination, as `memcpy`
does.  The rows of a plane are such runs, one stride apart on either side; the
last section says where they land and which offsets they touch.
-/

namespace VTRemote

/-- `count` elements from offset `src` of the source to offset `dst` of the
destination. -/
structure Copy where
  dst : Nat
  src : Nat
  count : Nat
deriving DecidableEq, Repr

namespace Copy

variable {α : Type}

def Writes (c : Copy) (offset : Nat) : Prop :=
  c.dst ≤ offset ∧ offset < c.dst + c.count

def Reads (c : Copy) (offset : Nat) : Prop :=
  c.src ≤ offset ∧ offset < c.src + c.count

instance (c : Copy) (offset : Nat) : Decidable (c.Writes offset) :=
  inferInstanceAs (Decidable (_ ∧ _))

instance (c : Copy) (offset : Nat) : Decidable (c.Reads offset) :=
  inferInstanceAs (Decidable (_ ∧ _))

def apply (source : Nat -> α) (memory : Nat -> α) (c : Copy) : Nat -> α :=
  fun offset =>
    if c.Writes offset then source (c.src + (offset - c.dst))
    else memory offset

def applyAll (source : Nat -> α) (copies : List Copy) (memory : Nat -> α) :
    Nat -> α :=
  copies.foldl (apply source) memory

theorem apply_of_not_writes {source memory : Nat -> α} {c : Copy}
    {offset : Nat} (h : ¬ c.Writes offset) :
    apply source memory c offset = memory offset :=
  if_neg h

theorem apply_run (source memory : Nat -> α) (c : Copy) {k : Nat}
    (h : k < c.count) :
    apply source memory c (c.dst + k) = source (c.src + k) := by
  have hwrites : c.Writes (c.dst + k) :=
    ⟨Nat.le_add_right _ _, Nat.add_lt_add_left h _⟩
  unfold apply
  rw [if_pos hwrites, Nat.add_sub_cancel_left]

theorem applyAll_append (source memory : Nat -> α) (front back : List Copy) :
    applyAll source (front ++ back) memory =
      applyAll source back (applyAll source front memory) :=
  List.foldl_append

theorem applyAll_singleton (source memory : Nat -> α) (c : Copy) :
    applyAll source [c] memory = apply source memory c := rfl

theorem applyAll_of_not_writes {source memory : Nat -> α} {copies : List Copy}
    {offset : Nat} (h : forall c, c ∈ copies -> ¬ c.Writes offset) :
    applyAll source copies memory offset = memory offset := by
  induction copies generalizing memory with
  | nil => rfl
  | cons c rest ih =>
      have hrest := fun d hd => h d (List.mem_cons_of_mem c hd)
      have hc := h c List.mem_cons_self
      show applyAll source rest (apply source memory c) offset = _
      rw [ih hrest, apply_of_not_writes hc]

/-!
## Bounds
-/

def Within (dstSize srcSize : Nat) (copies : List Copy) : Prop :=
  forall c, c ∈ copies ->
    (forall offset, c.Writes offset -> offset < dstSize) ∧
    (forall offset, c.Reads offset -> offset < srcSize)

theorem writes_below_iff (c : Copy) (size : Nat) :
    (forall offset, c.Writes offset -> offset < size) <->
      c.count = 0 ∨ c.dst + c.count ≤ size := by
  constructor
  · intro h
    rcases Nat.eq_zero_or_pos c.count with hzero | hpos
    · exact .inl hzero
    · have hlast := h (c.dst + c.count - 1) ⟨by omega, by omega⟩
      exact .inr (by omega)
  · intro h offset h'
    rcases h' with ⟨hle, hlt⟩
    omega

theorem reads_below_iff (c : Copy) (size : Nat) :
    (forall offset, c.Reads offset -> offset < size) <->
      c.count = 0 ∨ c.src + c.count ≤ size :=
  writes_below_iff { c with dst := c.src } size

/-!
## Rows
-/

/-- The first rows of two planes, each with a stride of its own. -/
def rows (dstStride srcStride count height : Nat) : List Copy :=
  (List.range height).map fun row =>
    { dst := row * dstStride, src := row * srcStride, count }

theorem mem_rows {dstStride srcStride count height : Nat} {c : Copy} :
    c ∈ rows dstStride srcStride count height <->
      exists row, row < height ∧
        c = { dst := row * dstStride, src := row * srcStride, count } := by
  unfold rows
  rw [List.mem_map]
  constructor
  · intro h
    rcases h with ⟨row, hrow, rfl⟩
    exact ⟨row, List.mem_range.mp hrow, rfl⟩
  · intro h
    rcases h with ⟨row, hrow, rfl⟩
    exact ⟨row, List.mem_range.mpr hrow, rfl⟩

theorem rows_succ (dstStride srcStride count height : Nat) :
    rows dstStride srcStride count (height + 1) =
      rows dstStride srcStride count height ++
        [{ dst := height * dstStride, src := height * srcStride, count }] := by
  unfold rows
  rw [List.range_succ, List.map_append]
  rfl

/-- Rows that fit their stride do not overlap: each arrives. -/
theorem applyAll_rows (source memory : Nat -> α)
    {dstStride srcStride count height row k : Nat} (hcount : count ≤ dstStride)
    (hrow : row < height) (hk : k < count) :
    applyAll source (rows dstStride srcStride count height) memory
      (row * dstStride + k) = source (row * srcStride + k) := by
  induction height with
  | zero => exact absurd hrow (Nat.not_lt_zero row)
  | succ height ih =>
      rw [rows_succ, applyAll_append, applyAll_singleton]
      rcases Nat.lt_or_eq_of_le (Nat.le_of_lt_succ hrow) with hlt | rfl
      · have hbefore : row * dstStride + k < height * dstStride :=
          calc row * dstStride + k
              < row * dstStride + dstStride :=
                Nat.add_lt_add_left (Nat.lt_of_lt_of_le hk hcount) _
            _ = (row + 1) * dstStride := (Nat.succ_mul row dstStride).symm
            _ ≤ height * dstStride := Nat.mul_le_mul_right dstStride hlt
        rw [apply_of_not_writes fun hwrites =>
          Nat.not_lt_of_le hwrites.1 hbefore]
        exact ih hlt
      · exact apply_run source _ _ hk

/-- What no row covers stays: the rows behind the last one and the columns
behind the run. -/
theorem applyAll_rows_outside (source memory : Nat -> α)
    {dstStride srcStride count height row k : Nat} (hcount : count ≤ dstStride)
    (hk : k < dstStride) (houtside : ¬ (row < height ∧ k < count)) :
    applyAll source (rows dstStride srcStride count height) memory
      (row * dstStride + k) = memory (row * dstStride + k) := by
  apply applyAll_of_not_writes
  intro c hc h
  rcases h with ⟨hle, hlt⟩
  rcases mem_rows.mp hc with ⟨row', hrow', rfl⟩
  -- the offset lies in the row that writes it
  have hbelow : row' * dstStride < (row + 1) * dstStride :=
    calc row' * dstStride
        ≤ row * dstStride + k := hle
      _ < row * dstStride + dstStride := Nat.add_lt_add_left hk _
      _ = (row + 1) * dstStride := (Nat.succ_mul row dstStride).symm
  have habove : row * dstStride < (row' + 1) * dstStride :=
    calc row * dstStride
        ≤ row * dstStride + k := Nat.le_add_right _ _
      _ < row' * dstStride + count := hlt
      _ ≤ row' * dstStride + dstStride := Nat.add_le_add_left hcount _
      _ = (row' + 1) * dstStride := (Nat.succ_mul row' dstStride).symm
  have hsame : row' = row := Nat.le_antisymm
    (Nat.le_of_lt_succ (Nat.lt_of_mul_lt_mul_right hbelow))
    (Nat.le_of_lt_succ (Nat.lt_of_mul_lt_mul_right habove))
  subst hsame
  exact houtside ⟨hrow', Nat.lt_of_add_lt_add_left hlt⟩

/-- The rows stay in a destination of `limit` rows, if they copy anything,
exactly when there are no more rows than that. -/
theorem rows_writes_iff {dstStride srcStride count height limit : Nat}
    (hcount : count ≤ dstStride) :
    (forall c, c ∈ rows dstStride srcStride count height ->
      forall offset, c.Writes offset -> offset < limit * dstStride) <->
      count = 0 ∨ height ≤ limit := by
  constructor
  · intro h
    rcases Nat.eq_zero_or_pos count with hzero | hpos
    · exact .inl hzero
    · refine .inr (Nat.le_of_not_lt fun hlimit => ?_)
      -- the row after the last one of the destination
      have hrow := h _ (mem_rows.mpr ⟨limit, hlimit, rfl⟩) (limit * dstStride)
        ⟨Nat.le_refl _, Nat.lt_add_of_pos_right hpos⟩
      exact Nat.lt_irrefl _ hrow
  · intro h c hc offset h'
    rcases h' with ⟨hle, hlt⟩
    rcases mem_rows.mp hc with ⟨row, hrow, rfl⟩
    rcases h with rfl | hheight
    · exact absurd hlt (Nat.not_lt_of_le hle)
    · calc offset
          < row * dstStride + count := hlt
        _ ≤ row * dstStride + dstStride := Nat.add_le_add_left hcount _
        _ = (row + 1) * dstStride := (Nat.succ_mul row dstStride).symm
        _ ≤ limit * dstStride :=
            Nat.mul_le_mul_right dstStride (Nat.le_trans hrow hheight)

/-- The rows stay in the source exactly when the last one does. -/
theorem rows_reads_iff {dstStride srcStride count height size : Nat} :
    (forall c, c ∈ rows dstStride srcStride count height ->
      forall offset, c.Reads offset -> offset < size) <->
      count = 0 ∨ height = 0 ∨ (height - 1) * srcStride + count ≤ size := by
  constructor
  · intro h
    rcases Nat.eq_zero_or_pos height with hzero | hpos
    · exact .inr (.inl hzero)
    · have hlast := h _ (mem_rows.mpr ⟨height - 1, Nat.sub_lt hpos Nat.one_pos, rfl⟩)
      rcases (reads_below_iff _ size).mp hlast with hcount | hle
      · exact .inl hcount
      · exact .inr (.inr hle)
  · intro h c hc
    rcases mem_rows.mp hc with ⟨row, hrow, rfl⟩
    refine (reads_below_iff _ size).mpr ?_
    rcases h with hcount | hheight | hlast
    · exact .inl hcount
    · exact absurd hrow (hheight ▸ Nat.not_lt_zero row)
    · have hle := Nat.mul_le_mul_right srcStride (Nat.le_sub_one_of_lt hrow)
      exact .inr (Nat.le_trans (Nat.add_le_add_right hle count) hlast)

end Copy
end VTRemote
