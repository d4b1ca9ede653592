import VTRemote.Proto.Buffer

/-!
# Growth of a write buffer

How many requests a sequence of writes makes to the allocator, and what a write
that fails leaves out.
-/

namespace VTRemote

/-!
## Requests to the allocator
-/

structure Room where
  size : Nat
  capacity : Nat
deriving DecidableEq, Repr

namespace Room

/-- The room after a write of `n` bytes; a block that is too small is replaced
by one of the size that `av_fast_realloc` asks for. -/
def grow (r : Room) (n : Nat) : Room :=
  if r.size + n ≤ r.capacity then { r with size := r.size + n }
  else
    { size := r.size + n
      capacity := min (min maxAllocSize uintMax)
        (max (r.size + n + (r.size + n) / 16 + 32) (r.size + n)) }

def growAll (r : Room) (lengths : List Nat) : Room := lengths.foldl grow r

def requests (r : Room) : List Nat -> Nat
  | [] => 0
  | n :: rest =>
      (if r.size + n ≤ r.capacity then 0 else 1) + (r.grow n).requests rest

theorem requests_append (r : Room) (first second : List Nat) :
    r.requests (first ++ second) =
      r.requests first + (r.growAll first).requests second := by
  induction first generalizing r with
  | nil => exact (Nat.zero_add _).symm
  | cons n rest ih =>
      show _ + (r.grow n).requests (rest ++ second) = _
      rw [ih, <- Nat.add_assoc]
      rfl

theorem grow_size (r : Room) (n : Nat) : (r.grow n).size = r.size + n := by
  unfold grow
  split
  · rfl
  · rfl

theorem growAll_size (r : Room) (lengths : List Nat) :
    (r.growAll lengths).size = r.size + lengths.sum := by
  induction lengths generalizing r with
  | nil => rfl
  | cons n rest ih =>
      show ((r.grow n).growAll rest).size = _
      rw [ih, grow_size, List.sum_cons, Nat.add_assoc]

end Room

def VTRemoteWBuf.room (b : VTRemoteWBuf) : Room := ⟨b.size, b.capacity⟩

/-- Writes of these lengths start with a byte and stay below the limit of the
allocator. -/
def Room.Takes (r : Room) (lengths : List Nat) : Prop :=
  0 < r.size + lengths.headD 0 ∧ r.size + lengths.sum ≤ maxAllocSize

/-- A put that writes pieces of these lengths.  It returns zero exactly when
the allocator grants each request it makes. -/
def Grows (put : WbufPut) (lengths : List Nat) : Prop :=
  forall b, b.Sound -> b.room.Takes lengths ->
    ((put b).1 = 0 <-> false ∉ b.grants.take (b.room.requests lengths)) ∧
    ((put b).1 = 0 -> (put b).2.room = b.room.growAll lengths ∧
      (put b).2.grants = b.grants.drop (b.room.requests lengths))

theorem VTRemoteWBuf.avFastRealloc_of_le {b : VTRemoteWBuf} {minSize : Nat}
    (h : minSize ≤ b.capacity) : b.avFastRealloc minSize = b :=
  if_pos h

theorem VTRemoteWBuf.store_capacity (b : VTRemoteWBuf) (bytes : Bytes) :
    (b.store bytes).capacity = b.capacity := by
  show ((b.data.map fun block => overwrite block b.size bytes).getD []).length =
    (b.data.getD []).length
  cases b.data with
  | none => rfl
  | some block =>
      simp only [Option.map_some, Option.getD_some, overwrite, List.length_take,
        List.length_append, List.length_drop]
      omega

theorem VTRemoteWBuf.avFastRealloc_of_lt {b : VTRemoteWBuf} {minSize : Nat}
    (h : b.capacity < minSize) (hmax : minSize ≤ maxAllocSize) :
    (false ∈ b.grants.take 1 -> (b.avFastRealloc minSize).data = none) ∧
    (false ∉ b.grants.take 1 ->
      (exists block, (b.avFastRealloc minSize).data = some block) ∧
      (b.avFastRealloc minSize).capacity = min (min maxAllocSize uintMax)
        (max (minSize + minSize / 16 + 32) minSize) ∧
      (b.avFastRealloc minSize).grants = b.grants.drop 1) := by
  have hfits : ¬ min maxAllocSize uintMax < minSize := by
    unfold maxAllocSize uintMax
    unfold maxAllocSize at hmax
    omega
  unfold avFastRealloc
  rw [if_neg (Nat.not_le.mpr h), if_neg hfits]
  unfold avRealloc
  cases hgrants : b.grants with
  | nil =>
      constructor
      · intro hmem
        cases hmem
      · intro _
        exact ⟨⟨_, rfl⟩, by simp [capacity], rfl⟩
  | cons grant rest =>
      cases grant with
      | false =>
          constructor
          · intro _
            rfl
          · intro hmem
            exact absurd List.mem_cons_self hmem
      | true =>
          constructor
          · intro hmem
            rcases List.mem_cons.mp hmem with hfalse | hnil
            · cases hfalse
            · cases hnil
          · intro _
            exact ⟨⟨_, rfl⟩, by simp [capacity], rfl⟩

@[simp] theorem VTRemoteWBuf.avFastRealloc_size (b : VTRemoteWBuf)
    (minSize : Nat) : (b.avFastRealloc minSize).size = b.size := by
  unfold avFastRealloc
  split
  · rfl
  · split
    · rfl
    · unfold avRealloc
      split
      · rfl
      · rfl

/-- A piece of `n` bytes needs a larger block, and there is none for it. -/
def Room.Refuses (r : Room) (grants : List Bool) (n : Nat) : Prop :=
  r.capacity < r.size + n ∧ (maxAllocSize < r.size + n ∨ false ∈ grants.take 1)

instance (r : Room) (grants : List Bool) (n : Nat) : Decidable (r.Refuses grants n) :=
  inferInstanceAs (Decidable (_ ∧ _))

theorem VTRemoteWBuf.avFastRealloc_of_refuses {b : VTRemoteWBuf} {n : Nat}
    (h : b.room.Refuses b.grants n) : (b.avFastRealloc (b.size + n)).data = none := by
  have hshort : b.capacity < b.size + n := h.1
  rcases Nat.lt_or_ge maxAllocSize (b.size + n) with hmax | hmax
  · have hlimit : min maxAllocSize uintMax < b.size + n :=
      Nat.lt_of_le_of_lt (Nat.min_le_left _ _) hmax
    unfold avFastRealloc
    rw [if_neg (Nat.not_le.mpr hshort), if_pos hlimit]
    rfl
  · have hrefused : false ∈ b.grants.take 1 :=
      h.2.resolve_left (Nat.not_lt.mpr hmax)
    exact (avFastRealloc_of_lt hshort hmax).1 hrefused

section Piece

variable {b : VTRemoteWBuf} {bytes block : Bytes}

theorem wbufPut_of_none
    (h : (b.avFastRealloc (b.size + bytes.length)).data = none) :
    wbufPut bytes b =
      ((averror enomem).code, b.avFastRealloc (b.size + bytes.length)) := by
  unfold wbufPut VTRemoteWBuf.wbufReserve
  simp only [if_pos h, if_pos (averror enomem).neg]

theorem wbufPut_of_some
    (h : (b.avFastRealloc (b.size + bytes.length)).data = some block) :
    wbufPut bytes b =
      (0, (b.avFastRealloc (b.size + bytes.length)).store bytes) := by
  rcases wbufPut_cases bytes b with ⟨hnone, _⟩ | ⟨_, _, hput⟩
  · rw [h] at hnone
    cases hnone
  · exact hput

theorem wbufPut_of_refuses (h : b.room.Refuses b.grants bytes.length) :
    (wbufPut bytes b).1 < 0 ∧ (wbufPut bytes b).2.size = b.size ∧
      (wbufPut bytes b).2.data = none := by
  have hnone := VTRemoteWBuf.avFastRealloc_of_refuses h
  rw [wbufPut_of_none hnone]
  exact ⟨(averror enomem).neg, b.avFastRealloc_size _, hnone⟩

structure WritesPiece (bytes : Bytes) (b : VTRemoteWBuf) : Prop where
  ret : (wbufPut bytes b).1 = 0
  room : (wbufPut bytes b).2.room = b.room.grow bytes.length
  grants : (wbufPut bytes b).2.grants =
    b.grants.drop (b.room.requests [bytes.length])

theorem writesPiece_of_room (hblock : b.data = some block)
    (hroom : b.size + bytes.length ≤ b.capacity) : WritesPiece bytes b := by
  have hstay := VTRemoteWBuf.avFastRealloc_of_le hroom
  have hput : wbufPut bytes b = (0, b.store bytes) := by
    rw [wbufPut_of_some (hstay.symm ▸ hblock), hstay]
  have hrequests : b.room.requests [bytes.length] = 0 := by
    show (if b.size + bytes.length ≤ b.capacity then 0 else 1) + 0 = 0
    rw [if_pos hroom]
  have hgrow : b.room.grow bytes.length =
      ⟨b.size + bytes.length, b.capacity⟩ := if_pos hroom
  constructor
  · rw [hput]
  · rw [hput, hgrow]
    show Room.mk _ _ = _
    rw [VTRemoteWBuf.store_capacity]
    rfl
  · rw [hput, hrequests]
    rfl

theorem writesPiece_of_granted (hroom : b.capacity < b.size + bytes.length)
    (hmax : b.size + bytes.length ≤ maxAllocSize)
    (hgranted : false ∉ b.grants.take 1) : WritesPiece bytes b := by
  rcases (VTRemoteWBuf.avFastRealloc_of_lt hroom hmax).2 hgranted with
    ⟨⟨block, hblock⟩, hcap, hgrants⟩
  have hput := wbufPut_of_some hblock
  have hrequests : b.room.requests [bytes.length] = 1 := by
    show (if b.size + bytes.length ≤ b.capacity then 0 else 1) + 0 = 1
    rw [if_neg (Nat.not_le.mpr hroom)]
  have hgrow : b.room.grow bytes.length = _ := if_neg (Nat.not_le.mpr hroom)
  constructor
  · rw [hput]
  · rw [hput, hgrow]
    show Room.mk _ _ = _
    rw [VTRemoteWBuf.store_capacity, hcap]
    show Room.mk ((b.avFastRealloc _).size + bytes.length) _ = _
    rw [VTRemoteWBuf.avFastRealloc_size]
    rfl
  · rw [hput, hrequests]
    exact hgrants

/-- A piece that is not refused memory is written, but that no byte is written to a
buffer without a block. -/
theorem wbufPut_of_not_refuses (h : ¬ b.room.Refuses b.grants bytes.length) :
    WritesPiece bytes b ∨
      (b.data = none ∧ b.size + bytes.length = 0 ∧
        wbufPut bytes b = ((averror enomem).code, b)) := by
  by_cases hroom : b.size + bytes.length ≤ b.capacity
  · cases hdata : b.data with
    | some block => exact Or.inl (writesPiece_of_room hdata hroom)
    | none =>
        have hstay := VTRemoteWBuf.avFastRealloc_of_le hroom
        have hcapacity : b.capacity = 0 := by
          unfold VTRemoteWBuf.capacity
          rw [hdata]
          rfl
        rw [hcapacity] at hroom
        have hput := wbufPut_of_none (hstay.symm ▸ hdata)
        rw [hstay] at hput
        exact Or.inr ⟨rfl, Nat.eq_zero_of_le_zero hroom, hput⟩
  · left
    have hshort := Nat.lt_of_not_le hroom
    apply writesPiece_of_granted hshort
    · exact Nat.le_of_not_lt fun hmax => h ⟨hshort, Or.inl hmax⟩
    · exact fun hmem => h ⟨hshort, Or.inr hmem⟩

end Piece

theorem wbufPut_grows (bytes : Bytes) : Grows (wbufPut bytes) [bytes.length] := by
  intro b _ htakes
  have hpos : 0 < b.size + bytes.length := htakes.1
  have hmax : b.size + bytes.length ≤ maxAllocSize := htakes.2
  by_cases hrefuses : b.room.Refuses b.grants bytes.length
  · have hret := (wbufPut_of_refuses hrefuses).1
    have hrefused : false ∈ b.grants.take (b.room.requests [bytes.length]) := by
      show false ∈ b.grants.take ((if _ then 0 else 1) + 0)
      rw [if_neg (Nat.not_le.mpr hrefuses.1)]
      exact hrefuses.2.resolve_left (Nat.not_lt.mpr hmax)
    constructor
    · exact iff_of_false (Int.ne_of_lt hret) (fun hno => hno hrefused)
    · exact fun hzero => absurd hzero (Int.ne_of_lt hret)
  · have hgranted : false ∉ b.grants.take (b.room.requests [bytes.length]) := by
      intro hmem
      unfold Room.requests at hmem
      split at hmem
      · cases hmem
      · rename_i hroom
        exact hrefuses ⟨Nat.lt_of_not_le hroom, Or.inr hmem⟩
    rcases wbufPut_of_not_refuses hrefuses with hpiece | ⟨_, hzero, _⟩
    · exact ⟨iff_of_true hpiece.ret hgranted, fun _ => ⟨hpiece.room, hpiece.grants⟩⟩
    · exact absurd hzero (Nat.ne_of_gt hpos)

namespace Grows

variable {first second : WbufPut} {m n : List Nat} {x y : Bytes}

theorem not_mem_take_add {grants : List Bool} {m n : Nat} :
    false ∉ grants.take (m + n) <->
      false ∉ grants.take m ∧ false ∉ (grants.drop m).take n := by
  rw [List.take_add, List.mem_append, not_or]

theorem orThen (hfirst : Appends first x) (hsecond : Appends second y)
    (hf : Grows first m) (hs : Grows second n) (hm : 0 < m.headD 0) :
    Grows (first.orThen second) (m ++ n) := by
  intro b hb htakes
  have hhead : m.headD 0 ≤ m.sum := by
    cases m with
    | nil => exact Nat.le_refl 0
    | cons k rest => exact Nat.le_add_right k rest.sum
  have hmax : b.size + (m.sum + n.sum) ≤ maxAllocSize := by
    rw [<- List.sum_append]
    exact htakes.2
  have htakes1 : b.room.Takes m :=
    ⟨Nat.add_pos_right _ hm, Nat.le_trans (by
      show b.size + m.sum ≤ b.size + (m.sum + n.sum)
      omega) hmax⟩
  rcases hf b hb htakes1 with ⟨hiff, hgrown⟩
  have hsecond_of : (first b).1 = 0 -> _ := fun hzero => by
    rcases hgrown hzero with ⟨hroom, hgrants⟩
    have hsize := Room.growAll_size b.room m
    rw [<- hroom] at hsize
    have hroom2 : (first b).2.room.Takes n := by
      constructor
      · rw [hsize]
        omega
      · rw [hsize, Nat.add_assoc]
        exact hmax
    have h := hs _ (hfirst.sound b hb hzero) hroom2
    rw [hroom, hgrants] at h
    exact h
  have hzeros : (first.orThen second b).1 = 0 <->
      (first b).1 = 0 ∧ (second (first b).2).1 = 0 :=
    lor_eq_zero (hfirst.nonpos b) (hsecond.nonpos _)
  rw [Room.requests_append, not_mem_take_add, hzeros, hiff]
  constructor
  · constructor
    · intro ⟨h1, h2⟩
      exact ⟨h1, (hsecond_of (hiff.mpr h1)).1.mp h2⟩
    · intro ⟨h1, h2⟩
      exact ⟨h1, (hsecond_of (hiff.mpr h1)).1.mpr h2⟩
  · intro ⟨h1, h2⟩
    rcases (hsecond_of (hiff.mpr h1)).2 h2 with ⟨hroom, hgrants⟩
    constructor
    · show (second (first b).2).2.room = _
      rw [hroom]
      exact (List.foldl_append).symm
    · show (second (first b).2).2.grants = _
      rw [hgrants, List.drop_drop]

theorem orReturn (hfirst : Appends first x) (hsecond : Appends second y)
    (hf : Grows first m) (hs : Grows second n) (hm : 0 < m.headD 0) :
    Grows (first.orReturn second) (m ++ n) := by
  intro b hb htakes
  have hthen := orThen hfirst hsecond hf hs hm b hb htakes
  by_cases hneg : (first b).1 < 0
  · have hret : (first.orReturn second b).1 = (first b).1 := by
      simp only [WbufPut.orReturn, if_pos hneg]
    have hzero : ¬ (first.orThen second b).1 = 0 := by
      intro h
      have hb := (hfirst.zero_of_orThen hsecond h).1
      omega
    constructor
    · constructor
      · intro h
        omega
      · intro h
        exact absurd (hthen.1.mpr h) hzero
    · intro h
      omega
  · have heq : first.orReturn second b = first.orThen second b := by
      simp only [WbufPut.orReturn, WbufPut.orThen, if_neg hneg]
    rw [heq]
    exact hthen

end Grows

theorem vtremoteWbufPutStr_grows {s : Option Bytes}
    (h : (s.getD []).length ≤ 65535) :
    Grows (vtremoteWbufPutStr s) [2, (s.getD []).length] := by
  have hword := vtremoteWbufPutU16_appends (UInt16.ofNat (s.getD []).length)
  have hbytes : Grows
      (vtremoteWbufPutBytes (s.getD []) (s.getD []).length)
      [(s.getD []).length] := by
    intro b hb htakes
    rw [vtremoteWbufPutBytes_length]
    exact wbufPut_grows _ b hb htakes
  have hpair := Grows.orReturn hword (Appends.putBytes _ (s.getD []).length)
    (wbufPut_grows _) hbytes Nat.two_pos
  intro b hb htakes
  rw [vtremoteWbufPutStr_of_le h]
  exact hpair b hb htakes

/-!
## Writes that fail
-/

/-- A put of at most `n` bytes, which leaves some of them out if it does not
return zero. -/
def LeavesOut (put : WbufPut) (n : Nat) : Prop :=
  forall b, (put b).2.size ≤ b.size + n ∧
    ((put b).1 ≠ 0 -> (put b).2.size < b.size + n)

theorem wbufPut_size (bytes : Bytes) (b : VTRemoteWBuf) :
    ((wbufPut bytes b).1 = 0 ∧
        (wbufPut bytes b).2.size = b.size + bytes.length) ∨
      ((wbufPut bytes b).1 < 0 ∧ (wbufPut bytes b).2.size = b.size) := by
  unfold wbufPut VTRemoteWBuf.wbufReserve
  cases hd : (b.avFastRealloc (b.size + bytes.length)).data with
  | none =>
      right
      simp [hd, (averror enomem).neg]
  | some block =>
      left
      simp [hd, VTRemoteWBuf.store]

namespace LeavesOut

theorem orThen {first second : WbufPut} {m n : Nat} (hf : LeavesOut first m)
    (hs : LeavesOut second n) : LeavesOut (first.orThen second) (m + n) := by
  intro b
  have hfirst := hf b
  have hsecond := hs (first b).2
  have hret : (first.orThen second b).1 =
      Int.lor (first b).1 (second (first b).2).1 := rfl
  have hsize : (first.orThen second b).2 = (second (first b).2).2 := rfl
  rw [hret, hsize]
  constructor
  · omega
  · intro hne
    by_cases hzero : (first b).1 = 0
    · rw [hzero, zero_lor] at hne
      have hlt := hsecond.2 hne
      omega
    · have hlt := hfirst.2 hzero
      omega

end LeavesOut

theorem VTRemoteWBuf.avFastRealloc_room {b : VTRemoteWBuf} {minSize : Nat}
    {block : Bytes} (h : (b.avFastRealloc minSize).data = some block) :
    minSize ≤ (b.avFastRealloc minSize).capacity := by
  by_cases hroom : minSize ≤ b.capacity
  · rw [avFastRealloc_of_le hroom]
    exact hroom
  · by_cases hmax : min maxAllocSize uintMax < minSize
    · have hlost : b.avFastRealloc minSize = b.lost b.grants := by
        unfold avFastRealloc
        rw [if_neg hroom, if_pos hmax]
      rw [hlost] at h
      cases h
    · have hle : minSize ≤ maxAllocSize := by omega
      have hspec := avFastRealloc_of_lt (Nat.lt_of_not_le hroom) hle
      have hgranted : false ∉ b.grants.take 1 := by
        intro hmem
        rw [hspec.1 hmem] at h
        cases h
      rw [(hspec.2 hgranted).2.1]
      omega

theorem wbufPut_nil {b : VTRemoteWBuf} {block : Bytes}
    (hdata : b.data = some block) (hb : b.Sound) : (wbufPut [] b).1 = 0 := by
  have hstay := VTRemoteWBuf.avFastRealloc_of_le (b := b) hb
  unfold wbufPut VTRemoteWBuf.wbufReserve
  simp [hstay, hdata]

theorem wbufPut_sound {bytes : Bytes} {b : VTRemoteWBuf}
    (h : (wbufPut bytes b).1 = 0) :
    (exists block, (wbufPut bytes b).2.data = some block) ∧
      (wbufPut bytes b).2.Sound := by
  have hneg := (averror enomem).neg
  rcases wbufPut_cases bytes b with ⟨_, hret⟩ | ⟨block, hdata, hput⟩
  · omega
  · have hroom := VTRemoteWBuf.avFastRealloc_room hdata
    rw [hput]
    constructor
    · refine ⟨VTRemoteWBuf.overwrite block
        (b.avFastRealloc (b.size + bytes.length)).size bytes, ?_⟩
      show Option.map _ (b.avFastRealloc _).data = _
      rw [hdata, Option.map_some]
    · show (b.avFastRealloc _).size + bytes.length ≤ VTRemoteWBuf.capacity _
      rw [VTRemoteWBuf.store_capacity, VTRemoteWBuf.avFastRealloc_size]
      exact hroom

/-- The bytes of a string are only lost if there are any. -/
theorem vtremoteWbufPutStr_leavesOut (s : Option Bytes) :
    LeavesOut (vtremoteWbufPutStr s) (2 + (s.getD []).length) := by
  intro b
  by_cases hlen : 65535 < (s.getD []).length
  · have hput : vtremoteWbufPutStr s b = ((averror einval).code, b) := if_pos hlen
    rw [hput]
    constructor
    · exact Nat.le_add_right _ _
    · intro _
      show b.size < _
      omega
  · rw [vtremoteWbufPutStr_of_le (Nat.le_of_not_lt hlen)]
    generalize hword : UInt16.ofNat (s.getD []).length = word
    rcases wbufPut_size (BigEndian.store16 word) b with
      ⟨hzero, hsize⟩ | ⟨hneg, hsize⟩
    · -- the length word is there
      have hthen : ((vtremoteWbufPutU16 word).orReturn
          (vtremoteWbufPutBytes (s.getD []) (s.getD []).length) b) =
          wbufPut (s.getD []) (wbufPut (BigEndian.store16 word) b).2 := by
        unfold vtremoteWbufPutU16
        simp only [WbufPut.orReturn, vtremoteWbufPutBytes_length, hzero,
          if_neg (Int.lt_irrefl 0), zero_lor]
      rw [hthen]
      rcases wbufPut_sound hzero with ⟨⟨block, hdata⟩, hsound⟩
      have hwide : (wbufPut (BigEndian.store16 word) b).2.size = b.size + 2 :=
        hsize
      rcases wbufPut_size (s.getD []) (wbufPut (BigEndian.store16 word) b).2 with
        ⟨hzero', hsize'⟩ | ⟨hneg', hsize'⟩
      · constructor
        · omega
        · intro hne
          exact absurd hzero' hne
      · constructor
        · omega
        · intro _
          have hany : s.getD [] ≠ [] := by
            intro hnil
            rw [hnil, wbufPut_nil hdata hsound] at hneg'
            omega
          have hpos := List.length_pos_iff.mpr hany
          omega
    · have hthen : ((vtremoteWbufPutU16 word).orReturn
          (vtremoteWbufPutBytes (s.getD []) (s.getD []).length) b) =
          wbufPut (BigEndian.store16 word) b := by
        unfold vtremoteWbufPutU16
        simp only [WbufPut.orReturn, if_pos hneg]
      rw [hthen, hsize]
      constructor
      · exact Nat.le_add_right _ _
      · intro _
        omega

end VTRemote
