import VTRemote.Library.CheckedAccess
import VTRemote.Library.Format
import VTRemote.Proto.Error

/-!
# Payload buffers of the client

The growable write buffer `VTRemoteWBuf` and the bounds-checked read buffer
`VTRemoteRBuf` of `vtremote_proto.c`.

A write buffer carries the answers its allocator will give, one for each
request it makes; requests beyond the list are granted.
-/

namespace VTRemote

abbrev Bytes := List UInt8

/-!
## The write buffer
-/

def maxAllocSize : Nat := 2147483647

def uintMax : Nat := 4294967295

/-- `data` is the allocated block, `none` for a NULL pointer. -/
structure VTRemoteWBuf where
  data : Option Bytes
  size : Nat
  grants : List Bool
  data_le : (data.getD []).length ≤ maxAllocSize
deriving DecidableEq, Repr

namespace VTRemoteWBuf

/-- The C field of this name is the length of the block: every function that
changes one of them changes the other along with it. -/
def capacity (b : VTRemoteWBuf) : Nat := (b.data.getD []).length

/-- The caller overwrites its only pointer with the result of a failed call. -/
def lost (b : VTRemoteWBuf) (grants : List Bool) : VTRemoteWBuf :=
  { data := none, size := b.size, grants := grants, data_le := Nat.zero_le _ }

/-- `av_realloc`, for sizes that the allocator accepts. -/
def avRealloc (b : VTRemoteWBuf) (size : Nat) (h : size ≤ maxAllocSize) :
    VTRemoteWBuf :=
  match b.grants with
  | false :: grants => b.lost grants
  | grants =>
      -- the new tail of the block is indeterminate; zeros stand for it
      { data := some (((b.data.getD []) ++ List.replicate size 0).take size)
        size := b.size
        grants := grants.tail
        data_le := by
          rw [Option.getD_some, List.length_take]
          exact Nat.le_trans (Nat.min_le_left _ _) h }

def avFastRealloc (b : VTRemoteWBuf) (minSize : Nat) : VTRemoteWBuf :=
  if minSize ≤ b.capacity then b
  else if min maxAllocSize uintMax < minSize then b.lost b.grants
  else
    b.avRealloc (min (min maxAllocSize uintMax)
      (max (minSize + minSize / 16 + 32) minSize))
      (Nat.le_trans (Nat.min_le_left _ _) (Nat.min_le_left _ _))

def wbufReserve (b : VTRemoteWBuf) (add : Nat) : Int × VTRemoteWBuf :=
  let b := b.avFastRealloc (b.size + add)
  if b.data = none then ((averror enomem).code, b) else (0, b)

/-- A block after a copy of `bytes` to position `pos`. -/
def overwrite (block : Bytes) (pos : Nat) (bytes : Bytes) : Bytes :=
  (block.take pos ++ bytes ++ block.drop (pos + bytes.length)).take block.length

def store (b : VTRemoteWBuf) (bytes : Bytes) : VTRemoteWBuf :=
  { data := b.data.map fun block => overwrite block b.size bytes
    size := b.size + bytes.length
    grants := b.grants
    data_le := by
      have h := b.data_le
      cases hd : b.data with
      | none => exact Nat.zero_le _
      | some block =>
          rw [hd, Option.getD_some] at h
          rw [Option.map_some, Option.getD_some, overwrite, List.length_take]
          exact Nat.le_trans (Nat.min_le_left _ _) h }

def contents (b : VTRemoteWBuf) : Bytes := (b.data.getD []).take b.size

def Sound (b : VTRemoteWBuf) : Prop := b.size ≤ b.capacity

end VTRemoteWBuf

def vtremoteWbufInit (grants : List Bool) : VTRemoteWBuf :=
  { data := none, size := 0, grants := grants, data_le := Nat.zero_le _ }

def vtremoteWbufReset (b : VTRemoteWBuf) : VTRemoteWBuf := { b with size := 0 }

abbrev WbufPut := VTRemoteWBuf -> Int × VTRemoteWBuf

/-- Reserve room for `bytes` and copy them there. -/
def wbufPut (bytes : Bytes) : WbufPut := fun b =>
  let (ret, b) := b.wbufReserve bytes.length
  if ret < 0 then (ret, b) else (0, b.store bytes)

def vtremoteWbufPutU8 (v : UInt8) : WbufPut := wbufPut [v]

def vtremoteWbufPutU16 (v : UInt16) : WbufPut := wbufPut (BigEndian.store16 v)

def vtremoteWbufPutU32 (v : UInt32) : WbufPut := wbufPut (BigEndian.store32 v)

def vtremoteWbufPutU64 (v : UInt64) : WbufPut := wbufPut (BigEndian.store64 v)

def vtremoteWbufPutBytes (src : Bytes) (len : Int) : WbufPut := fun b =>
  if len < 0 then ((averror einval).code, b)
  else wbufPut (src.take len.toNat) b

/-- A C string is its bytes before the terminator; NULL counts as empty. -/
def vtremoteWbufPutStr (s : Option Bytes) : WbufPut := fun b =>
  let s := s.getD []
  if 65535 < s.length then ((averror einval).code, b)
  else
    let (ret, b) := vtremoteWbufPutU16 (UInt16.ofNat s.length) b
    if ret < 0 then (ret, b) else vtremoteWbufPutBytes s s.length b

/-- `ret |= first; ret |= second`. -/
def WbufPut.orThen (first second : WbufPut) : WbufPut := fun b =>
  let (ret, b) := first b
  let (ret', b) := second b
  (Int.lor ret ret', b)

/-- `ret |= first; if (ret < 0) return ret; ret |= second`. -/
def WbufPut.orReturn (first second : WbufPut) : WbufPut := fun b =>
  let (ret, b) := first b
  if ret < 0 then (ret, b)
  else
    let (ret', b) := second b
    (Int.lor ret ret', b)

def WbufPut.done : WbufPut := fun b => (0, b)

/-!
## What a successful write leaves
-/

/-- A put that never returns a positive code and that, when it returns zero
on a sound buffer, appends exactly `bytes`. -/
structure Appends (put : WbufPut) (bytes : Bytes) : Prop where
  nonpos : forall b, (put b).1 ≤ 0
  sound : forall b, b.Sound -> (put b).1 = 0 -> (put b).2.Sound
  contents : forall b, b.Sound -> (put b).1 = 0 ->
    (put b).2.contents = b.contents ++ bytes

namespace VTRemoteWBuf

theorem sound_reset (b : VTRemoteWBuf) : (vtremoteWbufReset b).Sound :=
  Nat.zero_le _

@[simp] theorem contents_reset (b : VTRemoteWBuf) :
    (vtremoteWbufReset b).contents = [] := by
  simp [contents, vtremoteWbufReset]

theorem avRealloc_spec {b : VTRemoteWBuf} (hs : b.Sound) {n : Nat}
    (h : n ≤ maxAllocSize) (hroom : b.size ≤ n) :
    (b.avRealloc n h).size = b.size ∧
      ((b.avRealloc n h).data = none ∨
        ((b.avRealloc n h).capacity = n ∧
          (b.avRealloc n h).contents = b.contents)) := by
  have hblock : b.size ≤ (b.data.getD []).length := hs
  unfold avRealloc
  split
  · exact ⟨rfl, Or.inl rfl⟩
  · refine ⟨rfl, Or.inr ⟨?_, ?_⟩⟩
    · simp [capacity]
    · simp only [contents, Option.getD_some]
      rw [List.take_take, Nat.min_eq_left hroom,
        List.take_append_of_le_length hblock]

theorem avFastRealloc_spec {b : VTRemoteWBuf} (hs : b.Sound) (add : Nat) :
    (b.avFastRealloc (b.size + add)).size = b.size ∧
      ((b.avFastRealloc (b.size + add)).data = none ∨
        (b.size + add ≤ (b.avFastRealloc (b.size + add)).capacity ∧
          (b.avFastRealloc (b.size + add)).contents = b.contents)) := by
  unfold avFastRealloc
  split
  · rename_i hle
    exact ⟨rfl, Or.inr ⟨hle, rfl⟩⟩
  · split
    · exact ⟨rfl, Or.inl rfl⟩
    · rename_i hmax
      have hroom : b.size + add ≤ min (min maxAllocSize uintMax)
          (max (b.size + add + (b.size + add) / 16 + 32) (b.size + add)) := by
        omega
      rcases avRealloc_spec hs (Nat.le_trans (Nat.min_le_left _ _)
        (Nat.min_le_left _ _)) (Nat.le_trans (Nat.le_add_right _ _) hroom)
        with ⟨hsize, hnone | ⟨hcap, hcont⟩⟩
      · exact ⟨hsize, Or.inl hnone⟩
      · refine ⟨hsize, Or.inr ⟨?_, hcont⟩⟩
        rw [hcap]
        exact hroom

theorem store_spec {b : VTRemoteWBuf} {block : Bytes} {bytes : Bytes}
    (hdata : b.data = some block) (hroom : b.size + bytes.length ≤ b.capacity) :
    (b.store bytes).Sound ∧
      (b.store bytes).contents = b.contents ++ bytes := by
  have hlen : b.size + bytes.length ≤ block.length := by
    simpa [capacity, hdata] using hroom
  have hfront : (block.take b.size ++ bytes).length =
      b.size + bytes.length := by
    simp
    omega
  have hwhole : overwrite block b.size bytes =
      block.take b.size ++ bytes ++ block.drop (b.size + bytes.length) := by
    apply List.take_of_length_le
    rw [List.length_append, hfront, List.length_drop]
    omega
  simp only [Sound, capacity, contents, store, hdata, Option.map_some,
    Option.getD_some, hwhole]
  constructor
  · rw [List.length_append, hfront]
    omega
  · rw [<- hfront, List.take_left]

theorem contents_length_le (b : VTRemoteWBuf) :
    b.contents.length ≤ maxAllocSize := by
  unfold contents
  rw [List.length_take]
  exact Nat.le_trans (Nat.min_le_right _ _) b.data_le

end VTRemoteWBuf

/-- The two ways a put can end: without a block, or with room and a copy. -/
theorem wbufPut_cases (bytes : Bytes) (b : VTRemoteWBuf) :
    ((b.avFastRealloc (b.size + bytes.length)).data = none ∧
        (wbufPut bytes b).1 = (averror enomem).code) ∨
      (exists block,
        (b.avFastRealloc (b.size + bytes.length)).data = some block ∧
          wbufPut bytes b =
            (0, (b.avFastRealloc (b.size + bytes.length)).store bytes)) := by
  unfold wbufPut VTRemoteWBuf.wbufReserve
  cases hd : (b.avFastRealloc (b.size + bytes.length)).data with
  | none =>
      left
      simp [hd, (averror enomem).neg]
  | some block =>
      right
      exact ⟨block, rfl, by simp [hd]⟩

theorem wbufPut_appends (bytes : Bytes) : Appends (wbufPut bytes) bytes := by
  have hneg := (averror enomem).neg
  have hgood : forall b, b.Sound -> (wbufPut bytes b).1 = 0 ->
      (wbufPut bytes b).2.Sound ∧
        (wbufPut bytes b).2.contents = b.contents ++ bytes := by
    intro b hs h0
    rcases VTRemoteWBuf.avFastRealloc_spec hs bytes.length with ⟨hsize, hroom⟩
    rcases wbufPut_cases bytes b with ⟨_, hret⟩ | ⟨block, hdata, hput⟩
    · omega
    · rcases hroom with hnone | ⟨hroom, hcont⟩
      · rw [hdata] at hnone
        cases hnone
      · rw [hput, <- hcont]
        apply VTRemoteWBuf.store_spec hdata
        rw [hsize]
        exact hroom
  constructor
  · intro b
    rcases wbufPut_cases bytes b with ⟨_, hret⟩ | ⟨block, _, hput⟩
    · rw [hret]
      exact Int.le_of_lt hneg
    · rw [hput]
  · intro b hs h0
    exact (hgood b hs h0).1
  · intro b hs h0
    exact (hgood b hs h0).2

namespace Appends

theorem done : Appends WbufPut.done [] where
  nonpos _ := Int.le_refl 0
  sound _ hs _ := hs
  contents b _ _ := (List.append_nil b.contents).symm

/-- A put that on each buffer fails or does what an appending put does. -/
theorem of_cases {put : WbufPut} {bytes : Bytes}
    (h : forall b, (put b).1 < 0 ∨
      exists put', Appends put' bytes ∧ put b = put' b) :
    Appends put bytes := by
  constructor
  · intro b
    rcases h b with hneg | ⟨put', hput, heq⟩
    · exact Int.le_of_lt hneg
    · rw [heq]
      exact hput.nonpos b
  · intro b hb h0
    rcases h b with hneg | ⟨put', hput, heq⟩
    · omega
    · rw [heq] at h0 ⊢
      exact hput.sound b hb h0
  · intro b hb h0
    rcases h b with hneg | ⟨put', hput, heq⟩
    · omega
    · rw [heq] at h0 ⊢
      exact hput.contents b hb h0

theorem putBytes (src : Bytes) (len : Int) :
    Appends (vtremoteWbufPutBytes src len) (src.take len.toNat) := by
  apply of_cases
  intro b
  unfold vtremoteWbufPutBytes
  by_cases hlen : len < 0
  · left
    rw [if_pos hlen]
    exact (averror einval).neg
  · right
    exact ⟨_, wbufPut_appends _, if_neg hlen⟩

theorem zero_of_orThen {first second : WbufPut} {x y : Bytes}
    (hf : Appends first x) (hs : Appends second y) {b : VTRemoteWBuf}
    (h : (first.orThen second b).1 = 0) :
    (first b).1 = 0 ∧ (second (first b).2).1 = 0 :=
  (lor_eq_zero (hf.nonpos b) (hs.nonpos _)).mp h

theorem orThen {first second : WbufPut} {x y : Bytes}
    (hf : Appends first x) (hs : Appends second y) :
    Appends (first.orThen second) (x ++ y) := by
  constructor
  · intro b
    exact lor_nonpos (hf.nonpos b) (hs.nonpos _)
  · intro b hb h0
    rcases hf.zero_of_orThen hs h0 with ⟨h1, h2⟩
    exact hs.sound _ (hf.sound b hb h1) h2
  · intro b hb h0
    rcases hf.zero_of_orThen hs h0 with ⟨h1, h2⟩
    show (second (first b).2).2.contents = _
    rw [hs.contents _ (hf.sound b hb h1) h2, hf.contents b hb h1,
      List.append_assoc]

theorem orReturn {first second : WbufPut} {x y : Bytes}
    (hf : Appends first x) (hs : Appends second y) :
    Appends (first.orReturn second) (x ++ y) := by
  apply of_cases
  intro b
  unfold WbufPut.orReturn
  by_cases hneg : (first b).1 < 0
  · left
    simpa only [if_pos hneg] using hneg
  · right
    refine ⟨_, hf.orThen hs, ?_⟩
    simp only [if_neg hneg]
    rfl

theorem zero_of_orReturn {first second : WbufPut} {x y : Bytes}
    (hf : Appends first x) (hs : Appends second y) {b : VTRemoteWBuf}
    (h : (first.orReturn second b).1 = 0) :
    (first b).1 = 0 ∧ (second (first b).2).1 = 0 := by
  unfold WbufPut.orReturn at h
  by_cases hneg : (first b).1 < 0
  · simp only [if_pos hneg] at h
    omega
  · simp only [if_neg hneg] at h
    exact hf.zero_of_orThen hs h

/-- A put made on a buffer that was just reset leaves exactly its bytes. -/
theorem contents_of_reset {put : WbufPut} {bytes : Bytes}
    (h : Appends put bytes) {b : VTRemoteWBuf}
    (h0 : (put (vtremoteWbufReset b)).1 = 0) :
    (put (vtremoteWbufReset b)).2.Sound ∧
      (put (vtremoteWbufReset b)).2.contents = bytes := by
  have hs := VTRemoteWBuf.sound_reset b
  constructor
  · exact h.sound _ hs h0
  · rw [h.contents _ hs h0, VTRemoteWBuf.contents_reset, List.nil_append]

end Appends

theorem vtremoteWbufPutU8_appends (v : UInt8) :
    Appends (vtremoteWbufPutU8 v) [v] :=
  wbufPut_appends _

theorem vtremoteWbufPutU16_appends (v : UInt16) :
    Appends (vtremoteWbufPutU16 v) (BigEndian.store16 v) :=
  wbufPut_appends _

theorem vtremoteWbufPutU32_appends (v : UInt32) :
    Appends (vtremoteWbufPutU32 v) (BigEndian.store32 v) :=
  wbufPut_appends _

theorem vtremoteWbufPutU64_appends (v : UInt64) :
    Appends (vtremoteWbufPutU64 v) (BigEndian.store64 v) :=
  wbufPut_appends _

theorem vtremoteWbufPutStr_of_le {s : Option Bytes}
    (h : (s.getD []).length ≤ 65535) (b : VTRemoteWBuf) :
    vtremoteWbufPutStr s b =
      (vtremoteWbufPutU16 (UInt16.ofNat (s.getD []).length)).orReturn
        (vtremoteWbufPutBytes (s.getD []) (s.getD []).length) b := by
  have hle := (vtremoteWbufPutU16_appends
    (UInt16.ofNat (s.getD []).length)).nonpos b
  simp only [vtremoteWbufPutStr, if_neg (Nat.not_lt.mpr h), WbufPut.orReturn]
  by_cases hneg : (vtremoteWbufPutU16 (UInt16.ofNat (s.getD []).length) b).1 < 0
  · rw [if_pos hneg, if_pos hneg]
  · have hzero :
        (vtremoteWbufPutU16 (UInt16.ofNat (s.getD []).length) b).1 = 0 := by
      omega
    rw [if_neg hneg, if_neg hneg, hzero, zero_lor]

theorem vtremoteWbufPutBytes_length (src : Bytes) (b : VTRemoteWBuf) :
    vtremoteWbufPutBytes src src.length b = wbufPut src b := by
  unfold vtremoteWbufPutBytes
  rw [if_neg (Int.not_lt.mpr (Int.natCast_nonneg _)), Int.toNat_natCast,
    List.take_length]

theorem vtremoteWbufPutStr_appends (s : Option Bytes) :
    Appends (vtremoteWbufPutStr s)
      (BigEndian.store16 (UInt16.ofNat (s.getD []).length) ++ s.getD []) := by
  apply Appends.of_cases
  intro b
  by_cases hlen : 65535 < (s.getD []).length
  · left
    simp only [vtremoteWbufPutStr, if_pos hlen]
    exact (averror einval).neg
  · have hword := vtremoteWbufPutU16_appends (UInt16.ofNat (s.getD []).length)
    have hbytes := Appends.putBytes (s.getD []) (s.getD []).length
    rw [Int.toNat_natCast, List.take_length] at hbytes
    right
    exact ⟨_, hword.orReturn hbytes,
      vtremoteWbufPutStr_of_le (Nat.le_of_not_lt hlen) b⟩

theorem vtremoteWbufPutStr_length {s : Option Bytes} {b : VTRemoteWBuf}
    (h : (vtremoteWbufPutStr s b).1 = 0) : (s.getD []).length < 65536 := by
  by_cases hlen : 65535 < (s.getD []).length
  · have hneg := (averror einval).neg
    simp only [vtremoteWbufPutStr, if_pos hlen] at h
    omega
  · omega

/-!
## Writes that succeed
-/

structure VTRemoteWBuf.Granted (b : VTRemoteWBuf) : Prop where
  sound : b.Sound
  grants : b.grants = []

/-- A put that succeeds on a granted buffer with room for its `n` bytes. -/
def Succeeds (put : WbufPut) (n : Nat) : Prop :=
  forall b, b.Granted -> 0 < b.size + n -> b.size + n ≤ maxAllocSize ->
    (put b).1 = 0 ∧ (put b).2.Granted ∧ (put b).2.size = b.size + n

theorem VTRemoteWBuf.Granted.avFastRealloc {b : VTRemoteWBuf} (h : b.Granted)
    {minSize : Nat} (hpos : 0 < minSize) (hmax : minSize ≤ maxAllocSize) :
    (b.avFastRealloc minSize).data.isSome = true ∧
      (b.avFastRealloc minSize).grants = [] := by
  unfold VTRemoteWBuf.avFastRealloc
  by_cases hcap : minSize ≤ b.capacity
  · rw [if_pos hcap]
    refine ⟨?_, h.grants⟩
    cases hdata : b.data with
    | some block => rfl
    | none =>
        unfold VTRemoteWBuf.capacity at hcap
        rw [hdata] at hcap
        exact absurd (Nat.lt_of_lt_of_le hpos hcap) (Nat.lt_irrefl 0)
  · have hfits : ¬ min maxAllocSize uintMax < minSize := by
      unfold maxAllocSize uintMax
      unfold maxAllocSize at hmax
      omega
    rw [if_neg hcap, if_neg hfits]
    unfold VTRemoteWBuf.avRealloc
    rw [h.grants]
    exact ⟨rfl, rfl⟩

theorem wbufPut_succeeds (bytes : Bytes) :
    Succeeds (wbufPut bytes) bytes.length := by
  intro b hb hpos hmax
  rcases hb.avFastRealloc hpos hmax with ⟨hsome, hgrants⟩
  rcases VTRemoteWBuf.avFastRealloc_spec hb.sound bytes.length with
    ⟨hsize, hroom⟩
  rcases wbufPut_cases bytes b with ⟨hnone, _⟩ | ⟨block, hdata, hput⟩
  · rw [hnone] at hsome
    cases hsome
  · rcases hroom with hnone | ⟨hroom, _⟩
    · rw [hdata] at hnone
      cases hnone
    · rw [hput]
      refine ⟨rfl, ⟨(VTRemoteWBuf.store_spec hdata ?_).1, hgrants⟩, ?_⟩
      · rw [hsize]
        exact hroom
      · show (b.avFastRealloc (b.size + bytes.length)).size + bytes.length = _
        rw [hsize]

theorem vtremoteWbufPutU8_succeeds (v : UInt8) :
    Succeeds (vtremoteWbufPutU8 v) 1 :=
  wbufPut_succeeds [v]

theorem vtremoteWbufPutU32_succeeds (v : UInt32) :
    Succeeds (vtremoteWbufPutU32 v) 4 :=
  wbufPut_succeeds (BigEndian.store32 v)

theorem vtremoteWbufPutU64_succeeds (v : UInt64) :
    Succeeds (vtremoteWbufPutU64 v) 8 :=
  wbufPut_succeeds (BigEndian.store64 v)

namespace Succeeds

theorem done : Succeeds WbufPut.done 0 :=
  fun _ hb _ _ => ⟨rfl, hb, rfl⟩

theorem orThen {first second : WbufPut} {m n : Nat} (hm : 0 < m)
    (hf : Succeeds first m) (hs : Succeeds second n) :
    Succeeds (first.orThen second) (m + n) := by
  intro b hb hpos hmax
  rcases hf b hb (by omega) (by omega) with ⟨hret, hgranted, hsize⟩
  rcases hs _ hgranted (by omega) (by omega) with ⟨hret', hgranted', hsize'⟩
  refine ⟨?_, hgranted', ?_⟩
  · show Int.lor (first b).1 (second (first b).2).1 = 0
    rw [hret, hret']
    rfl
  · show (second (first b).2).2.size = _
    rw [hsize', hsize, Nat.add_assoc]

theorem orReturn {first second : WbufPut} {m n : Nat} (hm : 0 < m)
    (hf : Succeeds first m) (hs : Succeeds second n) :
    Succeeds (first.orReturn second) (m + n) := by
  intro b hb hpos hmax
  have hret := (hf b hb (by omega) (by omega)).1
  have heq : first.orReturn second b = first.orThen second b := by
    unfold WbufPut.orReturn
    simp only [hret, if_neg (Int.lt_irrefl 0)]
    unfold WbufPut.orThen
    simp only [hret]
  rw [heq]
  exact orThen hm hf hs b hb hpos hmax

end Succeeds

/-!
## The read buffer
-/

structure VTRemoteRBuf where
  data : Bytes
  size : Int
  pos : Int
deriving DecidableEq, Repr

def vtremoteRbufInit (data : Bytes) (size : Int) : VTRemoteRBuf :=
  { data := data, size := size, pos := 0 }

/-- A read moves the position, fails with a result code, or reads outside of the
data. -/
abbrev RbufRead (α : Type) := StateT VTRemoteRBuf (Except (AccessError AvError)) α

/-- The code that a caller acts on.  There is none after a read outside of the
data; `EFAULT` stands for what happens then. -/
def AccessError.code : AccessError AvError -> AvError
  | .returned e => e
  | .outOfRange => averror efault

namespace VTRemoteRBuf

def byte (r : VTRemoteRBuf) (i : Nat) : UInt8 :=
  r.data.getD (r.pos.toNat + i) 0

def ahead (r : VTRemoteRBuf) : Bytes := r.data.drop r.pos.toNat

def advance (r : VTRemoteRBuf) (n : Int) : VTRemoteRBuf :=
  { r with pos := r.pos + n }

structure WellFormed (r : VTRemoteRBuf) : Prop where
  size_eq : r.size = r.data.length
  size_le : r.size ≤ intMax
  pos_nonneg : 0 ≤ r.pos
  pos_le : r.pos ≤ r.size

end VTRemoteRBuf

/-- `r->pos + n` is an `int` sum. -/
def rbufNeed (n : Int) : RbufRead Unit := fun r =>
  if n < 0 then .error (.returned (averror einval))
  else if r.size < cInt (r.pos + n) then .error (.returned (averror einval))
  else .ok ((), r)

/-- Check for `n` bytes, take the value they hold and move past them. -/
def rbufTake {α : Type} (n : Nat) (value : VTRemoteRBuf -> α) : RbufRead α := do
  rbufNeed n
  fun r =>
    if 0 ≤ r.pos ∧ r.pos + n ≤ r.data.length then .ok (value r, r.advance n)
    else .error .outOfRange

def vtremoteRbufReadU8 : RbufRead UInt8 := rbufTake 1 fun r => r.byte 0

def vtremoteRbufReadU16 : RbufRead UInt16 :=
  rbufTake 2 fun r => BigEndian.load16 (r.byte 0) (r.byte 1)

def vtremoteRbufReadU32 : RbufRead UInt32 :=
  rbufTake 4 fun r =>
    BigEndian.load32 (r.byte 0) (r.byte 1) (r.byte 2) (r.byte 3)

def vtremoteRbufReadU64 : RbufRead UInt64 :=
  rbufTake 8 fun r =>
    BigEndian.load64 (r.byte 0) (r.byte 1) (r.byte 2) (r.byte 3) (r.byte 4)
      (r.byte 5) (r.byte 6) (r.byte 7)

/-- The string's bytes stand for the pointer and length the source returns. -/
def vtremoteRbufReadStr : RbufRead Bytes := do
  let l ← vtremoteRbufReadU16
  rbufTake l.toNat fun r => r.ahead.take l.toNat

namespace VTRemoteRBuf

theorem wellFormed_init {data : Bytes} (h : (data.length : Int) ≤ intMax) :
    (vtremoteRbufInit data data.length).WellFormed where
  size_eq := rfl
  size_le := h
  pos_nonneg := Int.le_refl 0
  pos_le := Int.natCast_nonneg _

@[simp] theorem ahead_init (data : Bytes) (size : Int) :
    (vtremoteRbufInit data size).ahead = data := rfl

theorem WellFormed.ahead_length {r : VTRemoteRBuf} (h : r.WellFormed) :
    (r.ahead.length : Int) = r.size - r.pos := by
  have h1 := h.size_eq
  have h2 := h.pos_nonneg
  have h3 := h.pos_le
  simp only [ahead, List.length_drop]
  omega

theorem byte_of_ahead {r : VTRemoteRBuf} {bytes rest : Bytes}
    (h : r.ahead = bytes ++ rest) {i : Nat} (hi : i < bytes.length) :
    r.byte i = bytes[i] := by
  have hget : (r.data.drop r.pos.toNat)[i]? = some bytes[i] := by
    show r.ahead[i]? = _
    rw [h, List.getElem?_append_left hi, List.getElem?_eq_getElem hi]
  rw [List.getElem?_drop] at hget
  simp [byte, List.getD_eq_getElem?_getD, hget]

theorem WellFormed.advance {r : VTRemoteRBuf} (h : r.WellFormed)
    {bytes rest : Bytes} (hahead : r.ahead = bytes ++ rest) :
    (r.advance bytes.length).WellFormed ∧
      (r.advance bytes.length).ahead = rest := by
  have hlen := h.ahead_length
  have hpos := h.pos_nonneg
  rw [hahead, List.length_append] at hlen
  push_cast at hlen
  constructor
  · constructor
    · exact h.size_eq
    · exact h.size_le
    · show 0 ≤ r.pos + bytes.length
      omega
    · show r.pos + bytes.length ≤ r.size
      omega
  · have htoNat : (r.pos + bytes.length).toNat =
        r.pos.toNat + bytes.length := by
      omega
    show r.data.drop (r.pos + bytes.length).toNat = rest
    rw [htoNat, <- List.drop_drop]
    show r.ahead.drop bytes.length = rest
    rw [hahead, List.drop_left]

end VTRemoteRBuf

theorem rbufTake_of_ahead {α : Type} {r : VTRemoteRBuf} (h : r.WellFormed)
    {bytes rest : Bytes} (hahead : r.ahead = bytes ++ rest)
    (value : VTRemoteRBuf -> α) :
    rbufTake bytes.length value r =
      .ok (value r, r.advance bytes.length) := by
  have hlen := h.ahead_length
  have hpos := h.pos_nonneg
  have hmax := h.size_le
  rw [hahead, List.length_append] at hlen
  push_cast at hlen
  have hneed : rbufNeed bytes.length r = .ok ((), r) := by
    have hsum : cInt (r.pos + bytes.length) = r.pos + bytes.length := by
      apply cInt_eq
      · omega
      · omega
    unfold rbufNeed
    rw [if_neg (by omega), if_neg (by rw [hsum]; omega)]
  have hsize := h.size_eq
  unfold rbufTake
  rw [bind_of_ok hneed, if_pos (by omega)]

abbrev RbufFollows {α : Type} (read : RbufRead α) (d : Decoder α) : Prop :=
  Follows VTRemoteRBuf.WellFormed VTRemoteRBuf.ahead read d

theorem RbufFollows.read_encode {α : Type} {read : RbufRead α}
    {f : Format α} (h : RbufFollows read f.decode) {r : VTRemoteRBuf}
    (hr : r.WellFormed) {a : α} {rest : Bytes}
    (hahead : r.ahead = f.encode a ++ rest) :
    exists r', read r = .ok (a, r') ∧ r'.WellFormed ∧ r'.ahead = rest := by
  apply h r a rest hr
  rw [hahead]
  exact f.decode_encode a rest

theorem rbufTake_follows {α : Type} (f : Format α) {n : Nat}
    {value : VTRemoteRBuf -> α}
    (hlen : forall a, (f.encode a).length = n)
    (hvalue : forall r a rest, r.ahead = f.encode a ++ rest -> value r = a) :
    RbufFollows (rbufTake n value) f.decode := by
  intro r a rest hok hd
  have hahead := f.encode_decode _ _ _ hd
  have hread := rbufTake_of_ahead hok hahead value
  rw [hlen a, hvalue r a rest hahead] at hread
  have hadv := hok.advance hahead
  rw [hlen a] at hadv
  exact ⟨_, hread, hadv.1, hadv.2⟩

theorem vtremoteRbufReadU8_follows :
    RbufFollows vtremoteRbufReadU8 Format.u8.decode := by
  apply rbufTake_follows Format.u8
  · intro a
    rfl
  · intro r a rest h
    exact VTRemoteRBuf.byte_of_ahead h Nat.zero_lt_one

theorem vtremoteRbufReadU16_follows :
    RbufFollows vtremoteRbufReadU16 Format.u16.decode := by
  apply rbufTake_follows Format.u16
  · intro a
    rfl
  · intro r a rest h
    have hbyte := fun i hi => VTRemoteRBuf.byte_of_ahead h (i := i) hi
    rw [hbyte 0 (by simp [Format.u16]), hbyte 1 (by simp [Format.u16])]
    exact Format.load16_store16 a

theorem vtremoteRbufReadU32_follows :
    RbufFollows vtremoteRbufReadU32 Format.u32.decode := by
  apply rbufTake_follows Format.u32
  · intro a
    rfl
  · intro r a rest h
    have hbyte := fun i hi => VTRemoteRBuf.byte_of_ahead h (i := i) hi
    rw [hbyte 0 (by simp [Format.u32]), hbyte 1 (by simp [Format.u32]),
      hbyte 2 (by simp [Format.u32]), hbyte 3 (by simp [Format.u32])]
    exact Format.load32_store32 a

theorem vtremoteRbufReadU64_follows :
    RbufFollows vtremoteRbufReadU64 Format.u64.decode := by
  apply rbufTake_follows Format.u64
  · intro a
    rfl
  · intro r a rest h
    have hbyte := fun i hi => VTRemoteRBuf.byte_of_ahead h (i := i) hi
    rw [hbyte 0 (by simp [Format.u64]), hbyte 1 (by simp [Format.u64]),
      hbyte 2 (by simp [Format.u64]), hbyte 3 (by simp [Format.u64]),
      hbyte 4 (by simp [Format.u64]), hbyte 5 (by simp [Format.u64]),
      hbyte 6 (by simp [Format.u64]), hbyte 7 (by simp [Format.u64])]
    exact Format.load64_store64 a

theorem rbufTake_ahead_follows (n : Nat) :
    RbufFollows (rbufTake n fun r => r.ahead.take n) (Decoder.take n) := by
  intro r bytes rest hok hd
  rcases Decoder.take_eq_some hd with ⟨hahead, hlen⟩
  subst hlen
  have hadv := hok.advance hahead
  refine ⟨r.advance bytes.length, ?_, hadv.1, hadv.2⟩
  rw [rbufTake_of_ahead hok hahead, hahead, List.take_left]

theorem vtremoteRbufReadStr_follows :
    RbufFollows vtremoteRbufReadStr
      (Format.blobDecoder Format.count16) := by
  apply Follows.bind vtremoteRbufReadU16_follows
  intro l
  exact rbufTake_ahead_follows l.toNat

end VTRemote
