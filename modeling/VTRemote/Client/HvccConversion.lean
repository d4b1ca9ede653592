import VTRemote.Library.CheckedAccess
import VTRemote.Library.LengthPrefix
import VTRemote.Proto.Buffer

/-!
# From hvcC to start codes

`vtremote_hevc_extradata_to_annexb`, with the accesses of the record and of the
buffer that it allocates, one unit at a time.
-/

namespace VTRemote

open Accesses

/-!
## Memory
-/

def avRb16 (block : Bytes) (p : Nat) : Accesses AvError Nat := do
  let b0 ← element block p
  let b1 ← element block (p + 1)
  pure (BigEndian.load16 b0 b1).toNat

def avRb24 (block : Bytes) (p : Nat) : Accesses AvError Nat := do
  let b0 ← element block p
  let b1 ← element block (p + 1)
  let b2 ← element block (p + 2)
  pure (BigEndian.load32 0 b0 b1 b2).toNat

def avRb32 (block : Bytes) (p : Nat) : Accesses AvError Nat := do
  let b0 ← element block p
  let b1 ← element block (p + 1)
  let b2 ← element block (p + 2)
  let b3 ← element block (p + 3)
  pure (BigEndian.load32 b0 b1 b2 b3).toNat

/-- `AV_WB32(block + p, 0x00000001)`. -/
def putAnnexbCode (block : Bytes) (p : Nat) : Accesses AvError Bytes :=
  store block p (BigEndian.store32 1)

def inputBufferPaddingSize : Nat := 64

def padding : Bytes := List.replicate inputBufferPaddingSize 0

/-- The requests that the allocator grants, by their size. -/
abbrev Allocator := Nat -> Bool

def avMallocz (alloc : Allocator) (size : Nat) : Option Bytes :=
  if alloc size then some (List.replicate size 0) else none

/-- `av_reallocp`.  The new tail of the block is indeterminate; zeros stand for
it. -/
def avReallocp (alloc : Allocator) (block : Option Bytes) (size : Nat) :
    Option Bytes :=
  if alloc size then some ((block.getD [] ++ List.replicate size 0).take size)
  else none

/-!
## The conversion
-/

def minHvccLength : Nat := 23

structure HvccVars where
  p : Nat
  buf : Option Bytes
  size : Nat
deriving DecidableEq, Repr

def copyNalu (alloc : Allocator) (record : Bytes) (v : HvccVars) :
    Accesses AvError HvccVars :=
  if record.length < v.p + 2 then .error (.returned averrorInvaliddata)
  else do
    let nalLen ← avRb16 record v.p
    let p := v.p + 2
    if nalLen ≤ 0 ∨ record.length < p + nalLen then
      .error (.returned averrorInvaliddata)
    else if intMax - (nalLen + 4 + inputBufferPaddingSize : Nat) < v.size then
      .error (.returned (averror enomem))
    else
      match avReallocp alloc v.buf (v.size + nalLen + 4 + inputBufferPaddingSize) with
      | none => .error (.returned (averror enomem))
      | some buf => do
          let buf ← putAnnexbCode buf v.size
          let unit ← run record p nalLen
          let buf ← store buf (v.size + 4) unit
          let size := v.size + (4 + nalLen)
          let buf ← store buf size padding
          pure { p := p + nalLen, buf := some buf, size := size }

def copyArray (alloc : Allocator) (record : Bytes) (v : HvccVars) :
    Accesses AvError HvccVars :=
  if record.length < v.p + 3 then .error (.returned averrorInvaliddata)
  else do
    let _nalType ← element record v.p
    let numNalus ← avRb16 record (v.p + 1)
    times (copyNalu alloc record) numNalus { v with p := v.p + 3 }

def convertHvcc (alloc : Allocator) (record : Bytes) :
    Accesses AvError (Option Bytes × Nat) :=
  if record.length < minHvccLength then .error (.returned averrorInvaliddata)
  else do
    let code3 ← avRb24 record 0
    let code4 ← avRb32 record 0
    if code3 = 1 ∨ code4 = 1 then
      match avMallocz alloc (record.length + inputBufferPaddingSize) with
      | none => .error (.returned (averror enomem))
      | some buf => do
          let bytes ← run record 0 record.length
          let buf ← store buf 0 bytes
          pure (some buf, record.length)
    else if record.length < 21 + 2 then .error (.returned averrorInvaliddata)
    else do
      let numArrays ← element record 22
      let v ← times (copyArray alloc record) numArrays.toNat
        { p := 23, buf := none, size := 0 }
      pure (v.buf, v.size)

/-- The variables of the caller that `out` and `out_size` point to. -/
structure AnnexbOut where
  out : Option Bytes
  outSize : Nat
deriving DecidableEq, Repr

/-- The return value, and the variables of the caller afterwards.  There are
none where memory was accessed out of range. -/
def vtremoteHevcExtradataToAnnexb (alloc : Allocator) (record : Bytes)
    (o : AnnexbOut) : Option (Int × AnnexbOut) :=
  match convertHvcc alloc record with
  | .ok (buf, size) => some (0, { out := buf, outSize := size })
  | .error (.returned e) => some (e.code, o)
  | .error .outOfRange => none

/-!
## Accesses
-/

section Access

variable {alloc : Allocator} {block buf : Bytes} {p : Nat}

theorem avRb16_inside (h : p + 2 ≤ block.length) : Inside (avRb16 block p) :=
  (element_inside (Nat.lt_of_succ_lt h)).bind fun _ _ =>
    (element_inside h).bind fun _ _ => inside_ok _

theorem avRb24_inside (h : p + 3 ≤ block.length) : Inside (avRb24 block p) :=
  (element_inside (Nat.lt_of_succ_lt (Nat.lt_of_succ_lt h))).bind fun _ _ =>
    (element_inside (Nat.lt_of_succ_lt h)).bind fun _ _ =>
      (element_inside h).bind fun _ _ => inside_ok _

theorem avRb32_inside (h : p + 4 ≤ block.length) : Inside (avRb32 block p) := by
  have h3 : p + 3 < block.length := h
  have h2 : p + 2 < block.length := Nat.lt_of_succ_lt h3
  have h1 : p + 1 < block.length := Nat.lt_of_succ_lt h2
  exact (element_inside (Nat.lt_of_succ_lt h1)).bind fun _ _ =>
    (element_inside h1).bind fun _ _ => (element_inside h2).bind fun _ _ =>
      (element_inside h3).bind fun _ _ => inside_ok _

theorem avReallocp_length {size : Nat} {block : Option Bytes}
    (h : avReallocp alloc block size = some buf) : buf.length = size := by
  unfold avReallocp at h
  split at h
  · rw [← Option.some.inj h, List.length_take, List.length_append,
      List.length_replicate]
    exact Nat.min_eq_left (Nat.le_add_left _ _)
  · cases h

theorem avMallocz_length {size : Nat} (h : avMallocz alloc size = some buf) :
    buf.length = size := by
  unfold avMallocz at h
  split at h
  · rw [← Option.some.inj h, List.length_replicate]
  · cases h

theorem copyNalu_inside (alloc : Allocator) (record : Bytes) (v : HvccVars) :
    Inside (copyNalu alloc record v) := by
  unfold copyNalu
  split
  · exact inside_returned _
  · rename_i hlength
    refine (avRb16_inside (Nat.le_of_not_lt hlength)).bind fun nalLen _ => ?_
    dsimp only
    split
    · exact inside_returned _
    · rename_i hunit
      have hread : v.p + 2 + nalLen ≤ record.length :=
        Nat.le_of_not_lt (not_or.mp hunit).2
      split
      · exact inside_returned _
      · split
        · exact inside_returned _
        · rename_i buf hbuf
          -- the block was made as large as the writes need
          have hroom := avReallocp_length hbuf
          refine (store_inside (by
            rw [BigEndian.store32_length, hroom]; omega)).bind fun buf1 hbuf1 => ?_
          refine (run_inside hread).bind fun unit hunit => ?_
          have hlen := length_run hunit
          rw [← length_store hbuf1] at hroom
          refine (store_inside (by rw [hlen, hroom]; omega)).bind fun buf2 hbuf2 => ?_
          rw [← length_store hbuf2] at hroom
          refine (store_inside ?_).bind fun _ _ => inside_ok _
          unfold padding
          rw [List.length_replicate, hroom]
          omega

theorem copyArray_inside (alloc : Allocator) (record : Bytes) (v : HvccVars) :
    Inside (copyArray alloc record v) := by
  unfold copyArray
  split
  · exact inside_returned _
  · rename_i hlength
    have hfits : v.p + 3 ≤ record.length := Nat.le_of_not_lt hlength
    exact (element_inside (Nat.lt_of_succ_lt (Nat.lt_of_succ_lt hfits))).bind
      fun _ _ => (avRb16_inside (by omega)).bind
        fun _ _ => times_inside (copyNalu_inside alloc record) _ _

theorem convertHvcc_inside (alloc : Allocator) (record : Bytes) :
    Inside (convertHvcc alloc record) := by
  unfold convertHvcc
  split
  · exact inside_returned _
  · rename_i hlength
    have hheader : 23 ≤ record.length := Nat.le_of_not_lt hlength
    refine (avRb24_inside (by omega)).bind fun code3 _ => ?_
    refine (avRb32_inside (by omega)).bind fun code4 _ => ?_
    split
    · split
      · exact inside_returned _
      · rename_i buf hbuf
        refine (run_inside (by omega)).bind fun bytes hbytes => ?_
        refine (store_inside ?_).bind fun _ _ => inside_ok _
        rw [length_run hbytes, avMallocz_length hbuf]
        omega
    · split
      · exact inside_returned _
      · exact (element_inside (by omega)).bind fun numArrays _ =>
          (times_inside (copyArray_inside alloc record) _ _).bind
            fun _ _ => inside_ok _

end Access

/-!
## Records
-/

structure HvccArray where
  nalType : UInt8
  units : List Bytes
  nonempty : forall unit, unit ∈ units -> unit ≠ []
  fits : Fitting 2 units
  count : units.length < 65536

def HvccArray.bytes (array : HvccArray) : Bytes :=
  array.nalType :: (BigEndian.digits 2 array.units.length ++ prefixAll 2 array.units)

structure HvccRecord where
  header : Bytes
  header_length : header.length = 22
  version : header.head? = some 1
  arrays : List HvccArray
  count : arrays.length < 256

def HvccRecord.bytes (record : HvccRecord) : Bytes :=
  record.header ++ (UInt8.ofNat record.arrays.length ::
    record.arrays.flatMap HvccArray.bytes)

def HvccRecord.units (record : HvccRecord) : List Bytes :=
  record.arrays.flatMap HvccArray.units

def annexbCode : Bytes := BigEndian.store32 1

/-- The variables at position `p` behind the units `units`. -/
def HvccVars.behind (p : Nat) (units : List Bytes) : HvccVars where
  p := p
  buf := if units = [] then none else some (markAll annexbCode units ++ padding)
  size := (markAll annexbCode units).length

@[simp] theorem HvccVars.behind_p (p : Nat) (units : List Bytes) :
    (HvccVars.behind p units).p = p := rfl

@[simp] theorem HvccVars.behind_size (p : Nat) (units : List Bytes) :
    (HvccVars.behind p units).size = (markAll annexbCode units).length := rfl

/-!
## One unit
-/

section Unit

variable {alloc : Allocator} {front unit : Bytes} {units : List Bytes}

theorem avRb16_behind (front rest : Bytes) {n : Nat} (h : n < 65536) :
    avRb16 (front ++ (BigEndian.digits 2 n ++ rest)) front.length = .ok n := by
  have hvalue : BigEndian.value (BigEndian.digits 2 n) = n := BigEndian.value_digits h
  have h0 := element_behind (ε := AvError) front (BigEndian.digits 2 n ++ rest)
    (UInt8.ofNat (n / 256 ^ 1)) 0 rfl
  have h1 := element_behind (ε := AvError) front (BigEndian.digits 2 n ++ rest)
    (UInt8.ofNat (n / 256 ^ 0)) 1 rfl
  rw [Nat.add_zero] at h0
  unfold avRb16
  rw [h0, ok_bind, h1, ok_bind, BigEndian.load16_toNat]
  exact congrArg Except.ok hvalue

theorem avReallocp_behind (halloc : forall size, alloc size = true) (p len : Nat)
    (units : List Bytes) :
    exists room, room.length = len ∧
      avReallocp alloc (HvccVars.behind p units).buf
        ((markAll annexbCode units).length + len) =
          some (markAll annexbCode units ++ room) := by
  have hold : exists old, ((HvccVars.behind p units).buf).getD [] =
      markAll annexbCode units ++ old := by
    unfold HvccVars.behind
    dsimp only
    split
    · rename_i hunits
      rw [hunits]
      exact ⟨[], rfl⟩
    · exact ⟨padding, rfl⟩
  rcases hold with ⟨old, hold⟩
  refine ⟨(old ++ List.replicate ((markAll annexbCode units).length + len) 0).take len,
    ?_, ?_⟩
  · rw [List.length_take, List.length_append, List.length_replicate]
    omega
  · unfold avReallocp
    rw [if_pos (halloc _), hold, List.append_assoc, List.take_length_add_append]

theorem markAll_snoc (units : List Bytes) (unit : Bytes) :
    markAll annexbCode (units ++ [unit]) =
      (markAll annexbCode units ++ annexbCode) ++ unit := by
  rw [markAll_append, markAll_cons]
  show markAll annexbCode units ++ (annexbCode ++ (unit ++ [])) = _
  rw [List.append_nil, List.append_assoc]

theorem length_markAll_snoc (units : List Bytes) (unit : Bytes) :
    (markAll annexbCode (units ++ [unit])).length =
      (markAll annexbCode units).length + (4 + unit.length) := by
  rw [markAll_snoc, List.length_append, List.length_append, Nat.add_assoc]
  rfl

theorem stores_behind {room : Bytes} (units : List Bytes)
    (hroom : room.length = unit.length + 4 + inputBufferPaddingSize) :
    exists buf1 buf2,
      putAnnexbCode (markAll annexbCode units ++ room)
        (markAll annexbCode units).length = .ok buf1 ∧
      store buf1 ((markAll annexbCode units).length + 4) unit =
        (.ok buf2 : Accesses AvError Bytes) ∧
      store buf2 (markAll annexbCode (units ++ [unit])).length padding =
        (.ok (markAll annexbCode (units ++ [unit]) ++ padding) :
          Accesses AvError Bytes) := by
  have hcode : annexbCode.length = 4 := rfl
  have hpadding : padding.length = inputBufferPaddingSize := List.length_replicate
  have hput := store_append (ε := AvError) (markAll annexbCode units) annexbCode
    room (by rw [hcode, hroom]; omega)
  have hbehind : (markAll annexbCode units ++ annexbCode).length =
      (markAll annexbCode units).length + 4 := List.length_append
  have hunit := store_append (ε := AvError) (markAll annexbCode units ++ annexbCode)
    unit (room.drop 4) (by rw [List.length_drop, hroom]; omega)
  have hzeros := store_append (ε := AvError) (markAll annexbCode (units ++ [unit]))
    padding ((room.drop 4).drop unit.length)
    (by rw [List.length_drop, List.length_drop, hroom, hpadding]; omega)
  have hnone : ((room.drop 4).drop unit.length).drop padding.length = [] := by
    apply List.drop_eq_nil_of_le
    rw [List.length_drop, List.length_drop, hroom, hpadding]
    omega
  rw [hbehind] at hunit
  rw [← List.append_assoc _ unit, ← markAll_snoc units unit] at hunit
  rw [hnone, List.append_nil] at hzeros
  rw [hcode, ← List.append_assoc] at hput
  exact ⟨_, _, hput, hunit, hzeros⟩

theorem copyNalu_unit (rest : Bytes) (halloc : forall size, alloc size = true)
    (hne : unit ≠ []) (hfits : unit.length < 65536)
    (hsize : (markAll annexbCode units).length ≤ 2 * front.length)
    (hfront : front.length ≤ 65535) :
    copyNalu alloc (front ++ ((BigEndian.digits 2 unit.length ++ unit) ++ rest))
        (.behind front.length units) =
      .ok (.behind (front.length + (2 + unit.length)) (units ++ [unit])) := by
  generalize hrecord : front ++ ((BigEndian.digits 2 unit.length ++ unit) ++ rest) =
    record
  have hpos : 0 < unit.length := List.length_pos_iff.mpr hne
  have hlength : record.length = front.length + 2 + unit.length + rest.length := by
    rw [← hrecord, List.length_append, List.length_append, List.length_append,
      BigEndian.digits_length]
    omega
  have hread := avRb16_behind front (unit ++ rest) hfits
  rw [← List.append_assoc (BigEndian.digits 2 unit.length), hrecord] at hread
  have hrun := run_behind (ε := AvError) (front ++ BigEndian.digits 2 unit.length) unit
    rest
  rw [List.length_append, BigEndian.digits_length, List.append_assoc front,
    ← List.append_assoc (BigEndian.digits 2 unit.length), hrecord] at hrun
  rcases avReallocp_behind halloc front.length
    (unit.length + 4 + inputBufferPaddingSize) units with ⟨room, hroom, hbuf⟩
  rcases stores_behind units hroom with ⟨buf1, buf2, hput, hunit, hzeros⟩
  rw [length_markAll_snoc] at hzeros
  rw [← Nat.add_assoc, ← Nat.add_assoc] at hbuf
  have hshort : ¬ record.length < (HvccVars.behind front.length units).p + 2 := by
    rw [hlength, HvccVars.behind_p]
    omega
  have hwhole : ¬ (unit.length ≤ 0 ∨ record.length < front.length + 2 + unit.length) := by
    rw [hlength]
    omega
  have hmax : ¬ intMax - (unit.length + 4 + inputBufferPaddingSize : Nat) <
      (markAll annexbCode units).length := by
    unfold intMax inputBufferPaddingSize
    omega
  have hlast : HvccVars.behind (front.length + (2 + unit.length)) (units ++ [unit]) =
      { p := front.length + 2 + unit.length
        buf := some (markAll annexbCode (units ++ [unit]) ++ padding)
        size := (markAll annexbCode units).length + (4 + unit.length) } := by
    unfold HvccVars.behind
    rw [if_neg (List.concat_ne_nil unit units), length_markAll_snoc, Nat.add_assoc]
  unfold copyNalu
  rw [if_neg hshort]
  simp only [HvccVars.behind_p, HvccVars.behind_size, hread, ok_bind, if_neg hwhole,
    if_neg hmax, hbuf, hput, hrun, hunit, hzeros, hlast]
  rfl

theorem copyNalu_cut (alloc : Allocator) {v : HvccVars} {k : Nat}
    (hp : v.p = front.length) (hfits : unit.length < 65536)
    (hk : k < 2 + unit.length) :
    copyNalu alloc (front ++ (BigEndian.digits 2 unit.length ++ unit).take k) v =
      .error (.returned averrorInvaliddata) := by
  have hboth : (BigEndian.digits 2 unit.length ++ unit).length = 2 + unit.length := by
    rw [List.length_append, BigEndian.digits_length]
  have hlength : (front ++ (BigEndian.digits 2 unit.length ++ unit).take k).length =
      front.length + k := by
    rw [List.length_append, List.length_take_of_le (hboth ▸ Nat.le_of_lt hk)]
  unfold copyNalu
  rw [hlength, hp]
  rcases Nat.lt_or_ge k 2 with hlen | hlen
  · exact if_pos (Nat.add_lt_add_left hlen _)
  · have hread := avRb16_behind front (unit.take (k - 2)) hfits
    have htake : (BigEndian.digits 2 unit.length ++ unit).take k =
        BigEndian.digits 2 unit.length ++ unit.take (k - 2) := by
      rw [List.take_append, BigEndian.digits_length, List.take_of_length_le]
      rw [BigEndian.digits_length]
      exact hlen
    have hshort : unit.length ≤ 0 ∨ front.length + k < front.length + 2 + unit.length :=
      Or.inr (by omega)
    rw [if_neg (Nat.not_lt_of_le (Nat.add_le_add_left hlen _)), htake, hread, ok_bind]
    exact if_pos hshort

end Unit

/-!
## Units and arrays
-/

def HalfRead (front : Bytes) (units : List Bytes) : Prop :=
  (markAll annexbCode units).length ≤ 2 * front.length

section Loops

variable {alloc : Allocator} {front : Bytes} {done : List Bytes}

def nalu (unit : Bytes) : Bytes := BigEndian.digits 2 unit.length ++ unit

theorem length_nalu (unit : Bytes) : (nalu unit).length = 2 + unit.length := by
  unfold nalu
  rw [List.length_append, BigEndian.digits_length]

theorem copyNalu_takes (halloc : forall size, alloc size = true)
    (done : List Bytes) {unit : Bytes} (hne : unit ≠ []) (hfits : unit.length < 65536) :
    TakesPiece (copyNalu alloc) nalu
      (fun front units => .behind front.length (done ++ units))
      (fun front units => HalfRead front (done ++ units)) 65535 unit := by
  intro front units rest hsize hlimit
  have hfront : (front ++ nalu unit).length = front.length + (2 + unit.length) := by
    rw [List.length_append, length_nalu]
  constructor
  · dsimp only
    rw [hfront, ← List.append_assoc done]
    exact copyNalu_unit rest halloc hne hfits hsize (by omega)
  · dsimp only at hsize ⊢
    unfold HalfRead at hsize ⊢
    rw [← List.append_assoc, length_markAll_snoc, hfront]
    omega

def HvccArray.head (array : HvccArray) : Bytes :=
  array.nalType :: BigEndian.digits 2 array.units.length

theorem HvccArray.bytes_eq (array : HvccArray) :
    array.bytes = array.head ++ array.units.flatMap nalu := rfl

theorem HvccArray.head_length (array : HvccArray) : array.head.length = 3 := by
  unfold HvccArray.head
  rw [List.length_cons, BigEndian.digits_length]

/-- A round behind the head of an array is the loop over its units. -/
theorem copyArray_head (alloc : Allocator) (front : Bytes) (array : HvccArray)
    (rest : Bytes) (done : List Bytes) :
    copyArray alloc (front ++ (array.head ++ rest)) (.behind front.length done) =
      times (copyNalu alloc ((front ++ array.head) ++ rest)) array.units.length
        (.behind (front ++ array.head).length done) := by
  have hfits : ¬ (front ++ (array.head ++ rest)).length <
      (HvccVars.behind front.length done).p + 3 := by
    rw [List.length_append, List.length_append, array.head_length, HvccVars.behind_p]
    omega
  have htype := element_behind (ε := AvError) front (array.head ++ rest) array.nalType 0
    rfl
  have hcount := avRb16_behind (front ++ [array.nalType]) rest array.count
  rw [Nat.add_zero] at htype
  rw [List.append_assoc, List.singleton_append, List.length_append,
    List.length_singleton] at hcount
  have hhead : front.length + 3 = (front ++ array.head).length := by
    rw [List.length_append, array.head_length]
  unfold copyArray
  rw [if_neg hfits]
  simp only [HvccVars.behind_p, htype, ok_bind]
  rw [show array.head ++ rest = array.nalType :: (BigEndian.digits 2
    array.units.length ++ rest) from rfl, hcount, ok_bind, hhead, List.append_assoc]
  rfl

theorem copyArray_takes (halloc : forall size, alloc size = true)
    (array : HvccArray) :
    TakesPiece (copyArray alloc) HvccArray.bytes
      (fun front arrays => .behind front.length (arrays.flatMap HvccArray.units))
      (fun front arrays => HalfRead front (arrays.flatMap HvccArray.units)) 65535
      array := by
  intro front arrays rest hsize hlimit
  dsimp only at hsize ⊢
  have hhead : HalfRead (front ++ array.head) (arrays.flatMap HvccArray.units) := by
    unfold HalfRead at hsize ⊢
    rw [List.length_append]
    omega
  rw [array.bytes_eq, ← List.append_assoc] at hlimit
  have hunits := times_pieces (front ++ array.head) [] rest
    (fun unit hmem => copyNalu_takes halloc (arrays.flatMap HvccArray.units)
      (array.nonempty unit hmem) (array.fits unit hmem))
    (by rw [List.append_nil]; exact hhead) hlimit
  rw [List.append_nil, List.nil_append] at hunits
  rw [array.bytes_eq, List.append_assoc, copyArray_head, List.flatMap_append,
    List.flatMap_singleton, ← List.append_assoc front]
  exact hunits

theorem copyNalu_stops (alloc : Allocator) (done : List Bytes) {unit : Bytes}
    (hfits : unit.length < 65536) (front : Bytes) (units : List Bytes) (k : Nat)
    (hk : k < (nalu unit).length) :
    copyNalu alloc (front ++ (nalu unit).take k)
        (.behind front.length (done ++ units)) =
      .error (.returned averrorInvaliddata) := by
  rw [length_nalu] at hk
  exact copyNalu_cut alloc (HvccVars.behind_p _ _) hfits hk

theorem copyArray_stops (halloc : forall size, alloc size = true)
    (array : HvccArray) (front : Bytes) (done : List Bytes) (k : Nat)
    (hsize : HalfRead front done) (hk : k < array.bytes.length)
    (hlimit : front.length + k ≤ 65535) :
    copyArray alloc (front ++ array.bytes.take k) (.behind front.length done) =
      .error (.returned averrorInvaliddata) := by
  rcases Nat.lt_or_ge k 3 with hhead | hunits
  · have hlength : (front ++ array.bytes.take k).length <
        (HvccVars.behind front.length done).p + 3 := by
      rw [List.length_append, List.length_take_of_le (Nat.le_of_lt hk)]
      exact Nat.add_lt_add_left hhead _
    exact if_pos hlength
  · rcases Nat.exists_eq_add_of_le hunits with ⟨j, rfl⟩
    have hfront : (front ++ array.head).length = front.length + 3 := by
      rw [List.length_append, array.head_length]
    rw [array.bytes_eq, List.length_append, array.head_length] at hk
    rw [array.bytes_eq, ← array.head_length, List.take_length_add_append, copyArray_head]
    have hcut := times_cut (front ++ array.head) []
      (fun unit hmem => copyNalu_takes halloc done (array.nonempty unit hmem)
        (array.fits unit hmem))
      (fun unit hmem front units k _ hk _ =>
        copyNalu_stops alloc done (array.fits unit hmem) front units k hk)
      (by
        unfold HalfRead at hsize ⊢
        rw [List.append_nil, hfront]
        omega)
      (Nat.lt_of_add_lt_add_left hk) (by omega)
    rw [List.append_nil] at hcut
    exact hcut

end Loops

/-!
## Results
-/

def AnnexbOut.bytes (o : AnnexbOut) : Bytes := (o.out.getD []).take o.outSize

theorem HvccVars.behind_bytes (p : Nat) (units : List Bytes) :
    AnnexbOut.bytes ⟨(HvccVars.behind p units).buf, (HvccVars.behind p units).size⟩ =
      markAll annexbCode units := by
  unfold AnnexbOut.bytes HvccVars.behind
  dsimp only
  split
  · rename_i hunits
    rw [hunits]
    rfl
  · exact List.take_left

section Result

variable {alloc : Allocator} {record : Bytes}

theorem vtremoteHevcExtradataToAnnexb_total (alloc : Allocator) (record : Bytes)
    (o : AnnexbOut) :
    exists ret o', vtremoteHevcExtradataToAnnexb alloc record o = some (ret, o') ∧
      (ret = 0 ∨ ret < 0 ∧ o' = o) := by
  have hinside := convertHvcc_inside alloc record
  unfold vtremoteHevcExtradataToAnnexb
  cases hconvert : convertHvcc alloc record with
  | ok result => exact ⟨0, _, rfl, Or.inl rfl⟩
  | error e =>
      cases e with
      | returned e => exact ⟨e.code, o, rfl, Or.inr ⟨e.neg, rfl⟩⟩
      | outOfRange => exact absurd hconvert hinside

def StartsWithCode (record : Bytes) : Prop :=
  [0, 0, 1] <+: record ∨ [0, 0, 0, 1] <+: record

theorem avRb24_cons (a b c : UInt8) (rest : Bytes) :
    avRb24 (a :: b :: c :: rest) 0 = .ok (BigEndian.value [0, a, b, c]) :=
  congrArg Except.ok (BigEndian.load32_toNat 0 a b c)

theorem avRb32_cons (a b c d : UInt8) (rest : Bytes) :
    avRb32 (a :: b :: c :: d :: rest) 0 = .ok (BigEndian.value [a, b, c, d]) :=
  congrArg Except.ok (BigEndian.load32_toNat a b c d)

theorem codes_read (h : 23 ≤ record.length) :
    exists code3 code4, avRb24 record 0 = .ok code3 ∧ avRb32 record 0 = .ok code4 ∧
      (StartsWithCode record -> code3 = 1 ∨ code4 = 1) ∧
      (record.head? = some 1 -> ¬ (code3 = 1 ∨ code4 = 1)) := by
  match record, h with
  | a :: b :: c :: d :: rest, _ =>
      refine ⟨_, _, avRb24_cons a b c (d :: rest), avRb32_cons a b c d rest, ?_, ?_⟩
      · intro hcode
        rcases hcode with ⟨tail, h3⟩ | ⟨tail, h4⟩
        · cases h3
          exact Or.inl rfl
        · cases h4
          exact Or.inr rfl
      · intro hhead
        cases hhead
        have hone : (1 : UInt8).toNat = 1 := rfl
        intro hcode
        rcases hcode with h3 | h4
        · simp only [BigEndian.value, List.length_cons, List.length_nil] at h3
          norm_num at h3
          omega
        · simp only [BigEndian.value, List.length_cons, List.length_nil] at h4
          norm_num at h4
          omega

theorem convertHvcc_code (halloc : forall size, alloc size = true)
    (h : 23 ≤ record.length) (hcode : StartsWithCode record) :
    convertHvcc alloc record = .ok (some (record ++ padding), record.length) := by
  rcases codes_read h with ⟨code3, code4, h3, h4, his, _⟩
  have hmalloc : avMallocz alloc (record.length + inputBufferPaddingSize) =
      some (List.replicate (record.length + inputBufferPaddingSize) 0) :=
    if_pos (halloc _)
  have hrun := run_behind (ε := AvError) [] record []
  rw [List.append_nil, List.nil_append, List.length_nil] at hrun
  have hstore := store_append (ε := AvError) [] record
    (List.replicate (record.length + inputBufferPaddingSize) 0)
    (by rw [List.length_replicate]; exact Nat.le_add_right _ _)
  rw [List.nil_append, List.nil_append, List.length_nil, List.drop_replicate,
    Nat.add_sub_cancel_left] at hstore
  have hmin : ¬ record.length < minHvccLength := Nat.not_lt_of_le h
  unfold convertHvcc
  rw [if_neg hmin, h3, ok_bind, h4, ok_bind, if_pos (his hcode), hmalloc]
  dsimp only
  rw [hrun, ok_bind, hstore]
  rfl

theorem convertHvcc_record (h : 23 ≤ record.length) (hhead : record.head? = some 1)
    {count : UInt8} (hcount : record[22]? = some count) :
    convertHvcc alloc record =
      (times (copyArray alloc record) count.toNat (.behind 23 []) >>=
        fun v => pure (v.buf, v.size)) := by
  rcases codes_read h with ⟨code3, code4, h3, h4, _, hnot⟩
  have helement : element record 22 = (.ok count : Accesses AvError UInt8) :=
    element_eq_ok_iff.mpr hcount
  have hmin : ¬ record.length < minHvccLength := Nat.not_lt_of_le h
  have hskip : ¬ record.length < 21 + 2 := Nat.not_lt_of_le h
  unfold convertHvcc
  rw [if_neg hmin, h3, ok_bind, h4, ok_bind, if_neg (hnot hhead), if_neg hskip,
    helement, ok_bind]
  rfl

def HvccRecord.lead (r : HvccRecord) : Bytes :=
  r.header ++ [UInt8.ofNat r.arrays.length]

theorem HvccRecord.bytes_eq (r : HvccRecord) :
    r.bytes = r.lead ++ r.arrays.flatMap HvccArray.bytes := by
  unfold HvccRecord.bytes HvccRecord.lead
  rw [List.append_assoc]
  rfl

theorem HvccRecord.lead_length (r : HvccRecord) : r.lead.length = 23 := by
  unfold HvccRecord.lead
  rw [List.length_append, r.header_length]
  rfl

/-- The loop over the arrays, for bytes that begin like a record. -/
theorem convertHvcc_lead (alloc : Allocator) (r : HvccRecord) (rest : Bytes) :
    convertHvcc alloc (r.lead ++ rest) =
      (times (copyArray alloc (r.lead ++ rest)) r.arrays.length
        (.behind r.lead.length []) >>= fun v => pure (v.buf, v.size)) := by
  have hlength : 23 ≤ (r.lead ++ rest).length := by
    rw [List.length_append, r.lead_length]
    exact Nat.le_add_right _ _
  have hhead : (r.lead ++ rest).head? = some 1 := by
    unfold HvccRecord.lead
    rw [List.append_assoc, List.head?_append_of_ne_nil, r.version]
    exact List.ne_nil_of_length_pos (r.header_length ▸ by decide)
  have hcount : (r.lead ++ rest)[22]? = some (UInt8.ofNat r.arrays.length) := by
    unfold HvccRecord.lead
    rw [List.append_assoc, List.getElem?_append_right (Nat.le_of_eq r.header_length),
      r.header_length]
    rfl
  rw [convertHvcc_record hlength hhead hcount, UInt8.toNat_ofNat_of_lt' r.count,
    r.lead_length]

theorem convertHvcc_exact (halloc : forall size, alloc size = true) (r : HvccRecord)
    (trailing : Bytes) (hlimit : (r.bytes ++ trailing).length ≤ 65535) :
    convertHvcc alloc (r.bytes ++ trailing) =
      .ok ((HvccVars.behind r.bytes.length r.units).buf,
        (HvccVars.behind r.bytes.length r.units).size) := by
  have hbytes : r.bytes.length ≤ 65535 := by
    rw [List.length_append] at hlimit
    exact Nat.le_trans (Nat.le_add_right _ _) hlimit
  rw [r.bytes_eq] at hbytes
  have hloop := (times_pieces r.lead [] trailing
    (fun array _ => copyArray_takes halloc array)
    (Nat.zero_le _) hbytes).1
  rw [List.flatMap_nil, List.nil_append] at hloop
  rw [r.bytes_eq, List.append_assoc, convertHvcc_lead, hloop]
  rfl

theorem convertHvcc_cut (halloc : forall size, alloc size = true) (r : HvccRecord)
    (hcut : record <+: r.bytes) (hne : record ≠ r.bytes)
    (hlimit : record.length ≤ 65535) :
    convertHvcc alloc record = .error (.returned averrorInvaliddata) := by
  rcases Nat.lt_or_ge record.length 23 with hshort | hlead
  · exact if_pos hshort
  · rcases Nat.exists_eq_add_of_le hlead with ⟨k, hk⟩
    have hlength : record.length < r.bytes.length :=
      Nat.lt_of_le_of_ne hcut.length_le fun h => hne (hcut.eq_of_length h)
    have htake : record = r.lead ++ (r.arrays.flatMap HvccArray.bytes).take k := by
      calc record = r.bytes.take record.length := List.prefix_iff_eq_take.mp hcut
        _ = (r.lead ++ r.arrays.flatMap HvccArray.bytes).take (r.lead.length + k) := by
            rw [r.bytes_eq, hk, r.lead_length]
        _ = _ := List.take_length_add_append _
    rw [r.bytes_eq, List.length_append, r.lead_length, hk] at hlength
    have hloop := times_cut r.lead [] (fun array _ => copyArray_takes halloc array)
      (fun array _ front arrays k hsize hk hlimit =>
        copyArray_stops halloc array front (arrays.flatMap HvccArray.units) k hsize hk
          hlimit)
      (Nat.zero_le _) (Nat.lt_of_add_lt_add_left hlength)
      (by rw [r.lead_length, ← hk]; exact hlimit)
    rw [htake, convertHvcc_lead]
    exact congrArg (· >>= _) hloop

end Result

/-- The conversion stays inside of every record, leaves the variables of the
caller alone where it fails, and is exact. -/
theorem hvcC_conversion (record : Bytes) (hlimit : record.length ≤ 65535) :
    (forall alloc o, exists ret o',
      vtremoteHevcExtradataToAnnexb alloc record o = some (ret, o') ∧
        (ret = 0 ∨ ret < 0 ∧ o' = o)) ∧
    forall alloc o, (forall size, alloc size = true) ->
      (23 ≤ record.length -> StartsWithCode record ->
        exists o', vtremoteHevcExtradataToAnnexb alloc record o = some (0, o') ∧
          o'.bytes = record ∧ o'.outSize = record.length) ∧
      (forall (r : HvccRecord) (trailing : Bytes), record = r.bytes ++ trailing ->
        exists o', vtremoteHevcExtradataToAnnexb alloc record o = some (0, o') ∧
          o'.bytes = markAll [0, 0, 0, 1] r.units ∧
          o'.outSize = (markAll [0, 0, 0, 1] r.units).length) ∧
      (forall r : HvccRecord, record <+: r.bytes -> record ≠ r.bytes ->
        vtremoteHevcExtradataToAnnexb alloc record o =
          some (averrorInvaliddata.code, o)) := by
  constructor
  · exact fun alloc o => vtremoteHevcExtradataToAnnexb_total alloc record o
  · intro alloc o halloc
    refine ⟨?_, ?_, ?_⟩
    · intro hlength hcode
      refine ⟨⟨some (record ++ padding), record.length⟩, ?_, ?_, rfl⟩
      · unfold vtremoteHevcExtradataToAnnexb
        rw [convertHvcc_code halloc hlength hcode]
      · exact List.take_left
    · intro r trailing h
      subst h
      refine ⟨⟨(HvccVars.behind r.bytes.length r.units).buf,
        (HvccVars.behind r.bytes.length r.units).size⟩, ?_, ?_, rfl⟩
      · unfold vtremoteHevcExtradataToAnnexb
        rw [convertHvcc_exact halloc r trailing hlimit]
      · exact HvccVars.behind_bytes _ _
    · intro r hcut hne
      unfold vtremoteHevcExtradataToAnnexb
      rw [convertHvcc_cut halloc r hcut hne hlimit]

private def shortHvccRecord : HvccRecord where
  header := 1 :: List.replicate 21 0
  header_length := rfl
  version := rfl
  arrays := [⟨0x20, [[0x40, 1]], by decide, .cons (by decide) (fitting_nil 2),
    by decide⟩]
  count := by decide

/-- One array with one unit, and a byte behind it. -/
theorem hvcC_conversion_one_unit :
    exists o', vtremoteHevcExtradataToAnnexb (fun _ => true)
        (shortHvccRecord.bytes ++ [9]) ⟨none, 0⟩ = some (0, o') ∧
      o'.bytes = [0, 0, 0, 1, 0x40, 1] ∧ o'.outSize = 6 :=
  ((hvcC_conversion (shortHvccRecord.bytes ++ [9]) (by decide)).2 (fun _ => true)
    ⟨none, 0⟩ (fun _ => rfl)).2.1 shortHvccRecord [9] rfl

end VTRemote
