import VTRemote.Library.LengthPrefix
import VTRemote.Library.Writes
import VTRemote.Server.AnnexB
import VTRemote.Server.ByteBuffer

/-!
# Length prefixes and start codes

Samples of the encoder hold NAL units behind their lengths, the wire has them
behind start codes, and the decoder takes them behind lengths again.
`convertToAnnexB` and `AnnexB.toLengthPrefixed` go one way each.
-/

namespace VTRemote

open AnnexB

/-!
## convertToAnnexB
-/

/-- The values that `nalLengthField` is set to. -/
structure NALLength where
  size : Nat
  pos : 1 ≤ size
  le : size ≤ 4

def NALLength.four : NALLength := ⟨4, by decide, by decide⟩

def putStartCode (data : List UInt8) (index : Nat) : List UInt8 :=
  (((data.set index 0).set (index + 1) 0).set (index + 2) 0).set (index + 3) 1

@[simp] theorem putStartCode_length (data : List UInt8) (index : Nat) :
    (putStartCode data index).length = data.length := by
  unfold putStartCode
  rw [List.length_set, List.length_set, List.length_set, List.length_set]

def readLength4 (data : List UInt8) (index : Nat) : UInt32 :=
  BigEndian.load32 (data.getD index 0) (data.getD (index + 1) 0)
    (data.getD (index + 2) 0) (data.getD (index + 3) 0)

def readLength (nalLengthField : Nat) (data : List UInt8) (index : Nat) : UInt32 :=
  (List.range nalLengthField).foldl
    (fun len idx => (len <<< 8) ||| (data.getD (index + idx) 0).toUInt32) 0

/-- Lengths are replaced by start codes where they are. -/
def annexInPlace (data : List UInt8) (index : Nat) : List UInt8 :=
  if index + 4 ≤ data.length then
    let len := readLength4 data index
    annexInPlace (putStartCode data index) (index + (4 + len.toNat))
  else data
termination_by data.length - index
decreasing_by
  rw [putStartCode_length]
  omega

/-- The first pass: the size that is needed. -/
def annexSize (n : NALLength) (data : List UInt8) (index size : Nat) : Nat :=
  if index + n.size ≤ data.length then
    let len := (readLength n.size data index).toNat
    if index + n.size + len ≤ data.length then
      annexSize n data (index + (n.size + len)) (size + (4 + len))
    else size
  else size
termination_by data.length - index
decreasing_by
  have hpos := n.pos
  omega

/-- The second pass: start codes and units into the buffer `out`. -/
def annexCopy (n : NALLength) (data : List UInt8) (index : Nat)
    (out : List UInt8) (outIdx : Nat) : List UInt8 :=
  if index + n.size ≤ data.length then
    let len := (readLength n.size data index).toNat
    if index + n.size + len ≤ data.length then
      let out := putStartCode out outIdx
      let unit := subdata data (index + n.size) (index + n.size + len)
      annexCopy n data (index + n.size + len) (copyInto out (outIdx + 4) unit)
        (outIdx + 4 + len)
    else out
  else out
termination_by data.length - index
decreasing_by
  have hpos := n.pos
  omega

/-- The base addresses are unwrapped by force, which those of empty data need
not have. -/
def convertToAnnexB (block : List UInt8) (nalLengthField : NALLength) :
    Except Failure (List UInt8) :=
  if block = [] then .error .trapped
  else if nalLengthField.size = 4 then .ok (annexInPlace block 0)
  else
    let size := annexSize nalLengthField block 0 0
    if size = 0 then .error .trapped
    else .ok (annexCopy nalLengthField block 0 (List.replicate size 0) 0)

/-!
## toLengthPrefixed
-/

namespace AnnexB

def lengthByte (lengthSize len idx : Nat) : UInt8 :=
  UInt8.ofNat ((len >>> ((lengthSize - 1 - idx) * 8)) &&& 0xFF)

def putUnit (lengthSize : Nat) (s : List UInt8 × Nat) (unit : List UInt8) :
    List UInt8 × Nat :=
  let out := storeAll s.1 s.2 (lengthByte lengthSize unit.length) lengthSize
  let offset := s.2 + lengthSize
  (copyInto out offset unit, offset + unit.length)

def toLengthPrefixed (annexB : List UInt8) (lengthSize : Nat) :
    Except Failure (List UInt8) :=
  if 1 ≤ lengthSize ∧ lengthSize ≤ 4 then
    let units := splitNALUnits annexB
    let totalSize := units.foldl (fun size unit => size + lengthSize + unit.length) 0
    .ok (units.foldl (putUnit lengthSize) (List.replicate totalSize 0, 0)).1
  else .error .trapped

end AnnexB

/-!
## Reading a length
-/

theorem putStartCode_append {done room : List UInt8} (h : 4 ≤ room.length) :
    putStartCode (done ++ room) done.length =
      done ++ (StartCode.four.bytes ++ room.drop 4) := by
  match room with
  | a :: b :: c :: d :: rest =>
      have hset : forall (front rest : List UInt8) (k : Nat) (byte old : UInt8),
          front.length = k ->
          (done ++ (front ++ old :: rest)).set (done.length + k) byte =
            done ++ (front ++ byte :: rest) := by
        intro front rest k byte old h
        subst h
        rw [List.set_append_right _ _ (Nat.le_add_right _ _), Nat.add_sub_cancel_left]
        rw [List.set_append_right _ _ (Nat.le_refl _), Nat.sub_self, List.set_cons_zero]
      have h0 := hset [] (b :: c :: d :: rest) 0 0 a rfl
      have h1 := hset [0] (c :: d :: rest) 1 0 b rfl
      have h2 := hset [0, 0] (d :: rest) 2 0 c rfl
      have h3 := hset [0, 0, 0] rest 3 1 d rfl
      simp only [List.nil_append, List.cons_append, Nat.add_zero] at h0 h1 h2 h3
      unfold putStartCode
      rw [h0, h1, h2, h3]
      rfl

theorem getD_behind (front rest : List UInt8) (k : Nat) :
    (front ++ rest).getD (front.length + k) 0 = rest.getD k 0 := by
  rw [List.getD_append_right _ _ _ _ (Nat.le_add_right _ _), Nat.add_sub_cancel_left]

theorem readLength4_behind {front bytes rest : List UInt8} (h : bytes.length = 4) :
    (readLength4 (front ++ (bytes ++ rest)) front.length).toNat =
      BigEndian.value bytes := by
  match bytes with
  | [a, b, c, d] =>
      unfold readLength4
      have h0 := getD_behind front ([a, b, c, d] ++ rest) 0
      rw [Nat.add_zero] at h0
      rw [h0, getD_behind, getD_behind, getD_behind]
      exact BigEndian.load32_toNat a b c d

theorem readLength_behind (front rest : List UInt8) {bytes : List UInt8}
    (h : bytes.length ≤ 4) :
    (readLength bytes.length (front ++ (bytes ++ rest)) front.length).toNat =
      BigEndian.value bytes := by
  have hfold : forall (read : List UInt8) (tail : List UInt8),
      bytes = read ++ tail ->
      (readLength read.length (front ++ (bytes ++ rest)) front.length).toNat =
        BigEndian.value read := by
    intro read
    induction read using List.reverseRecOn with
    | nil => exact fun _ _ => rfl
    | append_singleton read byte ih =>
        intro tail hbytes
        have hprev := ih ([byte] ++ tail) (by rw [hbytes, List.append_assoc])
        have hshort : read.length + 1 ≤ 4 := by
          rw [hbytes, List.length_append, List.length_append] at h
          exact Nat.le_trans (Nat.le_add_right _ _) h
        have hbyte : (front ++ (bytes ++ rest)).getD (front.length + read.length) 0 =
            byte := by
          rw [getD_behind, hbytes, List.append_assoc, List.append_assoc]
          rw [List.getD_append_right _ _ _ _ (Nat.le_refl _), Nat.sub_self]
          rfl
        unfold readLength at hprev ⊢
        rw [List.length_append, List.length_singleton, List.range_succ]
        rw [List.foldl_append, List.foldl_cons, List.foldl_nil, hbyte]
        have hroom : BigEndian.value read < 2 ^ 24 := by
          calc BigEndian.value read < 256 ^ read.length := BigEndian.value_lt read
            _ ≤ 256 ^ 3 := Nat.pow_le_pow_right (by decide) (Nat.le_of_succ_le_succ hshort)
        rw [← hprev] at hroom
        rw [BigEndian.shift_lor_toNat hroom, hprev, BigEndian.value_snoc]
  exact hfold bytes [] (List.append_nil bytes).symm

/-!
## The passes over a block
-/

def codeAll (runs : List (List UInt8)) : List UInt8 :=
  markAll StartCode.four.bytes runs

theorem codeAll_cons (run : List UInt8) (runs : List (List UInt8)) :
    codeAll (run :: runs) = StartCode.four.bytes ++ (run ++ codeAll runs) :=
  markAll_cons _ run runs

theorem length_codeAll_cons (run : List UInt8) (runs : List (List UInt8)) :
    (codeAll (run :: runs)).length = 4 + run.length + (codeAll runs).length :=
  length_markAll_cons _ run runs

theorem length_codeAll (runs : List (List UInt8)) :
    (codeAll runs).length = (prefixAll 4 runs).length := by
  induction runs with
  | nil => rfl
  | cons run runs ih => rw [length_codeAll_cons, length_prefixAll_cons, ih]

section Passes

variable {run rest room : List UInt8} {runs : List (List UInt8)}

theorem behind_run (n : Nat) (front rest run : List UInt8) (runs : List (List UInt8)) :
    front ++ (prefixAll n (run :: runs) ++ rest) =
      (front ++ (BigEndian.digits n run.length ++ run)) ++
        (prefixAll n runs ++ rest) := by
  rw [prefixAll_cons]
  simp only [List.append_assoc]

theorem length_behind_run (n : Nat) (front run : List UInt8) :
    (front ++ (BigEndian.digits n run.length ++ run)).length =
      front.length + n + run.length := by
  rw [List.length_append, List.length_append, BigEndian.digits_length, Nat.add_assoc]

theorem readLength_prefixAll (n : NALLength) (front rest : List UInt8)
    (runs : List (List UInt8)) (h : run.length < 256 ^ n.size) :
    (readLength n.size (front ++ (prefixAll n.size (run :: runs) ++ rest))
      front.length).toNat = run.length := by
  have hlength : (BigEndian.digits n.size run.length).length = n.size :=
    BigEndian.digits_length n.size _
  have hread := readLength_behind front (run ++ (prefixAll n.size runs ++ rest))
    (Nat.le_trans (Nat.le_of_eq hlength) n.le)
  rw [hlength, BigEndian.value_digits h] at hread
  rw [prefixAll_cons, List.append_assoc, List.append_assoc]
  exact hread

theorem prefixAll_fits (n : Nat) (front rest run : List UInt8)
    (runs : List (List UInt8)) :
    front.length + n + run.length ≤
      (front ++ (prefixAll n (run :: runs) ++ rest)).length := by
  rw [behind_run, List.length_append, length_behind_run]
  exact Nat.le_add_right _ _

theorem incomplete_stops (n : NALLength) (front : List UInt8)
    (h : Incomplete n.size rest)
    (hlength : front.length + n.size ≤ (front ++ rest).length) :
    ¬ front.length + n.size +
        (readLength n.size (front ++ rest) front.length).toNat ≤
          (front ++ rest).length := by
  rw [List.length_append] at hlength ⊢
  have hheader : (rest.take n.size).length = n.size :=
    List.length_take_of_le (Nat.le_of_add_le_add_left hlength)
  have hread := readLength_behind front (rest.drop n.size)
    (Nat.le_trans (Nat.le_of_eq hheader) n.le)
  rw [hheader, List.take_append_drop] at hread
  unfold Incomplete at h
  rw [hread, Nat.add_assoc]
  exact Nat.not_le_of_lt (Nat.add_lt_add_left h _)

theorem annexSize_prefixAll (n : NALLength) (front : List UInt8) (size : Nat)
    (h : Fitting n.size runs) (hrest : Incomplete n.size rest) :
    annexSize n (front ++ (prefixAll n.size runs ++ rest)) front.length size =
      size + (codeAll runs).length := by
  induction runs generalizing front size with
  | nil =>
      show annexSize n (front ++ rest) front.length size = size
      rw [annexSize]
      split
      · rename_i hlength
        exact if_neg (incomplete_stops n front hrest hlength)
      · rfl
  | cons run runs ih =>
      have hread := readLength_prefixAll n front rest runs h.head
      have hfits := prefixAll_fits n.size front rest run runs
      have hnext := ih (front ++ (BigEndian.digits n.size run.length ++ run))
        (size + (4 + run.length)) h.tail
      rw [← behind_run, length_behind_run, Nat.add_assoc front.length] at hnext
      rw [annexSize, if_pos (Nat.le_trans (Nat.le_add_right _ _) hfits)]
      dsimp only
      rw [hread, if_pos hfits, hnext, length_codeAll_cons]
      exact Nat.add_assoc _ _ _

/-- The second pass fills that much room and leaves what is beyond it. -/
theorem annexCopy_prefixAll (n : NALLength) (front done beyond : List UInt8)
    (h : Fitting n.size runs) (hrest : Incomplete n.size rest)
    (hroom : room.length = (codeAll runs).length) :
    annexCopy n (front ++ (prefixAll n.size runs ++ rest)) front.length
      (done ++ (room ++ beyond)) done.length = done ++ (codeAll runs ++ beyond) := by
  induction runs generalizing front done room with
  | nil =>
      rw [List.eq_nil_of_length_eq_zero hroom]
      show annexCopy n (front ++ rest) front.length _ _ = _
      rw [annexCopy]
      split
      · rename_i hlength
        exact if_neg (incomplete_stops n front hrest hlength)
      · rfl
  | cons run runs ih =>
      have hread := readLength_prefixAll n front rest runs h.head
      have hfits := prefixAll_fits n.size front rest run runs
      have hunit : subdata (front ++ (prefixAll n.size (run :: runs) ++ rest))
          (front.length + n.size) (front.length + n.size + run.length) = run := by
        have hfront : (front ++ BigEndian.digits n.size run.length).length =
            front.length + n.size := by
          rw [List.length_append, BigEndian.digits_length]
        rw [behind_run, ← List.append_assoc front, List.append_assoc _ run, ← hfront]
        exact slice_middle _ run (prefixAll n.size runs ++ rest)
      rw [length_codeAll_cons] at hroom
      have hcode : 4 ≤ (room ++ beyond).length := by
        rw [List.length_append, hroom]
        omega
      have hdone : (done ++ StartCode.four.bytes).length = done.length + 4 := by
        rw [List.length_append]
        rfl
      have hwhole : 4 + run.length ≤ room.length :=
        hroom ▸ Nat.le_add_right _ _
      have hcopy := copyInto_append (done ++ StartCode.four.bytes)
        ((room ++ beyond).drop 4) run
      rw [hdone, List.append_assoc done, List.append_assoc done, List.drop_drop,
        List.drop_append_of_le_length hwhole] at hcopy
      have hleft : (room.drop (4 + run.length)).length = (codeAll runs).length := by
        rw [List.length_drop, hroom, Nat.add_sub_cancel_left]
      have hnext := ih (front ++ (BigEndian.digits n.size run.length ++ run))
        (done ++ (StartCode.four.bytes ++ run)) h.tail hleft
      have houtIdx : (done ++ (StartCode.four.bytes ++ run)).length =
          done.length + 4 + run.length := by
        rw [← List.append_assoc, List.length_append, hdone]
      rw [← behind_run, length_behind_run, houtIdx] at hnext
      rw [annexCopy, if_pos (Nat.le_trans (Nat.le_add_right _ _) hfits)]
      dsimp only
      rw [hread, if_pos hfits, hunit, putStartCode_append hcode, hcopy, codeAll_cons]
      simpa only [List.append_assoc] using hnext

theorem annexInPlace_prefixAll (done rest : List UInt8) (h : Fitting 4 runs) :
    annexInPlace (done ++ (prefixAll 4 runs ++ rest)) done.length =
      annexInPlace (done ++ codeAll runs ++ rest) (done ++ codeAll runs).length := by
  induction runs generalizing done with
  | nil =>
      show annexInPlace (done ++ rest) done.length =
        annexInPlace (done ++ [] ++ rest) (done ++ []).length
      rw [List.append_nil]
  | cons run runs ih =>
      have hlength : (BigEndian.digits 4 run.length).length = 4 :=
        BigEndian.digits_length 4 _
      have hsplit : prefixAll 4 (run :: runs) ++ rest =
          BigEndian.digits 4 run.length ++ (run ++ (prefixAll 4 runs ++ rest)) := by
        rw [prefixAll_cons]
        simp only [List.append_assoc]
      have hread : (readLength4 (done ++ (prefixAll 4 (run :: runs) ++ rest))
          done.length).toNat = run.length := by
        rw [hsplit, readLength4_behind hlength]
        exact BigEndian.value_digits h.head
      have hroom : 4 ≤ (prefixAll 4 (run :: runs) ++ rest).length := by
        rw [hsplit, List.length_append, hlength]
        exact Nat.le_add_right 4 _
      have hbehind : (prefixAll 4 (run :: runs) ++ rest).drop 4 =
          run ++ (prefixAll 4 runs ++ rest) := by
        rw [hsplit]
        exact List.drop_left' hlength
      have hdone : done.length + (4 + run.length) =
          (done ++ (StartCode.four.bytes ++ run)).length := by
        rw [List.length_append, List.length_append]
        rfl
      rw [annexInPlace, if_pos (by rw [List.length_append]; exact Nat.add_le_add_left hroom _)]
      dsimp only
      rw [hread, putStartCode_append hroom, hbehind, hdone]
      rw [← List.append_assoc StartCode.four.bytes, ← List.append_assoc done]
      rw [ih _ h.tail, codeAll_cons]
      simp only [List.append_assoc]

theorem annexInPlace_end (done : List UInt8) :
    annexInPlace done done.length = done := by
  rw [annexInPlace]
  exact if_neg (Nat.not_le_of_lt (Nat.lt_add_of_pos_right (by decide)))

end Passes

/-!
## Samples
-/

def lengthPrefixed (n : Nat) (units : List NALUnit) : List UInt8 :=
  units.flatMap fun unit => BigEndian.digits n unit.bytes.length ++ unit.bytes

def startCoded (units : List NALUnit) : List UInt8 :=
  annexB (units.map fun unit => (StartCode.four, unit))

theorem lengthPrefixed_eq (n : Nat) (units : List NALUnit) :
    lengthPrefixed n units = prefixAll n (units.map NALUnit.bytes) := by
  unfold lengthPrefixed prefixAll
  rw [List.flatMap_map]

theorem startCoded_eq (units : List NALUnit) :
    startCoded units = codeAll (units.map NALUnit.bytes) := by
  unfold startCoded annexB codeAll markAll
  rw [List.flatMap_map, List.flatMap_map]

section Sample

variable {units : List NALUnit}

theorem fitting_units {n : Nat}
    (h : forall unit, unit ∈ units -> unit.bytes.length < 256 ^ n) :
    Fitting n (units.map NALUnit.bytes) := by
  intro run hmem
  rcases List.mem_map.mp hmem with ⟨unit, hunit, rfl⟩
  exact h unit hunit

theorem incomplete_nil (n : NALLength) : Incomplete n.size [] :=
  Nat.lt_of_lt_of_le n.pos (Nat.le_add_right _ _)

theorem convertToAnnexB_lengthPrefixed (n : NALLength) (hunits : units ≠ [])
    (h : forall unit, unit ∈ units -> unit.bytes.length < 256 ^ n.size) :
    convertToAnnexB (lengthPrefixed n.size units) n = .ok (startCoded units) := by
  cases units with
  | nil => exact absurd rfl hunits
  | cons unit units =>
      have hpos := n.pos
      have hfits := fitting_units h
      have hsome : (codeAll ((unit :: units).map NALUnit.bytes)).length ≠ 0 := by
        rw [List.map_cons, length_codeAll_cons]
        omega
      have hnonempty : prefixAll n.size ((unit :: units).map NALUnit.bytes) ≠ [] := by
        rw [List.map_cons, prefixAll_cons]
        apply List.append_ne_nil_of_left_ne_nil
        exact List.append_ne_nil_of_right_ne_nil _ unit.nonempty
      rw [lengthPrefixed_eq, startCoded_eq]
      unfold convertToAnnexB
      rw [if_neg hnonempty]
      split
      · rename_i hfour
        rw [hfour] at hfits ⊢
        have hplace := annexInPlace_prefixAll [] [] hfits
        rw [List.append_nil, List.append_nil, annexInPlace_end] at hplace
        exact congrArg Except.ok hplace
      · have hsize := annexSize_prefixAll n [] 0 hfits (incomplete_nil n)
        have hcopy := annexCopy_prefixAll n [] [] [] hfits (incomplete_nil n)
          (List.length_replicate (n := (codeAll ((unit :: units).map
            NALUnit.bytes)).length) (a := (0 : UInt8)))
        rw [List.append_nil, List.nil_append, List.length_nil, Nat.zero_add] at hsize
        rw [List.append_nil, List.append_nil, List.append_nil, List.nil_append,
          List.nil_append, List.nil_append, List.length_nil] at hcopy
        dsimp only
        rw [hsize, if_neg hsome, hcopy]

/-!
## Back to lengths
-/

theorem map_lengthByte (lengthSize len : Nat) :
    (List.range lengthSize).map (lengthByte lengthSize len) =
      BigEndian.digits lengthSize len := by
  induction lengthSize with
  | zero => rfl
  | succ size ih =>
      have hfirst : lengthByte (size + 1) len 0 = UInt8.ofNat (len / 256 ^ size) := by
        have hpow : 2 ^ (size * 8) = 256 ^ size := by
          rw [Nat.mul_comm, Nat.pow_mul]
        unfold lengthByte
        rw [Nat.add_sub_cancel, Nat.sub_zero, Nat.shiftRight_eq_div_pow, hpow]
        rw [Nat.and_two_pow_sub_one_eq_mod _ 8]
        apply UInt8.toNat_inj.mp
        rw [UInt8.toNat_ofNat', UInt8.toNat_ofNat', Nat.mod_mod]
      have hrest : forall idx, lengthByte (size + 1) len (idx + 1) =
          lengthByte size len idx := by
        intro idx
        have hshift : size + 1 - 1 - (idx + 1) = size - 1 - idx := by omega
        unfold lengthByte
        rw [hshift]
      rw [List.range_succ_eq_map, List.map_cons, List.map_map, hfirst]
      rw [BigEndian.digits, ← ih]
      exact congrArg _ (List.map_congr_left fun idx _ => hrest idx)

theorem totalSize_eq (lengthSize size : Nat) (runs : List (List UInt8)) :
    runs.foldl (fun size run => size + lengthSize + run.length) size =
      size + (prefixAll lengthSize runs).length := by
  induction runs generalizing size with
  | nil => rfl
  | cons run runs ih =>
      rw [List.foldl_cons, ih, length_prefixAll_cons]
      simp only [Nat.add_assoc]

theorem putUnit_append (lengthSize : Nat) (done : List UInt8) {room : List UInt8}
    (run : List UInt8) (h : lengthSize + run.length ≤ room.length) :
    putUnit lengthSize (done ++ room, done.length) run =
      (done ++ (BigEndian.digits lengthSize run.length ++ run) ++
          room.drop (lengthSize + run.length),
        (done ++ (BigEndian.digits lengthSize run.length ++ run)).length) := by
  have hstored := storeAll_append done (lengthByte lengthSize run.length)
    (Nat.le_trans (Nat.le_add_right _ _) h)
  rw [map_lengthByte, ← List.append_assoc] at hstored
  have hlength : (done ++ BigEndian.digits lengthSize run.length).length =
      done.length + lengthSize := by
    rw [List.length_append, BigEndian.digits_length]
  have hcopy := copyInto_append (done ++ BigEndian.digits lengthSize run.length)
    (room.drop lengthSize) run
  rw [hlength] at hcopy
  unfold putUnit
  dsimp only
  rw [hstored, hcopy, List.drop_drop]
  refine Prod.ext ?_ ?_
  · simp only [List.append_assoc]
  · show done.length + lengthSize + run.length = _
    rw [← List.append_assoc, List.length_append, hlength]

theorem foldl_putUnit (lengthSize : Nat) (done : List UInt8) {room : List UInt8}
    {runs : List (List UInt8)}
    (h : room.length = (prefixAll lengthSize runs).length) :
    (runs.foldl (putUnit lengthSize) (done ++ room, done.length)).1 =
      done ++ prefixAll lengthSize runs := by
  induction runs generalizing done room with
  | nil =>
      rw [List.eq_nil_of_length_eq_zero h]
      rfl
  | cons run runs ih =>
      rw [length_prefixAll_cons] at h
      rw [List.foldl_cons, putUnit_append lengthSize done run
        (h ▸ Nat.le_add_right _ _)]
      rw [ih]
      · rw [prefixAll_cons, List.append_assoc]
      · rw [List.length_drop, h, Nat.add_sub_cancel_left]

theorem toLengthPrefixed_eq (m : NALLength) (annexB : List UInt8) :
    toLengthPrefixed annexB m.size = .ok (prefixAll m.size (splitNALUnits annexB)) := by
  have hsize := totalSize_eq m.size 0 (splitNALUnits annexB)
  rw [Nat.zero_add] at hsize
  unfold toLengthPrefixed
  rw [if_pos ⟨m.pos, m.le⟩]
  dsimp only
  rw [hsize]
  exact congrArg Except.ok (foldl_putUnit m.size [] List.length_replicate)

theorem splitNALUnits_startCoded (hunits : units ≠ []) :
    splitNALUnits (startCoded units) = units.map NALUnit.bytes := by
  have hlead : Leading [] :=
    ⟨by decide, by decide, by decide⟩
  have hmap : units.map (fun unit => (StartCode.four, unit)) ≠ [] := by
    intro hnil
    exact hunits (List.map_eq_nil_iff.mp hnil)
  have hsplit := splitNALUnits_annexB hlead hmap
  rw [List.map_map] at hsplit
  exact hsplit

end Sample

/-- A sample of the encoder comes back from the wire as its units, and behind
lengths of any size that has room for them. -/
theorem annexB_round_trip (n m : NALLength) (units : List NALUnit)
    (hunits : units ≠ [])
    (hn : forall unit, unit ∈ units -> unit.bytes.length < 256 ^ n.size) :
    exists annex, convertToAnnexB (lengthPrefixed n.size units) n = .ok annex ∧
      splitNALUnits annex = units.map NALUnit.bytes ∧
      toLengthPrefixed annex m.size = .ok (lengthPrefixed m.size units) := by
  refine ⟨startCoded units, convertToAnnexB_lengthPrefixed n hunits hn,
    splitNALUnits_startCoded hunits, ?_⟩
  rw [toLengthPrefixed_eq, splitNALUnits_startCoded hunits]
  unfold prefixAll lengthPrefixed
  rw [List.flatMap_map]

private def shortUnits : List NALUnit :=
  [⟨[0x65, 0, 7], by decide, by decide, by decide, by decide⟩,
    ⟨[0x41], by decide, by decide, by decide, by decide⟩]

/-- Two units behind lengths of two bytes, the second of one byte. -/
theorem annexB_round_trip_short :
    exists annex,
      convertToAnnexB [0, 3, 0x65, 0, 7, 0, 1, 0x41] ⟨2, by decide, by decide⟩ =
        .ok annex ∧
      splitNALUnits annex = [[0x65, 0, 7], [0x41]] ∧
      toLengthPrefixed annex 4 =
        .ok [0, 0, 0, 3, 0x65, 0, 7, 0, 0, 0, 1, 0x41] := by
  have hsample : lengthPrefixed 2 shortUnits = [0, 3, 0x65, 0, 7, 0, 1, 0x41] := by
    decide
  have hheadered : lengthPrefixed 4 shortUnits =
      [0, 0, 0, 3, 0x65, 0, 7, 0, 0, 0, 1, 0x41] := by
    decide
  have htrip := annexB_round_trip ⟨2, by decide, by decide⟩ ⟨4, by decide, by decide⟩
    shortUnits (List.cons_ne_nil _ _) (by decide)
  rw [hsample, hheadered] at htrip
  exact htrip

end VTRemote
