import VTRemote.Client.Encoder
import VTRemote.Client.Handshake
import VTRemote.Client.HvccConversion

/-!
# From avcC to start codes

What `vtremote_handle_configure_ack` does to the extradata of the encoder.  An
avcC record is read twice, for the size of the result and for its bytes, and
either time the number of picture parameter sets is read where the loop over
the sequence parameter sets stopped.
-/

namespace VTRemote

open Accesses

/-!
## The two passes
-/

/-- A loop over parameter sets in the first pass: the position behind it and
`annexb_size`. -/
def sizeSets (record : Bytes) : Nat -> Nat -> Nat -> Accesses AvError (Nat × Nat)
  | 0, pos, annexbSize => .ok (pos, annexbSize)
  | count + 1, pos, annexbSize =>
      if pos + 2 ≤ record.length then do
        let setLen ← avRb16 record pos
        let pos := pos + 2
        if record.length < pos + setLen then .ok (pos, annexbSize)
        else sizeSets record count (pos + setLen) (annexbSize + (4 + setLen))
      else .ok (pos, annexbSize)

/-- A loop over parameter sets in the second pass: the position behind it,
`annexb` and `w`. -/
def copySets (record : Bytes) :
    Nat -> Nat -> Bytes -> Nat -> Accesses AvError (Nat × Bytes × Nat)
  | 0, pos, annexb, w => .ok (pos, annexb, w)
  | count + 1, pos, annexb, w =>
      if pos + 2 ≤ record.length then do
        let setLen ← avRb16 record pos
        let pos := pos + 2
        if record.length < pos + setLen then .ok (pos, annexb, w)
        else do
          let annexb ← putAnnexbCode annexb w
          let w := w + 4
          let set ← run record pos setLen
          let annexb ← store annexb w set
          copySets record count (pos + setLen) annexb (w + setLen)
      else .ok (pos, annexb, w)

def avccSize (record : Bytes) : Accesses AvError Nat := do
  let spsCount ← element record 5
  let (pos, annexbSize) ← sizeSets record (spsCount &&& 0x1f).toNat 6 0
  let ppsCount ← element record pos
  let (_, annexbSize) ← sizeSets record (ppsCount &&& 0xff).toNat (pos + 1) annexbSize
  pure annexbSize

def avccCopy (record annexb : Bytes) : Accesses AvError (Bytes × Nat) := do
  let spsCount ← element record 5
  let (pos, annexb, w) ← copySets record (spsCount &&& 0x1f).toNat 6 annexb 0
  let ppsCount ← element record pos
  let (_, annexb, w) ←
    copySets record (ppsCount &&& 0xff).toNat (pos + 1) annexb w
  pure (annexb, w)

def convertAvcc (alloc : Allocator) (record : Bytes) :
    Accesses AvError AnnexbOut := do
  let annexbSize ← avccSize record
  match avMallocz alloc (annexbSize + inputBufferPaddingSize) with
  | none => .error (.returned (averror enomem))
  | some annexb => do
      let (annexb, _) ← avccCopy record annexb
      pure { out := some annexb, outSize := annexbSize }

def keepExtradata (alloc : Allocator) (extradata : Bytes) (old : AnnexbOut) :
    Int × AnnexbOut :=
  match avMallocz alloc (extradata.length + inputBufferPaddingSize) with
  | none => ((averror enomem).code, { old with out := none })
  | some block =>
      (0, { out := some (copyInto block 0 extradata), outSize := extradata.length })

/-- `vtremote_handle_configure_ack`: its return value, and `extradata` with
`extradata_size` afterwards.  There are none where memory was accessed out of
range. -/
def configureAckExtradata (alloc : Allocator) (codecId : AVCodecID)
    (payload : Bytes) (len : Int) (old : AnnexbOut) : Option (Int × AnnexbOut) :=
  match vtremoteHandleConfigureAck payload len with
  | .error .outOfRange => none
  | .error (.returned e) => some (e.code, old)
  | .ok view =>
      match view.extradata with
      | [] => some (0, { out := none, outSize := 0 })
      | first :: rest =>
          match codecId with
          | .hevc =>
              match vtremoteHevcExtradataToAnnexb alloc (first :: rest)
                { out := none, outSize := 0 } with
              | none => none
              | some (conv, annexb) =>
                  if conv < 0 then some (conv, old) else some (0, annexb)
          | .h264 =>
              if first = 1 ∧ 6 < (first :: rest).length then
                match convertAvcc alloc (first :: rest) with
                | .ok annexb => some (0, annexb)
                | .error (.returned e) => some (e.code, old)
                | .error .outOfRange => none
              else some (keepExtradata alloc (first :: rest) old)

/-!
## Records
-/

/-- An avcC record up to its last picture parameter set. -/
structure AvccRecord where
  header : Bytes
  header_length : header.length = 5
  version : header.head? = some 1
  spsByte : UInt8
  sps : List Bytes
  spsCount : (spsByte &&& 0x1f).toNat = sps.length
  spsFit : Fitting 2 sps
  pps : List Bytes
  ppsCount : pps.length < 256
  ppsFit : Fitting 2 pps

def AvccRecord.bytes (r : AvccRecord) : Bytes :=
  r.header ++ (r.spsByte :: (prefixAll 2 r.sps ++
    (UInt8.ofNat r.pps.length :: prefixAll 2 r.pps)))

def spsAnnounced (record : Bytes) : Nat := (record.getD 5 0 &&& 0x1f).toNat

/-- The record ends behind one of the announced sequence parameter sets, or
behind the length of one that it does not hold. -/
def EndsInSps (record : Bytes) : Prop :=
  exists sps rest, record.drop 6 = prefixAll 2 sps ++ rest ∧ Fitting 2 sps ∧
    sps.length ≤ spsAnnounced record ∧
    (rest = [] ∨
      sps.length < spsAnnounced record ∧ rest.length = 2 ∧ 0 < BigEndian.value rest)

/-!
## One loop
-/

/-- The sets that a loop with a count takes from the bytes ahead. -/
structure Taken (count : Nat) (sets : List Bytes) (rest : Bytes) : Prop where
  fits : Fitting 2 sets
  le : sets.length ≤ count
  stops : sets.length = count ∨ Incomplete 2 rest

def skippedBytes (count : Nat) (sets : List Bytes) (rest : Bytes) : Nat :=
  if sets.length < count ∧ 2 ≤ rest.length then 2 else 0

theorem exists_taken (count : Nat) (ahead : Bytes) :
    exists sets rest, ahead = prefixAll 2 sets ++ rest ∧ Taken count sets rest := by
  rcases exists_prefixAll 2 ahead with ⟨runs, rest, hahead, hfits, hrest⟩
  rcases Nat.le_total runs.length count with hle | hle
  · exact ⟨runs, rest, hahead, hfits, hle, Or.inr hrest⟩
  · have hcount : (runs.take count).length = count := List.length_take_of_le hle
    refine ⟨runs.take count, prefixAll 2 (runs.drop count) ++ rest, ?_, ?_,
      Nat.le_of_eq hcount, Or.inl hcount⟩
    · rw [← List.append_assoc, ← prefixAll_append, List.take_append_drop]
      exact hahead
    · exact fun run hmem => hfits run (List.mem_of_mem_take hmem)

section Loop

variable {count : Nat} {set rest : Bytes} {sets : List Bytes}

theorem Taken.tail (h : Taken (count + 1) (set :: sets) rest) :
    Taken count sets rest where
  fits := h.fits.tail
  le := Nat.le_of_succ_le_succ h.le
  stops := h.stops.imp_left Nat.succ.inj

theorem skippedBytes_cons :
    skippedBytes (count + 1) (set :: sets) rest = skippedBytes count sets rest := by
  unfold skippedBytes
  rw [List.length_cons]
  simp only [Nat.add_lt_add_iff_right]

theorem skippedBytes_le (count : Nat) (sets : List Bytes) (rest : Bytes) :
    skippedBytes count sets rest ≤ rest.length := by
  unfold skippedBytes
  split
  · rename_i h
    exact h.2
  · exact Nat.zero_le _

theorem avRb16_ahead (front : Bytes) (h : 2 ≤ rest.length) :
    avRb16 (front ++ rest) front.length = .ok (BigEndian.value (rest.take 2)) := by
  have hlength : (rest.take 2).length = 2 := List.length_take_of_le h
  have hvalue := BigEndian.value_lt (rest.take 2)
  have hdigits := BigEndian.digits_value (rest.take 2)
  rw [hlength] at hvalue hdigits
  have hread := avRb16_behind front (rest.drop 2) hvalue
  rw [hdigits, List.take_append_drop] at hread
  exact hread

theorem skippedBytes_of_length (hlen : 2 ≤ rest.length) :
    skippedBytes (count + 1) [] rest = 2 :=
  if_pos ⟨Nat.succ_pos count, hlen⟩

theorem skippedBytes_of_short (hlen : ¬ 2 ≤ rest.length) :
    skippedBytes (count + 1) [] rest = 0 :=
  if_neg fun hboth => hlen hboth.2

theorem beyond_of_incomplete (front : Bytes) (h : Incomplete 2 rest) :
    front.length + rest.length <
      front.length + 2 + BigEndian.value (rest.take 2) := by
  rw [Nat.add_assoc]
  exact Nat.add_lt_add_left h _

theorem sizeSets_stops (front : Bytes) (size : Nat) (h : Incomplete 2 rest) :
    sizeSets (front ++ rest) (count + 1) front.length size =
      .ok (front.length + skippedBytes (count + 1) [] rest, size) := by
  rw [sizeSets, List.length_append]
  by_cases hlen : 2 ≤ rest.length
  · rw [if_pos (Nat.add_le_add_left hlen _), avRb16_ahead front hlen, ok_bind,
      skippedBytes_of_length hlen]
    exact if_pos (beyond_of_incomplete front h)
  · rw [if_neg (fun hle => hlen (Nat.le_of_add_le_add_left hle)),
      skippedBytes_of_short hlen]
    rfl

theorem copySets_stops (front annexb : Bytes) (w : Nat) (h : Incomplete 2 rest) :
    copySets (front ++ rest) (count + 1) front.length annexb w =
      .ok (front.length + skippedBytes (count + 1) [] rest, annexb, w) := by
  rw [copySets, List.length_append]
  by_cases hlen : 2 ≤ rest.length
  · rw [if_pos (Nat.add_le_add_left hlen _), avRb16_ahead front hlen, ok_bind,
      skippedBytes_of_length hlen]
    exact if_pos (beyond_of_incomplete front h)
  · rw [if_neg (fun hle => hlen (Nat.le_of_add_le_add_left hle)),
      skippedBytes_of_short hlen]
    rfl

theorem ahead_cons (front rest set : Bytes) (sets : List Bytes) :
    front ++ (prefixAll 2 (set :: sets) ++ rest) =
      front ++ (BigEndian.digits 2 set.length ++
        (set ++ (prefixAll 2 sets ++ rest))) := by
  rw [prefixAll_cons]
  simp only [List.append_assoc]

theorem length_ahead_cons (front rest set : Bytes) (sets : List Bytes) :
    (front ++ (BigEndian.digits 2 set.length ++
      (set ++ (prefixAll 2 sets ++ rest)))).length =
        front.length + 2 + set.length + (prefixAll 2 sets ++ rest).length := by
  rw [List.length_append, List.length_append, List.length_append,
    BigEndian.digits_length]
  omega

theorem sizeSets_taken (front : Bytes) (size : Nat) (h : Taken count sets rest) :
    sizeSets (front ++ (prefixAll 2 sets ++ rest)) count front.length size =
      .ok (front.length + (prefixAll 2 sets).length + skippedBytes count sets rest,
        size + (markAll annexbCode sets).length) := by
  induction sets generalizing count front size with
  | nil =>
      cases count with
      | zero => rfl
      | succ count =>
          have hrest : Incomplete 2 rest := h.stops.resolve_left (Nat.succ_ne_zero _).symm
          exact sizeSets_stops front size hrest
  | cons set sets ih =>
      cases count with
      | zero => exact absurd h.le (Nat.not_succ_le_zero _)
      | succ count =>
          have hread := avRb16_behind front (set ++ (prefixAll 2 sets ++ rest)) h.fits.head
          have hlength := length_ahead_cons front rest set sets
          have hnext := ih (front ++ (BigEndian.digits 2 set.length ++ set))
            (size + (4 + set.length)) h.tail
          rw [List.append_assoc, List.append_assoc, List.length_append, List.length_append,
            BigEndian.digits_length, ← Nat.add_assoc front.length] at hnext
          rw [ahead_cons, sizeSets, if_pos (by rw [hlength]; omega), hread, ok_bind]
          dsimp only
          rw [if_neg (by rw [hlength]; omega), hnext, skippedBytes_cons,
            length_prefixAll_cons, length_markAll_cons]
          refine congrArg Except.ok (Prod.ext ?_ ?_)
          · show front.length + 2 + set.length + _ + _ = front.length + _ + _
            omega
          · show size + (4 + set.length) + _ = size + (4 + set.length + _)
            omega

theorem copySets_taken (front done room beyond : Bytes) (h : Taken count sets rest)
    (hroom : room.length = (markAll annexbCode sets).length) :
    copySets (front ++ (prefixAll 2 sets ++ rest)) count front.length
        (done ++ (room ++ beyond)) done.length =
      .ok (front.length + (prefixAll 2 sets).length + skippedBytes count sets rest,
        (done ++ markAll annexbCode sets) ++ beyond,
        (done ++ markAll annexbCode sets).length) := by
  induction sets generalizing count front done room with
  | nil =>
      rw [List.eq_nil_of_length_eq_zero hroom]
      show copySets (front ++ rest) count front.length (done ++ beyond) done.length =
        .ok (front.length + 0 + _, (done ++ []) ++ beyond, (done ++ []).length)
      rw [List.append_nil]
      cases count with
      | zero => rfl
      | succ count =>
          have hrest : Incomplete 2 rest := h.stops.resolve_left (Nat.succ_ne_zero _).symm
          exact copySets_stops front (done ++ beyond) done.length hrest
  | cons set sets ih =>
      cases count with
      | zero => exact absurd h.le (Nat.not_succ_le_zero _)
      | succ count =>
          have hcode : annexbCode.length = 4 := rfl
          have hread := avRb16_behind front (set ++ (prefixAll 2 sets ++ rest)) h.fits.head
          have hlength := length_ahead_cons front rest set sets
          have hput := store_append (ε := AvError) done annexbCode (room ++ beyond)
            (by rw [List.length_append, hroom, length_markAll_cons, hcode]; omega)
          rw [length_markAll_cons, hcode] at hroom
          have hwhole : 4 + set.length ≤ room.length := hroom ▸ Nat.le_add_right _ _
          have hdone : (done ++ annexbCode).length = done.length + 4 := List.length_append
          have hset := store_append (ε := AvError) (done ++ annexbCode) set
            ((room ++ beyond).drop 4)
            (by rw [List.length_drop, List.length_append]; omega)
          rw [hdone, List.drop_drop, List.drop_append_of_le_length hwhole,
            List.append_assoc done, ← List.append_assoc done, ← List.append_assoc _ set]
            at hset
          have hrun := run_behind (ε := AvError)
            (front ++ BigEndian.digits 2 set.length) set (prefixAll 2 sets ++ rest)
          rw [List.length_append, BigEndian.digits_length, List.append_assoc front] at hrun
          have hleft : (room.drop (4 + set.length)).length =
              (markAll annexbCode sets).length := by
            rw [List.length_drop, hroom, Nat.add_sub_cancel_left]
          have hnext := ih (front ++ (BigEndian.digits 2 set.length ++ set))
            ((done ++ annexbCode) ++ set) (room.drop (4 + set.length)) h.tail hleft
          rw [List.append_assoc front, List.append_assoc (BigEndian.digits 2 set.length),
            List.length_append, List.length_append, BigEndian.digits_length,
            ← Nat.add_assoc front.length, List.length_append, hdone] at hnext
          have hbehind : front.length + (prefixAll 2 (set :: sets)).length =
              front.length + 2 + set.length + (prefixAll 2 sets).length := by
            rw [length_prefixAll_cons]
            omega
          have hsets : done ++ markAll annexbCode (set :: sets) =
              ((done ++ annexbCode) ++ set) ++ markAll annexbCode sets := by
            rw [markAll_cons]
            simp only [List.append_assoc]
          rw [ahead_cons, copySets, if_pos (by rw [hlength]; omega), hread, ok_bind]
          dsimp only
          rw [if_neg (by rw [hlength]; omega)]
          unfold putAnnexbCode
          rw [show BigEndian.store32 1 = annexbCode from rfl, hput, ok_bind, hrun, ok_bind,
            hcode, ← List.append_assoc done, hset, ok_bind, hnext, skippedBytes_cons,
            hbehind, hsets]

end Loop

/-!
## Both loops
-/

/-- How a record is read that does not end too early: `gap` is what the loop
over the sequence parameter sets skipped. -/
structure AvccParse (record : Bytes) where
  lead : Bytes
  lead_length : lead.length = 6
  sps : List Bytes
  gap : Bytes
  ppsByte : UInt8
  pps : List Bytes
  rest : Bytes
  bytes_eq : record = lead ++ (prefixAll 2 sps ++
    (gap ++ (ppsByte :: (prefixAll 2 pps ++ rest))))
  spsTaken : Taken (spsAnnounced record) sps
    (gap ++ (ppsByte :: (prefixAll 2 pps ++ rest)))
  gap_length : gap.length = skippedBytes (spsAnnounced record) sps
    (gap ++ (ppsByte :: (prefixAll 2 pps ++ rest)))
  ppsTaken : Taken (ppsByte &&& 0xff).toNat pps rest

section Record

variable {record : Bytes}

theorem element_spsByte (h : 6 ≤ record.length) :
    element record 5 = (.ok (record.getD 5 0) : Accesses AvError UInt8) := by
  rw [element_eq_ok_iff, List.getD_eq_getElem?_getD, List.getElem?_eq_getElem h]
  rfl

namespace AvccParse

variable (a : AvccParse record)

def front : Bytes := a.lead ++ (prefixAll 2 a.sps ++ (a.gap ++ [a.ppsByte]))

theorem record_eq : record = a.front ++ (prefixAll 2 a.pps ++ a.rest) := by
  calc record = _ := a.bytes_eq
    _ = _ := by
        unfold front
        simp only [List.append_assoc, List.singleton_append]

theorem front_length :
    a.front.length =
      a.lead.length + (prefixAll 2 a.sps).length + a.gap.length + 1 := by
  unfold front
  rw [List.length_append, List.length_append, List.length_append, List.length_singleton]
  omega

theorem six_le (a : AvccParse record) : 6 ≤ record.length := by
  have hlength := congrArg List.length a.bytes_eq
  rw [List.length_append, a.lead_length] at hlength
  omega

theorem element_ppsByte :
    element record (a.lead.length + (prefixAll 2 a.sps).length + a.gap.length) =
      (.ok a.ppsByte : Accesses AvError UInt8) := by
  have hsplit : record = (a.lead ++ (prefixAll 2 a.sps ++ a.gap)) ++
      (a.ppsByte :: (prefixAll 2 a.pps ++ a.rest)) := by
    calc record = _ := a.bytes_eq
      _ = _ := by simp only [List.append_assoc]
  have helement := element_behind (ε := AvError) (a.lead ++ (prefixAll 2 a.sps ++ a.gap))
    (a.ppsByte :: (prefixAll 2 a.pps ++ a.rest)) a.ppsByte 0 rfl
  rw [← hsplit, Nat.add_zero, List.length_append, List.length_append,
    ← Nat.add_assoc] at helement
  exact helement

theorem avccSize_eq :
    avccSize record = .ok (markAll annexbCode (a.sps ++ a.pps)).length := by
  have hsps := sizeSets_taken a.lead 0 a.spsTaken
  have hpps := sizeSets_taken a.front (0 + (markAll annexbCode a.sps).length) a.ppsTaken
  rw [← a.bytes_eq, a.lead_length, ← a.gap_length, ← a.lead_length] at hsps
  rw [← a.record_eq, a.front_length] at hpps
  rw [markAll_append, List.length_append]
  unfold avccSize
  rw [element_spsByte a.six_le, ok_bind]
  show (sizeSets record (spsAnnounced record) 6 0 >>= _) = _
  rw [← a.lead_length, hsps, ok_bind]
  dsimp only
  rw [a.element_ppsByte, ok_bind, hpps, Nat.zero_add]
  rfl

theorem avccCopy_eq {room : Bytes} (beyond : Bytes)
    (hroom : room.length = (markAll annexbCode (a.sps ++ a.pps)).length) :
    avccCopy record (room ++ beyond) =
      .ok (markAll annexbCode (a.sps ++ a.pps) ++ beyond,
        (markAll annexbCode (a.sps ++ a.pps)).length) := by
  rw [markAll_append, List.length_append] at hroom
  have htake : (room.take (markAll annexbCode a.sps).length).length =
      (markAll annexbCode a.sps).length :=
    List.length_take_of_le (hroom ▸ Nat.le_add_right _ _)
  have hdrop : (room.drop (markAll annexbCode a.sps).length).length =
      (markAll annexbCode a.pps).length := by
    rw [List.length_drop, hroom, Nat.add_sub_cancel_left]
  have hsps := copySets_taken a.lead [] (room.take (markAll annexbCode a.sps).length)
    (room.drop (markAll annexbCode a.sps).length ++ beyond) a.spsTaken htake
  have hpps := copySets_taken a.front (markAll annexbCode a.sps)
    (room.drop (markAll annexbCode a.sps).length) beyond a.ppsTaken hdrop
  rw [← a.bytes_eq, a.lead_length, ← a.gap_length, ← a.lead_length,
    ← List.append_assoc (List.take _ room), List.take_append_drop, List.nil_append,
    List.nil_append, List.length_nil] at hsps
  rw [← a.record_eq, a.front_length] at hpps
  unfold avccCopy
  rw [element_spsByte a.six_le, ok_bind]
  show (copySets record (spsAnnounced record) 6 _ 0 >>= _) = _
  rw [← a.lead_length, hsps, ok_bind]
  dsimp only
  rw [a.element_ppsByte, ok_bind, hpps, markAll_append]
  rfl

end AvccParse

theorem avccSize_ends (hlength : 6 ≤ record.length) (h : EndsInSps record) :
    avccSize record = .error .outOfRange := by
  rcases h with ⟨sps, rest, hahead, hfits, hle, hend⟩
  have htaken : Taken (spsAnnounced record) sps rest := by
    refine ⟨hfits, hle, Or.inr ?_⟩
    unfold Incomplete
    rcases hend with rfl | ⟨-, htwo, hpos⟩
    · exact Nat.zero_lt_two.trans_le (Nat.le_add_right _ _)
    · rw [List.take_of_length_le (Nat.le_of_eq htwo), htwo]
      exact Nat.lt_add_of_pos_right hpos
  have hskip : skippedBytes (spsAnnounced record) sps rest = rest.length := by
    unfold skippedBytes
    rcases hend with rfl | ⟨hlt, htwo, -⟩
    · exact if_neg fun hboth => absurd hboth.2 (by decide)
    · rw [htwo]
      exact if_pos ⟨hlt, Nat.le_refl 2⟩
  have hlead : (record.take 6).length = 6 := List.length_take_of_le hlength
  have hsplit : record = record.take 6 ++ (prefixAll 2 sps ++ rest) := by
    rw [← hahead, List.take_append_drop]
  have hsps := sizeSets_taken (record.take 6) 0 htaken
  have hend : (record.take 6).length + (prefixAll 2 sps).length + rest.length =
      record.length := by
    calc _ = (record.take 6 ++ (prefixAll 2 sps ++ rest)).length := by
          rw [List.length_append, List.length_append, Nat.add_assoc]
      _ = record.length := by rw [← hsplit]
  rw [← hsplit, hskip, hend, hlead] at hsps
  unfold avccSize
  rw [element_spsByte hlength, ok_bind]
  show (sizeSets record (spsAnnounced record) 6 0 >>= _) = _
  rw [hsps, ok_bind]
  dsimp only
  rw [element_end]
  rfl

theorem avccParse_exists (hlength : 6 ≤ record.length) (h : ¬ EndsInSps record) :
    Nonempty (AvccParse record) := by
  rcases exists_taken (spsAnnounced record) (record.drop 6) with
    ⟨sps, rest, hahead, htaken⟩
  have hlt : skippedBytes (spsAnnounced record) sps rest < rest.length := by
    apply Nat.lt_of_le_of_ne (skippedBytes_le _ _ _)
    intro hskip
    refine h ⟨sps, rest, hahead, htaken.fits, htaken.le, ?_⟩
    unfold skippedBytes at hskip
    split at hskip
    · rename_i hboth
      have hcut := htaken.stops.resolve_left (Nat.ne_of_lt hboth.1)
      unfold Incomplete at hcut
      rw [← hskip, List.take_of_length_le (Nat.le_of_eq hskip.symm)] at hcut
      exact Or.inr ⟨hboth.1, hskip.symm, Nat.lt_add_right_iff_pos.mp hcut⟩
    · exact Or.inl (List.eq_nil_of_length_eq_zero hskip.symm)
  cases hbehind : rest.drop (skippedBytes (spsAnnounced record) sps rest) with
  | nil =>
      have hle := List.drop_eq_nil_iff.mp hbehind
      exact absurd hlt (Nat.not_lt_of_le hle)
  | cons ppsByte tail =>
      rcases exists_taken (ppsByte &&& 0xff).toNat tail with ⟨pps, last, rfl, hpps⟩
      have hrest : rest = rest.take (skippedBytes (spsAnnounced record) sps rest) ++
          (ppsByte :: (prefixAll 2 pps ++ last)) := by
        rw [← hbehind, List.take_append_drop]
      refine ⟨{
        lead := record.take 6
        lead_length := List.length_take_of_le hlength
        sps := sps
        gap := rest.take (skippedBytes (spsAnnounced record) sps rest)
        ppsByte := ppsByte
        pps := pps
        rest := last
        bytes_eq := ?_
        spsTaken := ?_
        gap_length := ?_
        ppsTaken := hpps }⟩
      · rw [← hrest, ← hahead, List.take_append_drop]
      · rw [← hrest]
        exact htaken
      · rw [← hrest]
        exact List.length_take_of_le (Nat.le_of_lt hlt)

def AvccRecord.parse (r : AvccRecord) (trailing : Bytes) :
    AvccParse (r.bytes ++ trailing) :=
  have hbytes : r.bytes ++ trailing = (r.header ++ [r.spsByte]) ++ (prefixAll 2 r.sps ++
      ([] ++ (UInt8.ofNat r.pps.length :: (prefixAll 2 r.pps ++ trailing)))) := by
    unfold AvccRecord.bytes
    simp only [List.append_assoc, List.nil_append, List.cons_append]
  have hannounced : spsAnnounced (r.bytes ++ trailing) = r.sps.length := by
    have hbyte : (r.bytes ++ trailing).getD 5 0 = r.spsByte := by
      unfold AvccRecord.bytes
      rw [List.append_assoc, List.getD_append_right _ _ _ _ (Nat.le_of_eq r.header_length),
        r.header_length]
      rfl
    unfold spsAnnounced
    rw [hbyte, r.spsCount]
  have hcount : (UInt8.ofNat r.pps.length &&& 0xff).toNat = r.pps.length := by
    rw [UInt8.toNat_and, UInt8.toNat_ofNat_of_lt' r.ppsCount]
    exact (Nat.and_two_pow_sub_one_eq_mod _ 8).trans (Nat.mod_eq_of_lt r.ppsCount)
  { lead := r.header ++ [r.spsByte]
    lead_length := by
      rw [List.length_append, r.header_length]
      rfl
    sps := r.sps
    gap := []
    ppsByte := UInt8.ofNat r.pps.length
    pps := r.pps
    rest := trailing
    bytes_eq := hbytes
    spsTaken := ⟨r.spsFit, Nat.le_of_eq hannounced.symm, Or.inl hannounced.symm⟩
    gap_length := (if_neg fun hboth =>
      absurd hboth.1 (Nat.not_lt_of_le (Nat.le_of_eq hannounced))).symm
    ppsTaken := ⟨r.ppsFit, Nat.le_of_eq hcount.symm, Or.inl hcount.symm⟩ }

/-!
## The result
-/

theorem convertAvcc_ends (alloc : Allocator) (hlength : 6 ≤ record.length)
    (h : EndsInSps record) : convertAvcc alloc record = .error .outOfRange := by
  unfold convertAvcc
  rw [avccSize_ends hlength h]
  rfl

theorem convertAvcc_parse (alloc : Allocator) (a : AvccParse record) :
    convertAvcc alloc record =
      if alloc ((markAll annexbCode (a.sps ++ a.pps)).length + inputBufferPaddingSize) then
        .ok { out := some (markAll annexbCode (a.sps ++ a.pps) ++ padding)
              outSize := (markAll annexbCode (a.sps ++ a.pps)).length }
      else .error (.returned (averror enomem)) := by
  have hcopy := a.avccCopy_eq padding (List.length_replicate (a := (0 : UInt8)))
  unfold padding at hcopy
  rw [List.replicate_append_replicate] at hcopy
  unfold convertAvcc avMallocz
  rw [a.avccSize_eq, ok_bind]
  by_cases halloc : alloc ((markAll annexbCode (a.sps ++ a.pps)).length +
      inputBufferPaddingSize) = true
  · rw [if_pos halloc, if_pos halloc]
    dsimp only
    rw [hcopy]
    rfl
  · rw [if_neg halloc, if_neg halloc]

end Record

section Acknowledged

variable {payload : Bytes} {len : Int} {view : ConfigureAckView}

theorem configureAckExtradata_avcC (alloc : Allocator) (old : AnnexbOut)
    (hview : vtremoteHandleConfigureAck payload len = .ok view)
    (hlength : 6 < view.extradata.length) (hhead : view.extradata.head? = some 1) :
    configureAckExtradata alloc .h264 payload len old =
      match convertAvcc alloc view.extradata with
      | .ok annexb => some (0, annexb)
      | .error (.returned e) => some (e.code, old)
      | .error .outOfRange => none := by
  cases view with
  | mk extradata reportedPix warnCount =>
      cases extradata with
      | nil => cases hhead
      | cons first rest =>
          have hrecord : first = 1 ∧ 6 < (first :: rest).length :=
            ⟨Option.some.inj hhead, hlength⟩
          unfold configureAckExtradata
          rw [hview]
          exact if_pos hrecord

/-- The record is read inside of its bounds just when it does not end among the
sequence parameter sets.  The second pass writes as many bytes as the first one
counted, and what comes out of a well-formed record is exact. -/
theorem avcC_conversion_iff (alloc : Allocator) (old : AnnexbOut)
    (hview : vtremoteHandleConfigureAck payload len = .ok view)
    (hlength : 6 < view.extradata.length) (hhead : view.extradata.head? = some 1) :
    ((configureAckExtradata alloc .h264 payload len old).isSome ↔
      ¬ EndsInSps view.extradata) ∧
    (forall annexbSize, avccSize view.extradata = .ok annexbSize ->
      exists annexb, annexb.length = annexbSize ∧
        forall room beyond, room.length = annexbSize ->
          avccCopy view.extradata (room ++ beyond) =
            .ok (annexb ++ beyond, annexbSize)) ∧
    (forall (r : AvccRecord) (trailing : Bytes),
      (forall size, alloc size = true) -> view.extradata = r.bytes ++ trailing ->
        exists annexb,
          configureAckExtradata alloc .h264 payload len old = some (0, annexb) ∧
          annexb.bytes = markAll [0, 0, 0, 1] (r.sps ++ r.pps) ∧
          annexb.outSize = (markAll [0, 0, 0, 1] (r.sps ++ r.pps)).length) := by
  have hsix : 6 ≤ view.extradata.length := Nat.le_of_lt hlength
  rw [configureAckExtradata_avcC alloc old hview hlength hhead]
  refine ⟨?_, ?_, ?_⟩
  · constructor
    · intro hsome hends
      rw [convertAvcc_ends alloc hsix hends] at hsome
      cases hsome
    · intro hends
      rcases avccParse_exists hsix hends with ⟨a⟩
      rw [convertAvcc_parse alloc a]
      split
      · rename_i halloc
        rfl
      · rfl
      · rename_i hout
        split at hout
        · cases hout
        · cases hout
  · intro annexbSize hsize
    rcases Classical.em (EndsInSps view.extradata) with hends | hends
    · rw [avccSize_ends hsix hends] at hsize
      cases hsize
    · rcases avccParse_exists hsix hends with ⟨a⟩
      rw [a.avccSize_eq] at hsize
      cases hsize
      exact ⟨_, rfl, fun room beyond hroom => a.avccCopy_eq beyond hroom⟩
  · intro r trailing halloc hrecord
    have hconvert := convertAvcc_parse alloc (r.parse trailing)
    rw [if_pos (halloc _)] at hconvert
    rw [hrecord, hconvert]
    exact ⟨_, rfl, List.take_left, rfl⟩

end Acknowledged

private def shortAvccRecord : AvccRecord where
  header := [1, 0x64, 0, 0x1f, 0xff]
  header_length := rfl
  version := rfl
  spsByte := 0xe1
  sps := [[0x67, 9]]
  spsCount := by decide
  spsFit := .cons (by decide) (fitting_nil 2)
  pps := [[0x68]]
  ppsCount := by decide
  ppsFit := .cons (by decide) (fitting_nil 2)

/-- An acknowledgement with a well-formed record. -/
theorem avcC_conversion_iff_short :
    exists annexb,
      configureAckExtradata (fun _ => true) .h264
        [0, 0, 14, 1, 0x64, 0, 0x1f, 0xff, 0xe1, 0, 2, 0x67, 9, 1, 0, 1, 0x68, 0, 0] 19
        ⟨none, 0⟩ = some (0, annexb) ∧
      annexb.bytes = [0, 0, 0, 1, 0x67, 9, 0, 0, 0, 1, 0x68] ∧ annexb.outSize = 11 := by
  have hview : vtremoteHandleConfigureAck
      [0, 0, 14, 1, 0x64, 0, 0x1f, 0xff, 0xe1, 0, 2, 0x67, 9, 1, 0, 1, 0x68, 0, 0] 19 =
        .ok ⟨[1, 0x64, 0, 0x1f, 0xff, 0xe1, 0, 2, 0x67, 9, 1, 0, 1, 0x68], 0, 0⟩ := by
    decide +kernel
  exact (avcC_conversion_iff (fun _ => true) ⟨none, 0⟩ hview (by decide) rfl).2.2
    shortAvccRecord [] (fun _ => rfl) rfl

/-- A record that ends with its only sequence parameter set, an empty one. -/
theorem avcC_read_behind_end :
    vtremoteHandleConfigureAck [0, 0, 8, 1, 0x64, 0, 0x1f, 0xff, 0xe1, 0, 0] 11 =
        .ok ⟨[1, 0x64, 0, 0x1f, 0xff, 0xe1, 0, 0], 0, 0⟩ ∧
      configureAckExtradata (fun _ => true) .h264
        [0, 0, 8, 1, 0x64, 0, 0x1f, 0xff, 0xe1, 0, 0] 11 ⟨none, 0⟩ = none := by
  decide +kernel

end VTRemote
