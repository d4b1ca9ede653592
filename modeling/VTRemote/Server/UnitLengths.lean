import VTRemote.Server.LengthPrefixes

/-!
# Lengths in front of units

What becomes of lengths that their fields have no room for, and of blocks that
end inside a unit.
-/

namespace VTRemote

open AnnexB

instance (n : NALLength) : NeZero n.size := ⟨Nat.ne_of_gt n.pos⟩

/-!
## Fields without room

`toLengthPrefixed` masks the bytes of a length one by one.
-/

/-- The decoder finds the units of a packet just when the length of each fits
into its field. -/
theorem readPrefixed_toLengthPrefixed_iff (m : NALLength) (annexB : List UInt8) :
    (exists sample, toLengthPrefixed annexB m.size = .ok sample ∧
      readPrefixed m.size sample = some (splitNALUnits annexB)) ↔
      forall unit, unit ∈ splitNALUnits annexB -> unit.length < 256 ^ m.size := by
  have hread := readPrefixed_prefixAll_iff m.size (splitNALUnits annexB)
  rw [toLengthPrefixed_eq]
  constructor
  · intro h
    rcases h with ⟨sample, hsample, hunits⟩
    rw [← Except.ok.inj hsample] at hunits
    exact hread.mp hunits
  · intro hfits
    exact ⟨_, rfl, hread.mpr hfits⟩

/-- A unit of 256 bytes behind a length of one byte. -/
theorem toLengthPrefixed_corrupts_unit :
    ¬ forall (m : NALLength) (annexB : List UInt8),
      exists sample, toLengthPrefixed annexB m.size = .ok sample ∧
        readPrefixed m.size sample = some (splitNALUnits annexB) := by
  intro hexact
  have hunit : splitNALUnits (List.replicate 256 0x65) =
      [List.replicate 256 0x65] := by
    decide +kernel
  rcases hexact ⟨1, by decide, by decide⟩ (List.replicate 256 0x65) with
    ⟨sample, hsample, hread⟩
  rw [toLengthPrefixed_eq] at hsample
  rw [← Except.ok.inj hsample, readPrefixed_prefixAll_iff, hunit] at hread
  have hfits := hread.head
  rw [List.length_replicate] at hfits
  exact absurd hfits (Nat.lt_irrefl 256)

/-!
## Blocks that are cut off

For lengths of four bytes `convertToAnnexB` has a branch of its own.
-/

def convertInTwoPasses (block : List UInt8) (nalLengthField : NALLength) :
    Except Failure (List UInt8) :=
  let size := annexSize nalLengthField block 0 0
  if size = 0 then .error .trapped
  else .ok (annexCopy nalLengthField block 0 (List.replicate size 0) 0)

theorem convertToAnnexB_eq (block : List UInt8) (n : NALLength) :
    convertToAnnexB block n =
      if block = [] then .error .trapped
      else if n.size = 4 then .ok (annexInPlace block 0)
      else convertInTwoPasses block n := rfl

theorem annexInPlace_length (data : List UInt8) (index : Nat) :
    (annexInPlace data index).length = data.length := by
  induction data, index using annexInPlace.induct with
  | case1 data index hlength len ih =>
      rw [annexInPlace, if_pos hlength]
      exact ih.trans (putStartCode_length data index)
  | case2 data index hlength => rw [annexInPlace, if_neg hlength]

section Block

variable {block : List UInt8} {runs : List (List UInt8)} {rest : List UInt8}

theorem annexSize_block (n : NALLength) (hruns : Fitting n.size runs)
    (hrest : Incomplete n.size rest) :
    annexSize n (prefixAll n.size runs ++ rest) 0 0 = (codeAll runs).length := by
  have hsize := annexSize_prefixAll n [] 0 hruns hrest
  rw [List.nil_append, List.length_nil, Nat.zero_add] at hsize
  exact hsize

theorem annexCopy_block (n : NALLength) (room beyond : List UInt8)
    (hruns : Fitting n.size runs) (hrest : Incomplete n.size rest)
    (hroom : room.length = (codeAll runs).length) :
    annexCopy n (prefixAll n.size runs ++ rest) 0 (room ++ beyond) 0 =
      codeAll runs ++ beyond := by
  have hcopy := annexCopy_prefixAll n [] [] beyond hruns hrest hroom
  rw [List.nil_append, List.nil_append, List.nil_append] at hcopy
  exact hcopy

theorem convertInTwoPasses_block (n : NALLength) (hruns : Fitting n.size runs)
    (hrest : Incomplete n.size rest) :
    convertInTwoPasses (prefixAll n.size runs ++ rest) n =
      if runs = [] then .error .trapped else .ok (codeAll runs) := by
  have hcopy := annexCopy_block n (List.replicate (codeAll runs).length 0) [] hruns
    hrest List.length_replicate
  rw [List.append_nil, List.append_nil] at hcopy
  unfold convertInTwoPasses
  dsimp only
  rw [annexSize_block n hruns hrest, hcopy]
  cases runs with
  | nil => rfl
  | cons run runs =>
      have hsome : (codeAll (run :: runs)).length ≠ 0 := by
        rw [length_codeAll_cons]
        omega
      rw [if_neg hsome, if_neg (List.cons_ne_nil run runs)]

/-- The branch keeps the remainder, which the two passes drop. -/
theorem annexInPlace_block_iff (rest : List UInt8) (hruns : Fitting 4 runs) :
    annexInPlace (prefixAll 4 runs ++ rest) 0 = codeAll runs ↔ rest = [] := by
  constructor
  · intro hsame
    have hlength := annexInPlace_length (prefixAll 4 runs ++ rest) 0
    rw [hsame, List.length_append, length_codeAll] at hlength
    exact List.eq_nil_of_length_eq_zero (Nat.left_eq_add.mp hlength)
  · intro h
    subst h
    have hplace := annexInPlace_prefixAll [] [] hruns
    rw [List.append_nil, List.append_nil, annexInPlace_end] at hplace
    rw [List.append_nil]
    exact hplace

theorem convertToAnnexB_block_iff (hruns : Fitting 4 runs)
    (hrest : Incomplete 4 rest) :
    convertToAnnexB (prefixAll 4 runs ++ rest) .four =
        convertInTwoPasses (prefixAll 4 runs ++ rest) .four ↔ rest = [] := by
  have hpasses := convertInTwoPasses_block .four hruns hrest
  have hplace := annexInPlace_block_iff rest hruns
  rw [convertToAnnexB_eq, if_pos (show NALLength.four.size = 4 from rfl)]
  rw [show NALLength.four.size = 4 from rfl] at hpasses
  rw [hpasses]
  cases runs with
  | nil =>
      rw [if_pos rfl]
      by_cases hempty : rest = []
      · subst hempty
        exact iff_of_true rfl rfl
      · rw [if_neg (show prefixAll 4 [] ++ rest ≠ [] from hempty)]
        exact iff_of_false (fun h => nomatch h) hempty
  | cons run runs =>
      have hnonempty : prefixAll 4 (run :: runs) ++ rest ≠ [] := by
        intro hnil
        have hlength := length_codeAll_cons run runs
        rw [length_codeAll, (List.append_eq_nil_iff.mp hnil).1, List.length_nil] at hlength
        omega
      rw [if_neg hnonempty, if_neg (List.cons_ne_nil run runs), ← hplace]
      exact ⟨Except.ok.inj, congrArg Except.ok⟩

end Block

/-- The branch for lengths of four bytes agrees with the two passes just when
the block ends with a unit, and what the second pass writes is as long as the
first one says, in whatever room. -/
theorem convertToAnnexB_four_iff (block : List UInt8) :
    (convertToAnnexB block .four = convertInTwoPasses block .four ↔
      (readPrefixed 4 block).isSome) ∧
    forall n : NALLength, exists annex,
      annex.length = annexSize n block 0 0 ∧
      forall room beyond, room.length = annexSize n block 0 0 ->
        annexCopy n block 0 (room ++ beyond) 0 = annex ++ beyond := by
  constructor
  · rcases exists_prefixAll 4 block with
      ⟨runs, rest, rfl, hruns, hrest⟩
    rw [readPrefixed_isSome_iff hruns hrest]
    exact convertToAnnexB_block_iff hruns hrest
  · intro n
    rcases exists_prefixAll n.size block with
      ⟨runs, rest, rfl, hruns, hrest⟩
    have hsize := annexSize_block n hruns hrest
    refine ⟨codeAll runs, hsize.symm, ?_⟩
    intro room beyond hroom
    exact annexCopy_block n room beyond hruns hrest (hroom.trans hsize)

/-- A byte behind the last unit. -/
theorem convertToAnnexB_keeps_remainder :
    convertToAnnexB [0, 0, 0, 1, 9, 7] .four = .ok [0, 0, 0, 1, 9, 7] ∧
      convertInTwoPasses [0, 0, 0, 1, 9, 7] .four = .ok [0, 0, 0, 1, 9] := by
  decide +kernel

end VTRemote
