import VTRemote.Library.BigEndian

/-!
# Runs behind their lengths

Each run of bytes stands behind its length, a big-endian number of fixed width.
Any bytes are such runs and a remainder that does not start with a whole one.
A reader that has to use up its input accepts what has no remainder.
-/

namespace VTRemote

def prefixAll (lengthSize : Nat) (runs : List (List UInt8)) : List UInt8 :=
  runs.flatMap fun run => BigEndian.digits lengthSize run.length ++ run

def Fitting (lengthSize : Nat) (runs : List (List UInt8)) : Prop :=
  forall run, run ∈ runs -> run.length < 256 ^ lengthSize

/-- The length or the bytes behind it are cut off. -/
def Incomplete (lengthSize : Nat) (rest : List UInt8) : Prop :=
  rest.length < lengthSize + BigEndian.value (rest.take lengthSize)

/-- Reads lengths and runs until nothing is left. -/
def readPrefixed (lengthSize : Nat) [NeZero lengthSize] (bytes : List UInt8) :
    Option (List (List UInt8)) :=
  if bytes = [] then some []
  else
    let len := BigEndian.value (bytes.take lengthSize)
    if lengthSize + len ≤ bytes.length then
      (readPrefixed lengthSize (bytes.drop (lengthSize + len))).map
        ((bytes.drop lengthSize).take len :: ·)
    else none
termination_by bytes.length
decreasing_by
  have hpos := NeZero.pos lengthSize
  rw [List.length_drop]
  omega

def markAll (mark : List UInt8) (runs : List (List UInt8)) : List UInt8 :=
  runs.flatMap fun run => mark ++ run

variable {lengthSize : Nat} {run : List UInt8} {runs : List (List UInt8)}

theorem prefixAll_cons (lengthSize : Nat) (run : List UInt8)
    (runs : List (List UInt8)) :
    prefixAll lengthSize (run :: runs) =
      (BigEndian.digits lengthSize run.length ++ run) ++ prefixAll lengthSize runs :=
  List.flatMap_cons

theorem prefixAll_append (lengthSize : Nat) (runs runs' : List (List UInt8)) :
    prefixAll lengthSize (runs ++ runs') =
      prefixAll lengthSize runs ++ prefixAll lengthSize runs' :=
  List.flatMap_append

theorem length_prefixAll_cons (lengthSize : Nat) (run : List UInt8)
    (runs : List (List UInt8)) :
    (prefixAll lengthSize (run :: runs)).length =
      lengthSize + run.length + (prefixAll lengthSize runs).length := by
  rw [prefixAll_cons, List.length_append, List.length_append, BigEndian.digits_length]

theorem markAll_cons (mark run : List UInt8) (runs : List (List UInt8)) :
    markAll mark (run :: runs) = mark ++ (run ++ markAll mark runs) := by
  unfold markAll
  rw [List.flatMap_cons, List.append_assoc]

theorem markAll_append (mark : List UInt8) (runs runs' : List (List UInt8)) :
    markAll mark (runs ++ runs') = markAll mark runs ++ markAll mark runs' :=
  List.flatMap_append

theorem length_markAll_cons (mark run : List UInt8) (runs : List (List UInt8)) :
    (markAll mark (run :: runs)).length =
      mark.length + run.length + (markAll mark runs).length := by
  rw [markAll_cons, List.length_append, List.length_append, Nat.add_assoc]

theorem Fitting.head (h : Fitting lengthSize (run :: runs)) :
    run.length < 256 ^ lengthSize :=
  h run List.mem_cons_self

theorem Fitting.tail (h : Fitting lengthSize (run :: runs)) :
    Fitting lengthSize runs :=
  fun run hmem => h run (List.mem_cons_of_mem _ hmem)

theorem fitting_nil (lengthSize : Nat) : Fitting lengthSize [] :=
  fun _ hmem => absurd hmem List.not_mem_nil

theorem Fitting.cons (hrun : run.length < 256 ^ lengthSize)
    (hruns : Fitting lengthSize runs) : Fitting lengthSize (run :: runs) :=
  List.forall_mem_cons.mpr ⟨hrun, hruns⟩

/-!
## The remainder
-/

theorem whole_run {bytes : List UInt8}
    (h : lengthSize + BigEndian.value (bytes.take lengthSize) ≤ bytes.length) :
    exists run rest, run.length < 256 ^ lengthSize ∧
      bytes = (BigEndian.digits lengthSize run.length ++ run) ++ rest := by
  have hwidth : (bytes.take lengthSize).length = lengthSize :=
    List.length_take_of_le (Nat.le_trans (Nat.le_add_right _ _) h)
  have hrun : ((bytes.drop lengthSize).take
      (BigEndian.value (bytes.take lengthSize))).length =
        BigEndian.value (bytes.take lengthSize) := by
    apply List.length_take_of_le
    rw [List.length_drop]
    exact Nat.le_sub_of_add_le' h
  have hvalue := BigEndian.value_lt (bytes.take lengthSize)
  have hdigits := BigEndian.digits_value (bytes.take lengthSize)
  rw [hwidth] at hvalue hdigits
  refine ⟨(bytes.drop lengthSize).take (BigEndian.value (bytes.take lengthSize)),
    bytes.drop (lengthSize + BigEndian.value (bytes.take lengthSize)), ?_, ?_⟩
  · rw [hrun]
    exact hvalue
  · rw [hrun, hdigits, List.append_assoc, ← List.drop_drop, List.take_append_drop,
      List.take_append_drop]

theorem exists_prefixAll (lengthSize : Nat) [NeZero lengthSize] (bytes : List UInt8) :
    exists runs rest, bytes = prefixAll lengthSize runs ++ rest ∧
      Fitting lengthSize runs ∧ Incomplete lengthSize rest := by
  induction hlength : bytes.length using Nat.strong_induction_on generalizing bytes with
  | _ length ih =>
      rcases Nat.lt_or_ge bytes.length
          (lengthSize + BigEndian.value (bytes.take lengthSize)) with hcut | hwhole
      · exact ⟨[], bytes, rfl, fitting_nil lengthSize, hcut⟩
      · rcases whole_run hwhole with ⟨run, rest, hfits, hbytes⟩
        have hpos := NeZero.pos lengthSize
        have hshorter : rest.length < length := by
          rw [← hlength, hbytes, List.length_append, List.length_append,
            BigEndian.digits_length]
          omega
        rcases ih rest.length hshorter rest rfl with ⟨runs, last, hrest, hruns, hlast⟩
        refine ⟨run :: runs, last, ?_, hruns.cons hfits, hlast⟩
        rw [hbytes, hrest, prefixAll_cons]
        simp only [List.append_assoc]

/-!
## Reading
-/

section Reading

variable [NeZero lengthSize]

theorem readPrefixed_nil : readPrefixed lengthSize [] = some [] := by
  rw [readPrefixed, if_pos rfl]

/-- Reads as many bytes as the length says, whatever it was to say. -/
theorem readPrefixed_behind {header : List UInt8} (rest : List UInt8)
    (hheader : header.length = lengthSize)
    (hrun : run.length = BigEndian.value header) :
    readPrefixed lengthSize ((header ++ run) ++ rest) =
      (readPrefixed lengthSize rest).map (run :: ·) := by
  have hpos := NeZero.pos lengthSize
  have hnonempty : (header ++ run) ++ rest ≠ [] := by
    apply List.append_ne_nil_of_left_ne_nil
    apply List.append_ne_nil_of_left_ne_nil
    exact List.ne_nil_of_length_pos (hheader ▸ hpos)
  have hboth : (header ++ run).length = lengthSize + BigEndian.value header := by
    rw [List.length_append, hheader, hrun]
  have htake : ((header ++ run) ++ rest).take lengthSize = header := by
    rw [List.append_assoc]
    exact List.take_left' hheader
  have hdrop : ((header ++ run) ++ rest).drop lengthSize = run ++ rest := by
    rw [List.append_assoc]
    exact List.drop_left' hheader
  rw [readPrefixed, if_neg hnonempty]
  dsimp only
  rw [htake, hdrop, List.take_left' hrun, List.drop_left' hboth, if_pos]
  rw [List.length_append, hboth]
  exact Nat.le_add_right _ _

theorem readPrefixed_cons (rest : List UInt8)
    (h : run.length < 256 ^ lengthSize) :
    readPrefixed lengthSize
      ((BigEndian.digits lengthSize run.length ++ run) ++ rest) =
        (readPrefixed lengthSize rest).map (run :: ·) :=
  readPrefixed_behind rest (BigEndian.digits_length _ _)
    (BigEndian.value_digits h).symm

theorem readPrefixed_append (rest : List UInt8) (h : Fitting lengthSize runs) :
    readPrefixed lengthSize (prefixAll lengthSize runs ++ rest) =
      (readPrefixed lengthSize rest).map (runs ++ ·) := by
  induction runs with
  | nil => exact Option.map_id'.symm
  | cons run runs ih =>
      rw [prefixAll_cons, List.append_assoc, readPrefixed_cons _ h.head, ih h.tail,
        Option.map_map]
      rfl

theorem readPrefixed_incomplete {rest : List UInt8} (hrest : rest ≠ [])
    (h : Incomplete lengthSize rest) : readPrefixed lengthSize rest = none := by
  rw [readPrefixed, if_neg hrest]
  exact if_neg (Nat.not_le_of_lt h)

theorem readPrefixed_isSome_iff {rest : List UInt8} (hruns : Fitting lengthSize runs)
    (hrest : Incomplete lengthSize rest) :
    (readPrefixed lengthSize (prefixAll lengthSize runs ++ rest)).isSome ↔
      rest = [] := by
  rw [readPrefixed_append rest hruns, Option.isSome_map]
  constructor
  · intro hread
    by_contra hne
    rw [readPrefixed_incomplete hne hrest] at hread
    exact Bool.false_ne_true hread
  · intro h
    subst h
    rw [readPrefixed_nil]
    rfl

/-- A length that does not fit is read as a smaller one. -/
theorem readPrefixed_overlong (rest : List UInt8)
    (h : 256 ^ lengthSize ≤ run.length) :
    exists front, front.length < run.length ∧
      forall read, readPrefixed lengthSize
        ((BigEndian.digits lengthSize run.length ++ run) ++ rest) = some read ->
          read.head? = some front := by
  have hpos : 0 < 256 ^ lengthSize := Nat.pow_pos (by decide)
  have hmod : run.length % 256 ^ lengthSize < run.length :=
    Nat.lt_of_lt_of_le (Nat.mod_lt _ hpos) h
  have hfront : (run.take (run.length % 256 ^ lengthSize)).length =
      run.length % 256 ^ lengthSize :=
    List.length_take_of_le (Nat.le_of_lt hmod)
  refine ⟨run.take (run.length % 256 ^ lengthSize),
    Nat.lt_of_le_of_lt (Nat.le_of_eq hfront) hmod, ?_⟩
  intro read hread
  have hsplit : (BigEndian.digits lengthSize run.length ++ run) ++ rest =
      (BigEndian.digits lengthSize run.length ++
        run.take (run.length % 256 ^ lengthSize)) ++
          (run.drop (run.length % 256 ^ lengthSize) ++ rest) := by
    rw [List.append_assoc, List.append_assoc, ← List.append_assoc (List.take _ _),
      List.take_append_drop]
  rw [hsplit, readPrefixed_behind _ (BigEndian.digits_length _ _)
    (by rw [hfront, BigEndian.value_digits_mod])] at hread
  rcases Option.map_eq_some_iff.mp hread with ⟨tail, -, hcons⟩
  rw [← hcons]
  rfl

/-- The runs are read back just when each fits. -/
theorem readPrefixed_prefixAll_iff (lengthSize : Nat) [NeZero lengthSize]
    (runs : List (List UInt8)) :
    readPrefixed lengthSize (prefixAll lengthSize runs) = some runs ↔
      Fitting lengthSize runs := by
  constructor
  · intro hread
    induction runs with
    | nil => exact fitting_nil lengthSize
    | cons run runs ih =>
        rw [prefixAll_cons] at hread
        rcases Nat.lt_or_ge run.length (256 ^ lengthSize) with hfits | hlong
        · rw [readPrefixed_cons _ hfits] at hread
          rcases Option.map_eq_some_iff.mp hread with ⟨tail, htail, hcons⟩
          rw [(List.cons.inj hcons).2] at htail
          exact (ih htail).cons hfits
        · rcases readPrefixed_overlong (prefixAll lengthSize runs) hlong with
            ⟨front, hshorter, hhead⟩
          have hsame : run = front := Option.some.inj (hhead _ hread)
          rw [← hsame] at hshorter
          exact absurd hshorter (Nat.lt_irrefl _)
  · intro hfits
    have hread := readPrefixed_append [] hfits
    rw [List.append_nil, readPrefixed_nil] at hread
    rw [hread, Option.map_some, List.append_nil]

end Reading

end VTRemote
