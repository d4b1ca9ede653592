import VTRemote.Library.Markers

/-!
# NAL units behind start codes

`AnnexB.splitNALUnits`: a scanner that knows two start codes, looks ahead by
one byte more than either is long, and keeps the position behind the last one.
-/

namespace VTRemote
namespace AnnexB

/-!
## The scanner
-/

/-- `data.subdata(in: lo ..< hi)`. -/
def subdata (data : List UInt8) (lo hi : Nat) : List UInt8 := slice data lo hi

structure Scan where
  units : List (List UInt8) := []
  index : Nat := 0
  startPos : Option Nat := none
deriving DecidableEq, Repr

/-- `commit(until:)`. -/
def commit (data : List UInt8) (units : List (List UInt8))
    (startPos : Option Nat) (endPos : Nat) : List (List UInt8) :=
  match startPos with
  | some start =>
      if start < endPos then units ++ [subdata data start endPos] else units
  | none => units

/-- The check for `0x000001`. -/
def IsStartCode3 (data : List UInt8) (index : Nat) : Prop :=
  data[index]? = some 0 ∧ data[index + 1]? = some 0 ∧ data[index + 2]? = some 1

/-- The check for `0x00000001`, with its bound. -/
def IsStartCode4 (data : List UInt8) (index : Nat) : Prop :=
  index + 4 < data.length ∧ data[index]? = some 0 ∧ data[index + 1]? = some 0 ∧
    data[index + 2]? = some 0 ∧ data[index + 3]? = some 1

instance (data : List UInt8) (index : Nat) :
    Decidable (IsStartCode3 data index) :=
  inferInstanceAs (Decidable (_ ∧ _))

instance (data : List UInt8) (index : Nat) :
    Decidable (IsStartCode4 data index) :=
  inferInstanceAs (Decidable (_ ∧ _))

def scan (data : List UInt8) (s : Scan) : Scan :=
  if s.index + 3 < data.length then
    if IsStartCode3 data s.index then
      scan data
        { units := commit data s.units s.startPos s.index
          startPos := some (s.index + 3)
          index := s.index + 3 }
    else if IsStartCode4 data s.index then
      scan data
        { units := commit data s.units s.startPos s.index
          startPos := some (s.index + 4)
          index := s.index + 4 }
    else scan data { s with index := s.index + 1 }
  else s
termination_by data.length - s.index

def Scan.finish (data : List UInt8) (s : Scan) : List (List UInt8) :=
  match s.startPos with
  | some start =>
      if start < data.length then s.units ++ [subdata data start data.length]
      else s.units
  | none => s.units ++ [data]

def splitNALUnits (data : List UInt8) : List (List UInt8) :=
  (scan data {}).finish data

example : splitNALUnits [0, 0, 0, 1, 0x65, 1, 2, 3, 0, 0, 1, 0x41, 4] =
    [[0x65, 1, 2, 3], [0x41, 4]] := by
  decide +kernel

/-!
## One round of the loop
-/

section Round

variable {data : List UInt8} {units : List (List UInt8)} {index : Nat}
variable {startPos : Option Nat}

theorem scan_stop (h : data.length ≤ index + 3) :
    scan data ⟨units, index, startPos⟩ = ⟨units, index, startPos⟩ := by
  rw [scan, if_neg (Nat.not_lt_of_le h)]

theorem scan_code3 (hlook : index + 3 < data.length) (h : IsStartCode3 data index) :
    scan data ⟨units, index, startPos⟩ =
      scan data ⟨commit data units startPos index, index + 3, some (index + 3)⟩ := by
  rw [scan, if_pos hlook, if_pos h]

theorem scan_code4 (h3 : ¬ IsStartCode3 data index) (h : IsStartCode4 data index) :
    scan data ⟨units, index, startPos⟩ =
      scan data ⟨commit data units startPos index, index + 4, some (index + 4)⟩ := by
  have hlook : index + 3 < data.length := Nat.lt_of_succ_lt h.1
  rw [scan, if_pos hlook, if_neg h3, if_pos h]

theorem scan_next (hlook : index + 3 < data.length)
    (h3 : ¬ IsStartCode3 data index) (h4 : ¬ IsStartCode4 data index) :
    scan data ⟨units, index, startPos⟩ = scan data ⟨units, index + 1, startPos⟩ := by
  rw [scan, if_pos hlook, if_neg h3, if_neg h4]

end Round

/-!
## Start codes
-/

inductive StartCode where
  | three
  | four
deriving DecidableEq, Repr

def StartCode.zeros : StartCode -> Nat
  | .three => 2
  | .four => 3

def StartCode.bytes (code : StartCode) : List UInt8 := marker 0 1 code.zeros

theorem StartCode.bytes_length (code : StartCode) :
    code.bytes.length = code.zeros + 1 := by
  cases code with
  | three => rfl
  | four => rfl

theorem isStartCode3_iff {front rest : List UInt8} :
    IsStartCode3 (front ++ rest) front.length <-> marker 0 1 2 <+: rest := by
  unfold IsStartCode3
  rw [List.getElem?_append_right (Nat.le_refl _)]
  rw [List.getElem?_append_right (Nat.le_add_right _ _)]
  rw [List.getElem?_append_right (Nat.le_add_right _ _)]
  rw [Nat.sub_self, Nat.add_sub_cancel_left, Nat.add_sub_cancel_left]
  constructor
  · intro h
    rcases h with ⟨h0, h1, h2⟩
    match rest with
    | [] => cases h0
    | [_] => cases h1
    | [_, _] => cases h2
    | a :: b :: c :: tail =>
        cases h0
        cases h1
        cases h2
        exact ⟨tail, rfl⟩
  · intro h
    rcases h with ⟨tail, rfl⟩
    exact ⟨rfl, rfl, rfl⟩

theorem isStartCode4_iff {front rest : List UInt8} :
    IsStartCode4 (front ++ rest) front.length <->
      4 < rest.length ∧ marker 0 1 3 <+: rest := by
  unfold IsStartCode4
  rw [List.length_append, Nat.add_lt_add_iff_left]
  apply and_congr_right
  intro _
  rw [List.getElem?_append_right (Nat.le_refl _)]
  rw [List.getElem?_append_right (Nat.le_add_right _ _)]
  rw [List.getElem?_append_right (Nat.le_add_right _ _)]
  rw [List.getElem?_append_right (Nat.le_add_right _ _)]
  rw [Nat.sub_self, Nat.add_sub_cancel_left, Nat.add_sub_cancel_left,
    Nat.add_sub_cancel_left]
  constructor
  · intro h
    rcases h with ⟨h0, h1, h2, h3⟩
    match rest with
    | [] => cases h0
    | [_] => cases h1
    | [_, _] => cases h2
    | [_, _, _] => cases h3
    | a :: b :: c :: d :: tail =>
        cases h0
        cases h1
        cases h2
        cases h3
        exact ⟨tail, rfl⟩
  · intro h
    rcases h with ⟨tail, rfl⟩
    exact ⟨rfl, rfl, rfl, rfl⟩

/-!
## Gaps
-/

theorem finish_scan_gap {data gap : List UInt8} (hgap : MarkerFree 0 1 2 gap)
    (front : List UInt8) {rest : List UInt8} (hdata : data = front ++ (gap ++ rest))
    (units : List (List UInt8)) (startPos : Option Nat) :
    (scan data ⟨units, front.length, startPos⟩).finish data =
      (scan data ⟨units, (front ++ gap).length, startPos⟩).finish data := by
  induction gap generalizing front with
  | nil => rw [List.append_nil]
  | cons byte gap ih =>
      rcases Nat.lt_or_ge (front.length + 3) data.length with hlook | hend
      · have h3 : ¬ IsStartCode3 data front.length := by
          rw [hdata, isStartCode3_iff]
          exact hgap.not_marker (List.cons_ne_nil byte gap)
        have h4 : ¬ IsStartCode4 data front.length := by
          rw [hdata, isStartCode4_iff]
          intro h
          rcases h with ⟨_, hmarker⟩
          exact hgap.succ.not_marker (List.cons_ne_nil byte gap) hmarker
        have htail := ih (hgap.of_suffix (List.suffix_cons byte gap))
          (front ++ [byte])
        rw [List.length_append, List.length_singleton] at htail
        rw [scan_next hlook h3 h4, htail]
        · rw [List.append_assoc, List.singleton_append]
        · rw [hdata, List.append_assoc]
          rfl
      · have hlen : front.length ≤ (front ++ (byte :: gap)).length := by
          rw [List.length_append]
          exact Nat.le_add_right _ _
        rw [scan_stop hend, scan_stop (Nat.le_trans hend (Nat.add_le_add_right hlen 3))]
        rfl

/-- The scanner commits what lies in front of a start code. -/
theorem scan_startCode {data rest : List UInt8} (hrest : rest ≠ [])
    (code : StartCode) {front : List UInt8}
    (hdata : data = front ++ (code.bytes ++ rest)) (units : List (List UInt8))
    (startPos : Option Nat) :
    scan data ⟨units, front.length, startPos⟩ =
      scan data
        ⟨commit data units startPos front.length, (front ++ code.bytes).length,
          some (front ++ code.bytes).length⟩ := by
  have hpos := List.length_pos_of_ne_nil hrest
  have hlength : (front ++ code.bytes).length = front.length + (code.zeros + 1) := by
    rw [List.length_append, code.bytes_length]
  have hroom : front.length + (code.zeros + 1) < data.length := by
    rw [hdata, ← List.append_assoc, List.length_append, hlength]
    exact Nat.lt_add_of_pos_right hpos
  rw [hlength]
  cases code with
  | three =>
      apply scan_code3 hroom
      rw [hdata, isStartCode3_iff]
      exact List.prefix_append _ _
  | four =>
      have hno3 : ¬ IsStartCode3 data front.length := by
        intro h
        rcases h with ⟨_, _, hthird⟩
        rw [hdata, List.getElem?_append_right (Nat.le_add_right _ _)] at hthird
        rw [Nat.add_sub_cancel_left] at hthird
        cases hthird
      apply scan_code4 hno3
      rw [hdata, isStartCode4_iff]
      refine ⟨?_, List.prefix_append _ _⟩
      rw [hdata, List.length_append] at hroom
      exact Nat.lt_of_add_lt_add_left hroom

/-!
## The grammar
-/

/-- A NAL unit: it hides no start code. -/
structure NALUnit where
  bytes : List UInt8
  nonempty : bytes ≠ []
  noZeros : ¬ [0, 0, 0] <:+: bytes
  noStartCode : ¬ [0, 0, 1] <:+: bytes
  ending : bytes.getLast? ≠ some 0

theorem NALUnit.markerFree (unit : NALUnit) : MarkerFree 0 1 2 unit.bytes where
  absent := unit.noStartCode
  ending := unit.ending

def annexB (units : List (StartCode × NALUnit)) : List UInt8 :=
  units.flatMap fun unit => unit.1.bytes ++ unit.2.bytes

theorem finish_scan_units (ahead : List (StartCode × NALUnit)) (unit : NALUnit)
    {data front : List UInt8}
    (hdata : data = front ++ (unit.bytes ++ annexB ahead))
    (units : List (List UInt8)) :
    (scan data ⟨units, (front ++ unit.bytes).length, some front.length⟩).finish data =
      units ++ unit.bytes :: ahead.map fun next => next.2.bytes := by
  have hpos := List.length_pos_of_ne_nil unit.nonempty
  have hlt : front.length < (front ++ unit.bytes).length := by
    rw [List.length_append]
    exact Nat.lt_add_of_pos_right hpos
  have hslice : subdata data front.length (front ++ unit.bytes).length = unit.bytes := by
    rw [hdata, List.length_append]
    exact slice_middle front unit.bytes (annexB ahead)
  induction ahead generalizing unit front units with
  | nil =>
      have hend : data.length = (front ++ unit.bytes).length := by
        rw [hdata]
        unfold annexB
        rw [List.flatMap_nil, List.append_nil]
      rw [scan_stop (by rw [hend]; exact Nat.le_add_right _ 3)]
      unfold Scan.finish
      dsimp only
      rw [hend, if_pos hlt, hslice]
      rfl
  | cons next ahead ih =>
      rcases next with ⟨code, next⟩
      have hahead : annexB ((code, next) :: ahead) =
          code.bytes ++ (next.bytes ++ annexB ahead) := by
        unfold annexB
        rw [List.flatMap_cons, List.append_assoc]
      have hfront : data = (front ++ unit.bytes) ++
          (code.bytes ++ (next.bytes ++ annexB ahead)) := by
        rw [hdata, hahead, List.append_assoc]
      have hbehind : data = ((front ++ unit.bytes) ++ code.bytes) ++
          (next.bytes ++ annexB ahead) := by
        rw [hfront, List.append_assoc (front ++ unit.bytes)]
      rw [scan_startCode (List.append_ne_nil_of_left_ne_nil next.nonempty _) code
        hfront]
      rw [finish_scan_gap next.markerFree _ hbehind]
      have hnext := List.length_pos_of_ne_nil next.nonempty
      have hlength : (((front ++ unit.bytes) ++ code.bytes) ++ next.bytes).length =
          ((front ++ unit.bytes) ++ code.bytes).length + next.bytes.length :=
        List.length_append
      rw [ih next hbehind (commit data units (some front.length) _) hnext]
      · unfold commit
        dsimp only
        rw [if_pos hlt, hslice, List.append_assoc]
        rfl
      · rw [hlength]
        exact Nat.lt_add_of_pos_right hnext
      · rw [hlength, hbehind]
        exact slice_middle _ next.bytes (annexB ahead)

/-- Bytes in front of the first start code: they contain none and do not end in
zero. -/
structure Leading (lead : List UInt8) : Prop where
  noStartCode3 : ¬ StartCode.three.bytes <:+: lead
  noStartCode4 : ¬ StartCode.four.bytes <:+: lead
  ending : lead.getLast? ≠ some 0

theorem Leading.markerFree {lead : List UInt8} (h : Leading lead) :
    MarkerFree 0 1 2 lead where
  absent := h.noStartCode3
  ending := h.ending

theorem splitNALUnits_annexB {lead : List UInt8} (hlead : Leading lead)
    {units : List (StartCode × NALUnit)} (hunits : units ≠ []) :
    splitNALUnits (lead ++ annexB units) = units.map fun unit => unit.2.bytes := by
  cases units with
  | nil => exact absurd rfl hunits
  | cons first ahead =>
      rcases first with ⟨code, first⟩
      have hfirst : annexB ((code, first) :: ahead) =
          code.bytes ++ (first.bytes ++ annexB ahead) := by
        unfold annexB
        rw [List.flatMap_cons, List.append_assoc]
      rw [hfirst]
      generalize hdata : lead ++ (code.bytes ++ (first.bytes ++ annexB ahead)) = data
      have hbehind : data = (lead ++ code.bytes) ++ (first.bytes ++ annexB ahead) := by
        rw [← hdata, List.append_assoc]
      unfold splitNALUnits
      have hgap := finish_scan_gap hlead.markerFree [] hdata.symm [] none
      rw [List.nil_append] at hgap
      refine Eq.trans hgap ?_
      rw [scan_startCode (List.append_ne_nil_of_left_ne_nil first.nonempty _) code
        hdata.symm]
      rw [finish_scan_gap first.markerFree _ hbehind]
      exact finish_scan_units ahead first hbehind []

/-!
## Any bytes
-/

/-- What the loop keeps: the units so far are slices in front of the last start
code, with bytes behind it. -/
def Scan.Sliced (data : List UInt8) (s : Scan) : Prop :=
  match s.startPos with
  | some start => start < data.length ∧ start ≤ s.index ∧
      exists ends, Slices data start s.units ends
  | none => s.units = []

theorem commit_sliced {data : List UInt8} {s : Scan} (h : s.Sliced data) :
    exists ends, Slices data s.index (commit data s.units s.startPos s.index) ends := by
  unfold Scan.Sliced at h
  cases hstart : s.startPos with
  | none =>
      rw [hstart] at h
      rw [commit, h]
      exact ⟨[], .nil data s.index⟩
  | some start =>
      rw [hstart] at h
      rcases h with ⟨_, hle, ends, hends⟩
      unfold commit
      dsimp only
      split
      · rename_i hlt
        exact ⟨ends ++ [(start, s.index)], hends.snoc hlt⟩
      · exact ⟨ends, hends.mono hle⟩

theorem scan_sliced {data : List UInt8} {s : Scan} (h : s.Sliced data) :
    (scan data s).Sliced data := by
  induction s using scan.induct data with
  | case1 s hlook h3 ih =>
      rw [scan, if_pos hlook, if_pos h3]
      apply ih
      rcases commit_sliced h with ⟨ends, hends⟩
      exact ⟨hlook, Nat.le_refl _, ends, hends.mono (Nat.le_add_right _ 3)⟩
  | case2 s hlook h3 h4 ih =>
      rw [scan, if_pos hlook, if_neg h3, if_pos h4]
      apply ih
      rcases commit_sliced h with ⟨ends, hends⟩
      exact ⟨h4.1, Nat.le_refl _, ends, hends.mono (Nat.le_add_right _ 4)⟩
  | case3 s hlook h3 h4 ih =>
      rw [scan, if_pos hlook, if_neg h3, if_neg h4]
      apply ih
      unfold Scan.Sliced at h ⊢
      dsimp only
      split at h
      · exact ⟨h.1, Nat.le_succ_of_le h.2.1, h.2.2⟩
      · exact h
  | case4 s hend =>
      rw [scan, if_neg hend]
      exact h

/-- Whatever the bytes are, the units are slices of them in their order. -/
theorem splitNALUnits_slices {data : List UInt8} (hdata : data ≠ []) :
    exists ends, Slices data data.length (splitNALUnits data) ends ∧ ends ≠ [] := by
  have hsliced : (scan data {}).Sliced data := scan_sliced rfl
  unfold splitNALUnits Scan.finish
  unfold Scan.Sliced at hsliced
  split at hsliced
  · rename_i start hstart
    rcases hsliced with ⟨hlt, _, ends, hends⟩
    rw [if_pos hlt]
    exact ⟨ends ++ [(start, data.length)], hends.snoc hlt,
      List.append_ne_nil_of_right_ne_nil ends (List.cons_ne_nil _ [])⟩
  · rw [hsliced]
    have hwhole := (Slices.nil data 0).snoc (List.length_pos_of_ne_nil hdata)
    have hslice : slice data 0 data.length = data := by
      unfold slice
      rw [List.take_length, List.drop_zero]
    rw [hslice] at hwhole
    exact ⟨_, hwhole, List.cons_ne_nil _ []⟩

/-- The scanner returns the units of what follows the grammar, and slices of
anything: in order, without overlap, and not empty unless the bytes are. -/
theorem splitNALUnits_grammar :
    (forall (lead : List UInt8) (units : List (StartCode × NALUnit)),
      Leading lead -> units ≠ [] ->
      splitNALUnits (lead ++ annexB units) = units.map fun unit => unit.2.bytes) ∧
    (forall data : List UInt8, exists ends : List (Nat × Nat),
      (splitNALUnits data = ends.map fun e => subdata data e.1 e.2) ∧
      (forall e, e ∈ ends -> e.1 ≤ e.2 ∧ e.2 ≤ data.length) ∧
      (ends.Pairwise fun e e' => e.2 ≤ e'.1) ∧
      (data ≠ [] -> ends ≠ [] ∧ forall e, e ∈ ends -> e.1 < e.2)) := by
  constructor
  · intro lead units hlead hunits
    exact splitNALUnits_annexB hlead hunits
  · intro data
    rcases eq_or_ne data [] with rfl | hdata
    · refine ⟨[(0, 0)], by decide +kernel, ?_, List.pairwise_singleton _ _, ?_⟩
      · intro e he
        rw [List.mem_singleton.mp he]
        exact ⟨Nat.le_refl 0, Nat.le_refl 0⟩
      · exact fun h => absurd rfl h
    · rcases splitNALUnits_slices hdata with ⟨ends, hends, hne⟩
      exact ⟨ends, hends.pieces_eq,
        fun e he => ⟨Nat.le_of_lt (hends.nonempty e he), hends.within e he⟩,
        hends.ordered, fun _ => ⟨hne, hends.nonempty⟩⟩

/-- Two units of one byte, behind bytes that start none. -/
theorem splitNALUnits_grammar_short :
    splitNALUnits [9, 0, 0, 1, 0x65, 0, 0, 0, 1, 0x41] = [[0x65], [0x41]] ∧
      exists ends : List (Nat × Nat),
        (splitNALUnits [0, 0, 1] = ends.map fun e => subdata [0, 0, 1] e.1 e.2) ∧
        (forall e, e ∈ ends -> e.1 ≤ e.2 ∧ e.2 ≤ 3) ∧
        (ends.Pairwise fun e e' => e.2 ≤ e'.1) ∧
        ends ≠ [] ∧ forall e, e ∈ ends -> e.1 < e.2 := by
  constructor
  · exact splitNALUnits_grammar.1 [9]
      [(.three, ⟨[0x65], by decide, by decide, by decide, by decide⟩),
        (.four, ⟨[0x41], by decide, by decide, by decide, by decide⟩)]
      ⟨by decide, by decide, by decide⟩ (List.cons_ne_nil _ _)
  · rcases splitNALUnits_grammar.2 [0, 0, 1] with
      ⟨ends, hsplit, hwithin, hordered, hnonempty⟩
    exact ⟨ends, hsplit, hwithin, hordered, hnonempty (List.cons_ne_nil 0 [0, 1])⟩

end AnnexB
end VTRemote
