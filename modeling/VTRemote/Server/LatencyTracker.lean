import Mathlib.Data.Int.Basic
import VTRemote.Library.Ring

/-!
# The latency tracker

`LatencyTracker`: the times of frames that are on their way, in a circular
buffer that doubles when it is full, and the sum, the maximum and the number of
their latencies.  A queue without bounds says what it is for.
-/

namespace VTRemote

/-!
## The tracker
-/

structure LatencyTracker where
  times : List UInt64
  head : Nat
  count : Nat
  sumNanoseconds : UInt64
  maxNanoseconds : UInt64
  sampleCount : UInt64
  head_lt : head < times.length
  count_le : count ≤ times.length

namespace LatencyTracker

def isEmpty (t : LatencyTracker) : Bool := t.count == 0

def init (initialCapacity : Int) : LatencyTracker where
  times := List.replicate (max 1 initialCapacity).toNat 0
  head := 0
  count := 0
  sumNanoseconds := 0
  maxNanoseconds := 0
  sampleCount := 0
  head_lt := by
    rw [List.length_replicate]
    exact Int.pos_iff_toNat_pos.mp (Int.lt_of_lt_of_le Int.one_pos (Int.le_max_left _ _))
  count_le := Nat.zero_le _

def growIfFull (t : LatencyTracker) : LatencyTracker :=
  if t.count = t.times.length then
    { t with
      times := t.times ++ List.replicate t.times.length 0
      head_lt := by
        rw [List.length_append]
        exact Nat.lt_of_lt_of_le t.head_lt (Nat.le_add_right _ _)
      count_le := by
        rw [List.length_append]
        exact Nat.le_trans t.count_le (Nat.le_add_right _ _) }
  else t

theorem growIfFull_lt (t : LatencyTracker) :
    t.growIfFull.count < t.growIfFull.times.length := by
  have hpos := t.head_lt
  unfold growIfFull
  split
  · rename_i hfull
    show t.count < (t.times ++ List.replicate t.times.length 0).length
    rw [List.length_append, List.length_replicate]
    omega
  · rename_i hfull
    exact Nat.lt_of_le_of_ne t.count_le hfull

def submit (t : LatencyTracker) (nowNanoseconds : UInt64) : LatencyTracker :=
  { t.growIfFull with
    times := t.growIfFull.times.set
      ((t.growIfFull.head + t.growIfFull.count) % t.growIfFull.times.length)
      nowNanoseconds
    count := t.growIfFull.count + 1
    head_lt := by
      rw [List.length_set]
      exact t.growIfFull.head_lt
    count_le := by
      rw [List.length_set]
      exact t.growIfFull_lt }

def dropFirst (t : LatencyTracker) : LatencyTracker :=
  { t with
    head := (t.head + 1) % t.times.length
    count := t.count - 1
    head_lt := Nat.mod_lt _ (Nat.lt_of_le_of_lt (Nat.zero_le _) t.head_lt)
    count_le := Nat.le_trans (Nat.sub_le _ _) t.count_le }

def output (t : LatencyTracker) (nowNanoseconds : UInt64) : LatencyTracker :=
  if t.isEmpty then t
  else
    let start := t.times.get ⟨t.head, t.head_lt⟩
    let delta := nowNanoseconds - start
    { t.dropFirst with
      sumNanoseconds := t.sumNanoseconds + delta
      sampleCount := t.sampleCount + 1
      maxNanoseconds :=
        if t.maxNanoseconds < delta then delta else t.maxNanoseconds }

def discardOne (t : LatencyTracker) : LatencyTracker :=
  if t.isEmpty then t else t.dropFirst

end LatencyTracker

inductive LatencyCall where
  | submit (nowNanoseconds : UInt64)
  | output (nowNanoseconds : UInt64)
  | discardOne
deriving DecidableEq, Repr

def LatencyTracker.step (t : LatencyTracker) : LatencyCall -> LatencyTracker
  | .submit nowNanoseconds => t.submit nowNanoseconds
  | .output nowNanoseconds => t.output nowNanoseconds
  | .discardOne => t.discardOne

/-!
## The queue
-/

/-- The submissions that were not taken yet, and the differences that were
measured. -/
structure LatencyQueue where
  pending : List UInt64 := []
  deltas : List UInt64 := []
deriving DecidableEq, Repr

def LatencyQueue.step (q : LatencyQueue) : LatencyCall -> LatencyQueue
  | .submit nowNanoseconds => { q with pending := q.pending ++ [nowNanoseconds] }
  | .output nowNanoseconds =>
      match q.pending with
      | [] => q
      | start :: pending =>
          { pending := pending, deltas := q.deltas ++ [nowNanoseconds - start] }
  | .discardOne => { q with pending := q.pending.tail }

/-!
## One call
-/

namespace LatencyTracker

variable {t : LatencyTracker} {q : LatencyQueue}

def ring (t : LatencyTracker) : Ring UInt64 := ⟨t.times, t.head, t.count, t.count_le⟩

/-- The call keeps the order of the times and the number of the samples: it does
not double a buffer that begins behind its first place, and the counter has
room. -/
def KeepsOrder (t : LatencyTracker) : LatencyCall -> Prop
  | .submit _ => t.count < t.times.length ∨ t.head = 0
  | .output _ => t.count = 0 ∨ t.sampleCount.toNat + 1 < 2 ^ 64
  | .discardOne => True

structure Tracks (t : LatencyTracker) (q : LatencyQueue) : Prop where
  pending : t.ring.toList = q.pending
  sum : t.sumNanoseconds = q.deltas.foldl (· + ·) 0
  max : t.maxNanoseconds.toNat = (q.deltas.map UInt64.toNat).foldl max 0
  number : t.sampleCount.toNat = q.deltas.length

theorem toNat_max (a b : UInt64) :
    (if a < b then b else a).toNat = max a.toNat b.toNat := by
  split
  · rename_i hlt
    exact (Nat.max_eq_right (Nat.le_of_lt (UInt64.lt_iff_toNat_lt.mp hlt))).symm
  · rename_i hge
    rw [UInt64.lt_iff_toNat_lt] at hge
    exact (Nat.max_eq_left (Nat.le_of_not_lt hge)).symm

theorem toList_growIfFull (h : t.count < t.times.length ∨ t.head = 0) :
    t.growIfFull.ring.toList = t.ring.toList := by
  unfold growIfFull
  split
  · rename_i hfull
    have hhead : t.head = 0 := h.resolve_left (Nat.not_lt_of_le (Nat.le_of_eq hfull.symm))
    exact Ring.toList_widen (r := t.ring) t.times.length hhead
  · rfl

theorem growIfFull_totals (t : LatencyTracker) :
    t.growIfFull.sumNanoseconds = t.sumNanoseconds ∧
      t.growIfFull.maxNanoseconds = t.maxNanoseconds ∧
      t.growIfFull.sampleCount = t.sampleCount := by
  unfold growIfFull
  split
  · exact ⟨rfl, rfl, rfl⟩
  · exact ⟨rfl, rfl, rfl⟩

theorem toList_submit (now : UInt64) (h : t.count < t.times.length ∨ t.head = 0) :
    (t.submit now).ring.toList = t.ring.toList ++ [now] := by
  have hroom : t.growIfFull.ring.count < t.growIfFull.ring.size := t.growIfFull_lt
  have hstored : (t.growIfFull.ring.store now).count <
      (t.growIfFull.ring.store now).size := by
    rw [Ring.size_store]
    exact hroom
  have hpush := Ring.toList_push now hroom
  rw [Ring.grow_of_lt hstored, toList_growIfFull h] at hpush
  exact hpush

theorem isEmpty_iff : t.isEmpty = true ↔ t.count = 0 := by
  unfold isEmpty
  exact beq_iff_eq

theorem isEmpty_iff_toList : t.isEmpty = true ↔ t.ring.toList = [] := by
  rw [isEmpty_iff, ← List.length_eq_zero_iff, Ring.length_toList]
  rfl

theorem toList_dropFirst (h : t.isEmpty = false) :
    t.ring.toList = t.times.get ⟨t.head, t.head_lt⟩ :: t.dropFirst.ring.toList := by
  have hcount : 0 < t.ring.count := by
    apply Nat.pos_of_ne_zero
    intro hzero
    rw [isEmpty_iff.mpr hzero] at h
    cases h
  have hslot : t.ring.slot 0 = t.times.get ⟨t.head, t.head_lt⟩ := by
    have hindex : t.ring.index 0 = t.head := Nat.mod_eq_of_lt t.head_lt
    unfold Ring.slot
    rw [hindex, List.getD_eq_getElem?_getD]
    show (t.times[t.head]?).getD default = _
    rw [List.getElem?_eq_getElem t.head_lt]
    rfl
  rw [Ring.toList_eq_cons_advance hcount, hslot]
  rfl

theorem Tracks.submit (h : Tracks t q) (now : UInt64)
    (hkeeps : t.KeepsOrder (.submit now)) :
    Tracks (t.submit now) (q.step (.submit now)) := by
  have hsame := t.growIfFull_totals
  refine ⟨?_, hsame.1.trans h.sum,
    (congrArg UInt64.toNat hsame.2.1).trans h.max, ?_⟩
  · rw [toList_submit now hkeeps, h.pending]
    rfl
  · exact (congrArg UInt64.toNat hsame.2.2).trans h.number

theorem Tracks.output (h : Tracks t q) (now : UInt64)
    (hkeeps : t.KeepsOrder (.output now)) :
    Tracks (t.output now) (q.step (.output now)) := by
  unfold LatencyTracker.output
  cases hempty : t.isEmpty with
  | true =>
      have hpending : q.pending = [] := h.pending.symm.trans (isEmpty_iff_toList.mp hempty)
      have hstep : q.step (.output now) = q := by
        unfold LatencyQueue.step
        rw [hpending]
      rw [if_pos rfl, hstep]
      exact h
  | false =>
      have hpending := h.pending.symm.trans (toList_dropFirst hempty)
      have hnumber : t.sampleCount.toNat + 1 < 2 ^ 64 := by
        rcases hkeeps with hzero | hroom
        · rw [isEmpty_iff.mpr hzero] at hempty
          cases hempty
        · exact hroom
      have hstep : q.step (.output now) =
          { pending := t.dropFirst.ring.toList
            deltas := q.deltas ++ [now - t.times.get ⟨t.head, t.head_lt⟩] } := by
        unfold LatencyQueue.step
        rw [hpending]
      rw [if_neg Bool.false_ne_true, hstep]
      refine ⟨rfl, ?_, ?_, ?_⟩
      · rw [List.foldl_append, ← h.sum]
        rfl
      · rw [List.map_append, List.foldl_append, ← h.max]
        exact toNat_max _ _
      · show (t.sampleCount + 1).toNat = _
        rw [List.length_append, ← h.number, UInt64.toNat_add]
        exact Nat.mod_eq_of_lt hnumber

theorem Tracks.discardOne (h : Tracks t q) :
    Tracks t.discardOne (q.step .discardOne) := by
  unfold LatencyTracker.discardOne
  cases hempty : t.isEmpty with
  | true =>
      have hpending : q.pending = [] := h.pending.symm.trans (isEmpty_iff_toList.mp hempty)
      have hstep : q.step .discardOne = q := by
        cases q
        cases hpending
        rfl
      rw [if_pos rfl, hstep]
      exact h
  | false =>
      have hpending := h.pending.symm.trans (toList_dropFirst hempty)
      rw [if_neg Bool.false_ne_true]
      refine ⟨?_, h.sum, h.max, h.number⟩
      show _ = q.pending.tail
      rw [hpending]
      rfl

theorem Tracks.step (h : Tracks t q) (call : LatencyCall) (hkeeps : t.KeepsOrder call) :
    Tracks (t.step call) (q.step call) := by
  cases call with
  | submit now => exact h.submit now hkeeps
  | output now => exact h.output now hkeeps
  | discardOne => exact h.discardOne

/-!
## Runs
-/

def run (t : LatencyTracker) (calls : List LatencyCall) : LatencyTracker :=
  calls.foldl step t

def KeepsOrderAlong (t : LatencyTracker) : List LatencyCall -> Prop
  | [] => True
  | call :: calls => t.KeepsOrder call ∧ (t.step call).KeepsOrderAlong calls

theorem KeepsOrderAlong.of_append {done rest : List LatencyCall}
    (h : t.KeepsOrderAlong (done ++ rest)) : t.KeepsOrderAlong done := by
  induction done generalizing t with
  | nil => trivial
  | cons call done ih => exact ⟨h.1, ih h.2⟩

theorem Tracks.run {calls : List LatencyCall} (h : Tracks t q)
    (hkeeps : t.KeepsOrderAlong calls) :
    Tracks (t.run calls) (calls.foldl LatencyQueue.step q) := by
  induction calls generalizing t q with
  | nil => exact h
  | cons call calls ih => exact ih (h.step call hkeeps.1) hkeeps.2

theorem tracks_init (initialCapacity : Int) : Tracks (init initialCapacity) {} :=
  ⟨rfl, rfl, rfl, rfl⟩

end LatencyTracker

/-- As long as every call keeps the order, the tracker is a queue without bounds,
in every state of the run. -/
theorem latencyTracker_fifo (initialCapacity : Int) {calls : List LatencyCall}
    (hkeeps : (LatencyTracker.init initialCapacity).KeepsOrderAlong calls)
    {done : List LatencyCall} (hdone : done <+: calls) :
    let t := (LatencyTracker.init initialCapacity).run done
    let q := done.foldl LatencyQueue.step {}
    t.sumNanoseconds = q.deltas.foldl (· + ·) 0 ∧
      t.maxNanoseconds.toNat = (q.deltas.map UInt64.toNat).foldl max 0 ∧
      t.sampleCount.toNat = q.deltas.length ∧
      (t.isEmpty = true ↔ q.pending = []) := by
  rcases hdone with ⟨rest, rfl⟩
  have htracks := (LatencyTracker.tracks_init initialCapacity).run hkeeps.of_append
  refine ⟨htracks.sum, htracks.max, htracks.number, ?_⟩
  rw [LatencyTracker.isEmpty_iff_toList, htracks.pending]

/-- A buffer of one place that is doubled before an output. -/
theorem latencyTracker_fifo_doubled :
    ((LatencyTracker.init 1).run [.submit 5, .submit 6, .output 10]).sumNanoseconds = 5 ∧
      ((LatencyTracker.init 1).run [.submit 5, .submit 6, .output 10]).isEmpty = false := by
  have hkeeps : (LatencyTracker.init 1).KeepsOrderAlong
      [.submit 5, .submit 6, .output 10] :=
    ⟨.inr rfl, .inr rfl, .inr (by decide), trivial⟩
  have hfifo := latencyTracker_fifo 1 hkeeps (List.prefix_refl _)
  refine ⟨hfifo.1, ?_⟩
  apply Bool.eq_false_iff.mpr
  intro hempty
  cases hfifo.2.2.2.mp hempty

/-- A buffer of two places that is doubled while it begins with the second: the
third time is read as zero. -/
theorem latencyTracker_loses_time :
    ((LatencyTracker.init 1).run [.submit 5, .submit 6, .output 10, .submit 7,
      .submit 8, .output 10, .output 10]).sumNanoseconds = 19 ∧
    (([.submit 5, .submit 6, .output 10, .submit 7, .submit 8, .output 10,
      .output 10] : List LatencyCall).foldl LatencyQueue.step {}).deltas = [5, 4, 3] ∧
    ([5, 4, 3] : List UInt64).foldl (· + ·) 0 = 12 := by
  decide +kernel

end VTRemote
