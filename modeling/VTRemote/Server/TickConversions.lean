import VTRemote.Server.Timebase
import VTRemote.Server.TimestampRuns

/-!
# From ticks to times and back

`ticks(from:)` multiplies by the denominator before it divides, and saturates
where the product leaves 64 bits.  It is the inverse of `time(fromTicks:)` up to
there and loses ticks beyond.
-/

namespace VTRemote

def FitsInt64 (n : Int) : Prop :=
  Int64.minValue.toInt ≤ n ∧ n ≤ Int64.maxValue.toInt

instance (n : Int) : Decidable (FitsInt64 n) :=
  inferInstanceAs (Decidable (_ ∧ _))

theorem fitsInt64_toInt (ticks : Int64) : FitsInt64 ticks.toInt :=
  ⟨ticks.minValue_le_toInt, ticks.toInt_le⟩

theorem toInt_ofInt_of_fits {n : Int} (h : FitsInt64 n) :
    (Int64.ofInt n).toInt = n := by
  rcases h with ⟨hmin, hmax⟩
  rw [Int64.toInt_minValue] at hmin
  rw [Int64.toInt_maxValue] at hmax
  exact Int64.toInt_ofInt_of_le (by omega) (by omega)

/-!
## Products that saturate
-/

theorem saturatingTicks_of_fits {ticks : Int64} {num : Nat}
    (h : FitsInt64 (ticks.toInt * num)) :
    saturatingTicks ticks num = Int64.ofInt (ticks.toInt * num) :=
  if_pos h

theorem saturatingTicks_natAbs_lt {ticks : Int64} {num : Nat}
    (h : ¬ FitsInt64 (ticks.toInt * num)) :
    (saturatingTicks ticks num).toInt.natAbs < (ticks.toInt * num).natAbs := by
  have hsaturated : saturatingTicks ticks num =
      if 0 ≤ ticks then Int64.maxValue else Int64.minValue := if_neg h
  have hnum : (0 : Int) ≤ num := Int.natCast_nonneg num
  rw [hsaturated]
  unfold FitsInt64 at h
  rw [Int64.toInt_minValue, Int64.toInt_maxValue] at h
  split
  · rename_i hsign
    have hpos : (0 : Int) ≤ ticks.toInt := Int64.le_iff_toInt_le.mp hsign
    have hproduct := Int.mul_nonneg hpos hnum
    rw [Int64.toInt_maxValue]
    omega
  · rename_i hsign
    have hneg : ticks.toInt ≤ 0 := by
      rw [Int64.not_le, Int64.lt_iff_toInt_lt] at hsign
      exact Int.le_of_lt hsign
    have hproduct := Int.mul_nonpos_of_nonpos_of_nonneg hneg hnum
    rw [Int64.toInt_minValue]
    omega

theorem tdiv_tdiv_cancel (ticks : Int) {num den : Nat} (hnum : 1 ≤ num)
    (hden : 1 ≤ den) :
    ((ticks * num * den).tdiv (den : Int)).tdiv (num : Int) = ticks := by
  rw [Int.mul_tdiv_cancel _ (by omega)]
  exact Int.mul_tdiv_cancel ticks (by omega)

theorem tdiv_tdiv_natAbs_lt {product ticks : Int} {num den : Nat}
    (h : product.natAbs < (ticks * num * den).natAbs) :
    ((product.tdiv (den : Int)).tdiv (num : Int)).natAbs < ticks.natAbs := by
  rw [Int.natAbs_tdiv, Int.natAbs_tdiv, Int.natAbs_natCast, Int.natAbs_natCast]
  show product.natAbs / den / num < _
  rw [Nat.div_div_eq_div_mul]
  rw [Int.natAbs_mul, Int.natAbs_mul, Int.natAbs_natCast, Int.natAbs_natCast] at h
  apply Nat.div_lt_of_lt_mul
  calc product.natAbs < ticks.natAbs * num * den := h
    _ = den * num * ticks.natAbs := by ring

/-!
## The way back
-/

/-- The ticks of a frame behind the encoder session, which returns the time it
was given. -/
def sessionTicks (timebase : Timebase) (ticks : Int64) : Except Failure Int64 := do
  let time ← cmTime ticks timebase
  timebase.ticks (RationalTime.init time.value time.timescale)

example : sessionTicks { num := 1001, den := 30000 } (-7) = .ok (-7) := by decide

section Conversion

variable {timebase : Timebase}
variable (hnum : 1 ≤ timebase.num) (hden : 1 ≤ timebase.den)
variable (hmax : timebase.den ≤ 2147483647)
include hnum hden hmax

theorem sessionTicks_eq (ticks : Int64) :
    sessionTicks timebase ticks = timebase.time ticks >>= timebase.ticks := by
  unfold sessionTicks cmTime Timebase.time
  dsimp only
  rw [Nat.max_eq_right hnum, Nat.max_eq_right hden, swiftInt32_of_le hmax]
  rfl

theorem sessionTicks_of_fits {ticks : Int64}
    (hfits : FitsInt64 (ticks.toInt * timebase.num))
    (hproduct : FitsInt64 (ticks.toInt * timebase.num * timebase.den)) :
    sessionTicks timebase ticks = .ok ticks := by
  rw [sessionTicks_eq hnum hden hmax]
  unfold Timebase.time
  rw [swiftInt32_of_le hmax]
  show timebase.ticks _ = _
  rw [timebase.ticks_eq]
  unfold RationalTime.init
  dsimp only
  rw [Nat.max_eq_right hnum, Nat.max_eq_right hden, Nat.max_eq_right hden]
  rw [saturatingTicks_of_fits hfits]
  have hvalue := toInt_ofInt_of_fits hfits
  rw [saturatingTicks_of_fits (by rw [hvalue]; exact hproduct), hvalue]
  rw [toInt_ofInt_of_fits hproduct, tdiv_tdiv_cancel ticks.toInt hnum hden]
  rw [Int64.ofInt_toInt]

theorem sessionTicks_of_overflow {ticks : Int64}
    (hfits : FitsInt64 (ticks.toInt * timebase.num))
    (hproduct : ¬ FitsInt64 (ticks.toInt * timebase.num * timebase.den)) :
    sessionTicks timebase ticks ≠ .ok ticks := by
  rw [sessionTicks_eq hnum hden hmax]
  unfold Timebase.time
  rw [swiftInt32_of_le hmax]
  show timebase.ticks _ ≠ _
  rw [timebase.ticks_eq]
  unfold RationalTime.init
  dsimp only
  rw [Nat.max_eq_right hnum, Nat.max_eq_right hden, Nat.max_eq_right hden]
  rw [saturatingTicks_of_fits hfits]
  generalize hvalue : Int64.ofInt (ticks.toInt * timebase.num) = value
  have hvalue' : value.toInt = ticks.toInt * timebase.num :=
    hvalue ▸ toInt_ofInt_of_fits hfits
  have hlt := saturatingTicks_natAbs_lt (hvalue'.symm ▸ hproduct)
  rw [hvalue'] at hlt
  have hsmall := tdiv_tdiv_natAbs_lt hlt
  intro h
  have hback := congrArg Int64.toInt (Except.ok.inj h)
  have hrange : FitsInt64 (((saturatingTicks value timebase.den).toInt.tdiv
      (timebase.den : Int)).tdiv (timebase.num : Int)) := by
    have hticks := fitsInt64_toInt ticks
    unfold FitsInt64 at hticks ⊢
    rw [Int64.toInt_minValue, Int64.toInt_maxValue] at hticks ⊢
    omega
  rw [toInt_ofInt_of_fits hrange] at hback
  rw [hback] at hsmall
  exact Nat.lt_irrefl _ hsmall

theorem sessionTicks_eq_self_iff {ticks : Int64}
    (hfits : FitsInt64 (ticks.toInt * timebase.num)) :
    sessionTicks timebase ticks = .ok ticks <->
      FitsInt64 (ticks.toInt * timebase.num * timebase.den) := by
  constructor
  · intro h
    by_contra hproduct
    exact sessionTicks_of_overflow hnum hden hmax hfits hproduct h
  · exact sessionTicks_of_fits hnum hden hmax hfits

end Conversion

/-!
## The tracker behind the session
-/

namespace TimestampTracker

theorem after_lastPtsTicks {t t' : TimestampTracker} {calls : List Call}
    (h : t.after calls = .ok t') :
    t'.lastPtsTicks =
      (calls.map Call.ptsTicks).getLast?.getD t.lastPtsTicks := by
  induction calls generalizing t with
  | nil =>
      cases h
      rfl
  | cons call calls ih =>
      rw [after] at h
      split at h
      · rename_i result next hprocess
        have hnext : next.lastPtsTicks = call.ptsTicks := by
          cases result with
          | skip =>
              rcases process_eq_skip hprocess with ⟨hdup, rfl⟩
              exact hdup.1.symm
          | emit dts =>
              rcases process_eq_emit hprocess with ⟨_, _, rfl⟩
              rfl
        rw [ih h, List.map_cons, List.getLast?_cons, Option.getD_some, hnext]
      · cases h

theorem not_duplicate_of_nodup {t t' : TimestampTracker} {call : Call}
    {calls before : List Call} (hnodup : (calls.map Call.ptsTicks).Nodup)
    (hreach : t.reset.Reaches calls before call t') : ¬ t'.Duplicate call := by
  rcases hreach with ⟨⟨rest, rfl⟩, hafter⟩
  rw [duplicate_iff (after_lastPtsTicks hafter)]
  intro h
  rcases h with ⟨hlast, _⟩
  have hmem := List.mem_of_getLast? hlast
  rw [List.map_append, List.map_cons, List.nodup_append] at hnodup
  exact hnodup.2.2 _ hmem _ List.mem_cons_self rfl

end TimestampTracker

open TimestampTracker

/-- The ticks survive: each comes back from its time, no two become equal behind
the session, and the tracker skips none of them. -/
structure TicksSurvive (timebase : Timebase) (ticks : List Int64) : Prop where
  roundTrip : forall t, t ∈ ticks ->
    timebase.time t >>= timebase.ticks = .ok t
  distinct : forall t t', t ∈ ticks -> t' ∈ ticks -> t ≠ t' ->
    sessionTicks timebase t ≠ sessionTicks timebase t'
  kept : forall calls before call tracker tracker',
    List.Forall₂ (fun t call => sessionTicks timebase t = .ok call.ptsTicks)
      ticks calls ->
    (reset {}).Reaches calls before call tracker ->
    tracker.process call.ptsTicks call.dtsTicks ≠ .ok (.skip, tracker')

/-- Different ticks survive exactly if no product with both numbers of the time
base overflows. -/
theorem ticks_survive_iff (timebase : Timebase) (ticks : List Int64)
    (hnum : 1 ≤ timebase.num) (hden : 1 ≤ timebase.den)
    (hmax : timebase.den ≤ 2147483647) (hdistinct : ticks.Nodup)
    (hfits : forall t, t ∈ ticks -> FitsInt64 (t.toInt * timebase.num)) :
    TicksSurvive timebase ticks <->
      forall t, t ∈ ticks ->
        FitsInt64 (t.toInt * timebase.num * timebase.den) := by
  constructor
  · intro h t hmem
    apply (sessionTicks_eq_self_iff hnum hden hmax (hfits t hmem)).mp
    rw [sessionTicks_eq hnum hden hmax]
    exact h.roundTrip t hmem
  · intro hproduct
    have hsame : forall t, t ∈ ticks -> sessionTicks timebase t = .ok t :=
      fun t hmem =>
        sessionTicks_of_fits hnum hden hmax (hfits t hmem) (hproduct t hmem)
    refine ⟨?_, ?_, ?_⟩
    · intro t hmem
      rw [← sessionTicks_eq hnum hden hmax]
      exact hsame t hmem
    · intro t t' ht ht' hne heq
      rw [hsame t ht, hsame t' ht'] at heq
      exact hne (Except.ok.inj heq)
    · intro calls before call tracker tracker' hcalls hreach hskip
      have hpts : calls.map Call.ptsTicks = ticks := by
        clear hreach hdistinct hfits hproduct
        induction hcalls with
        | nil => rfl
        | cons hhead _ ih =>
            rw [hsame _ List.mem_cons_self] at hhead
            rw [List.map_cons, ← Except.ok.inj hhead]
            rw [ih (fun t hmem => hsame t (List.mem_cons_of_mem _ hmem))]
      exact not_duplicate_of_nodup (hpts.symm ▸ hdistinct) hreach
        (process_eq_skip hskip).1

/-- With ticks of a nanosecond two frames at ten seconds become one. -/
theorem ticks_survive_fails :
    (forall t, t ∈ [(10000000000 : Int64), 10000000001] ->
      FitsInt64 (t.toInt * (1 : Nat))) ∧
      ¬ TicksSurvive { num := 1, den := 1000000000 }
        [10000000000, 10000000001] := by
  refine ⟨List.forall_mem_cons.mpr
    ⟨by decide, List.forall_mem_singleton.mpr (by decide)⟩, ?_⟩
  intro h
  have hdistinct := h.distinct 10000000000 10000000001 (by decide) (by decide)
    (by decide)
  revert hdistinct
  decide

theorem ticks_survive_iff_nanoseconds :
    TicksSurvive { num := 1, den := 1000000000 } [9000000000, -3] <->
      forall t, t ∈ [(9000000000 : Int64), -3] ->
        FitsInt64 (t.toInt * (1 : Nat) * (1000000000 : Nat)) :=
  ticks_survive_iff { num := 1, den := 1000000000 } [9000000000, -3] (by decide)
    (by decide) (by decide) (by decide) (List.forall_mem_cons.mpr
      ⟨by decide, List.forall_mem_singleton.mpr (by decide)⟩)

end VTRemote
