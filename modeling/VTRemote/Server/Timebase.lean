import VTRemote.Server.Messages
import VTRemote.Server.VideoToolboxCodecSession

/-!
# Ticks and times

`Timebase.time(fromTicks:)` and the `cmTime` of the VideoToolbox session.  A
product of ticks that overflows saturates; only the narrowing of the
denominator to 32 bits can trap.
-/

namespace VTRemote

/-- `ticks.multipliedReportingOverflow(by: Int64(num))`, and the bound on the
side of the ticks if it overflows. -/
def saturatingTicks (ticks : Int64) (num : Nat) : Int64 :=
  let product := ticks.toInt * num
  if Int64.minValue.toInt ≤ product ∧ product ≤ Int64.maxValue.toInt then
    Int64.ofInt product
  else if 0 ≤ ticks then Int64.maxValue
  else Int64.minValue

/-- The timescale of a time is positive. -/
structure RationalTime where
  value : Int64
  timescale : Nat
deriving DecidableEq, Repr

def RationalTime.init (value : Int64) (timescale : Nat) : RationalTime :=
  { value, timescale := max 1 timescale }

/-- `time(fromTicks:)`. -/
def Timebase.time (timebase : Timebase) (ticks : Int64) :
    Except Failure RationalTime := do
  let safe := saturatingTicks ticks timebase.num
  let timescale ← swiftInt32 timebase.den
  pure (RationalTime.init safe timescale)

structure CMTime where
  value : Int64
  timescale : Nat
deriving DecidableEq, Repr

/-- `cmTime(fromTicks:timebase:)`. -/
def cmTime (ticks : Int64) (timebase : Timebase) : Except Failure CMTime := do
  let num := max 1 timebase.num
  let den := max 1 timebase.den
  let safe := saturatingTicks ticks num
  let timescale ← swiftInt32 den
  pure { value := safe, timescale }

def swiftQuotient (a b : Int) : Except Failure Int :=
  if b = 0 ∨ Int64.maxValue.toInt < a.tdiv b then .error .trapped
  else .ok (a.tdiv b)

/-- `ticks(from:)`. -/
def Timebase.ticks (timebase : Timebase) (time : RationalTime) :
    Except Failure Int64 := do
  let targetScale := max 1 timebase.den
  let srcScale := max 1 time.timescale
  let safeMul := saturatingTicks time.value targetScale
  let scaled ← swiftQuotient safeMul.toInt srcScale
  let ticks ← swiftQuotient scaled (max 1 timebase.num : Nat)
  pure (Int64.ofInt ticks)

example : saturatingTicks 3 2 = 6 ∧ saturatingTicks (-3) (2 ^ 62) = Int64.minValue := by
  decide

theorem cmTime_trapped_iff (ticks : Int64) (timebase : Timebase) :
    cmTime ticks timebase = .error .trapped <-> 2147483647 < timebase.den := by
  unfold cmTime
  dsimp only
  rcases Nat.lt_or_ge 2147483647 timebase.den with hlt | hge
  · have hmax : 2147483647 < max 1 timebase.den :=
      Nat.lt_of_lt_of_le hlt (Nat.le_max_right _ _)
    rw [swiftInt32_of_lt hmax]
    exact iff_of_true rfl hlt
  · have hmax : max 1 timebase.den ≤ 2147483647 :=
      Nat.max_le.mpr ⟨by decide, hge⟩
    rw [swiftInt32_of_le hmax]
    exact iff_of_false (fun h => nomatch h) (Nat.not_lt_of_le hge)

theorem cmTime_of_le {timebase : Timebase} (h : timebase.den ≤ 2147483647)
    (ticks : Int64) : exists time, cmTime ticks timebase = .ok time := by
  have hmax : max 1 timebase.den ≤ 2147483647 :=
    Nat.max_le.mpr ⟨by decide, h⟩
  unfold cmTime
  dsimp only
  rw [swiftInt32_of_le hmax]
  exact ⟨_, rfl⟩

theorem Timebase.time_trapped_iff (timebase : Timebase) (ticks : Int64) :
    timebase.time ticks = .error .trapped <-> 2147483647 < timebase.den := by
  unfold Timebase.time
  dsimp only
  rcases Nat.lt_or_ge 2147483647 timebase.den with hlt | hge
  · rw [swiftInt32_of_lt hlt]
    exact iff_of_true rfl hlt
  · rw [swiftInt32_of_le hge]
    exact iff_of_false (fun h => nomatch h) (Nat.not_lt_of_le hge)

theorem tdiv_le_maxValue {a b : Int} (ha : a ≤ Int64.maxValue.toInt)
    (hb : 0 < b) : a.tdiv b ≤ Int64.maxValue.toInt := by
  rcases Int.le_total 0 a with hpos | hneg
  · exact Int.le_trans (Int.tdiv_le_self b hpos) ha
  · have hquotient := Int.tdiv_le_tdiv hb hneg
    rw [Int.zero_tdiv] at hquotient
    exact Int.le_trans hquotient (by decide)

theorem swiftQuotient_of_pos {a b : Int} (ha : a ≤ Int64.maxValue.toInt)
    (hb : 0 < b) : swiftQuotient a b = .ok (a.tdiv b) := by
  refine if_neg ?_
  intro h
  rcases h with h | h
  · exact Int.ne_of_gt hb h
  · exact Int.not_le.mpr h (tdiv_le_maxValue ha hb)

theorem Timebase.ticks_eq (timebase : Timebase) (time : RationalTime) :
    timebase.ticks time = .ok (Int64.ofInt
      (((saturatingTicks time.value (max 1 timebase.den)).toInt.tdiv
        (max 1 time.timescale : Nat)).tdiv (max 1 timebase.num : Nat))) := by
  have hpos : forall n : Nat, (0 : Int) < (max 1 n : Nat) := fun n =>
    Int.ofNat_lt.mpr (Nat.lt_of_lt_of_le Nat.one_pos (Nat.le_max_left 1 n))
  have hscaled := tdiv_le_maxValue
    (Int64.toInt_le (saturatingTicks time.value (max 1 timebase.den)))
    (hpos time.timescale)
  unfold Timebase.ticks
  dsimp only
  rw [swiftQuotient_of_pos (Int64.toInt_le _) (hpos time.timescale)]
  show (swiftQuotient _ _ >>= _) = _
  rw [swiftQuotient_of_pos hscaled (hpos timebase.num)]
  rfl

end VTRemote
