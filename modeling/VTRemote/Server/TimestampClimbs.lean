import VTRemote.Library.Ratchet
import VTRemote.Server.TimestampRuns
import Mathlib.Data.Int.ConditionallyCompleteOrder
import Mathlib.Order.WithBot

/-!
# Runs of the tracker that end at the largest tick

The sum `lastDtsTicks + 1` overflows at `Int64.max`.  The tracker gets there where
the timestamps of some calls climb to it, and traps at the next call that is no
duplicate.
-/

namespace VTRemote
namespace TimestampTracker

/-!
## The calls that count
-/

def Overflows (t : TimestampTracker) (call : Call) : Prop :=
  t.process call.ptsTicks call.dtsTicks = .error .trapped

def NeverOverflows (t : TimestampTracker) (calls : List Call) : Prop :=
  forall before call t', t.Reaches calls before call t' -> ¬ t'.Overflows call

/-- The calls but for those that repeat the presentation timestamp just before
them, with `last` in front of the first.  The smallest tick is not recognized. -/
def fresh (last : Int64) : List Call -> List Call
  | [] => []
  | call :: calls =>
      if call.ptsTicks = last ∧ last ≠ Int64.minValue then fresh last calls
      else call :: fresh call.ptsTicks calls

section Calls

variable {t : TimestampTracker} {call : Call} {calls : List Call}

theorem overflows_iff :
    t.Overflows call <-> ¬ t.Duplicate call ∧ t.lastDtsTicks = Int64.maxValue := by
  unfold Overflows
  rcases Classical.em (t.Duplicate call) with hdup | hnew
  · rw [process_duplicate hdup]
    exact iff_of_false (fun h => nomatch h) (fun h => h.1 hdup)
  · rcases eq_or_ne t.lastDtsTicks Int64.maxValue with hfull | hroom
    · exact iff_of_true (process_full hnew hfull) ⟨hnew, hfull⟩
    · rw [process_emits hnew hroom]
      exact iff_of_false (fun h => nomatch h) (fun h => hroom h.2)

theorem fresh_duplicate (h : t.Duplicate call) :
    fresh t.lastPtsTicks (call :: calls) = fresh t.lastPtsTicks calls :=
  if_pos h

theorem fresh_new (h : ¬ t.Duplicate call) :
    fresh t.lastPtsTicks (call :: calls) = call :: fresh call.ptsTicks calls :=
  if_neg h

end Calls

/-!
## Heights
-/

/-- The smallest tick stands for no timestamp: nothing is pushed from there. -/
def height (ticks : Int64) : WithBot Int :=
  if ticks = Int64.minValue then ⊥ else ticks.toInt

def push : WithBot Int -> WithBot Int := WithBot.map (· + 1)

def pull : WithBot Int -> WithBot Int := WithBot.map (· - 1)

theorem pull_push : GaloisConnection pull push := by
  intro a b
  cases a with
  | bot => exact iff_of_true bot_le bot_le
  | coe m =>
      cases b with
      | bot =>
          apply iff_of_false
          · exact WithBot.not_coe_le_bot (m - 1)
          · exact WithBot.not_coe_le_bot m
      | coe n =>
          show ((m - 1 : Int) : WithBot Int) ≤ (n : Int) <->
            ((m : Int) : WithBot Int) ≤ ((n + 1 : Int) : WithBot Int)
          rw [WithBot.coe_le_coe, WithBot.coe_le_coe]
          exact sub_le_iff_le_add

theorem height_of_ne {ticks : Int64} (h : ticks ≠ Int64.minValue) :
    height ticks = ticks.toInt :=
  if_neg h

theorem height_le_iff {a b : Int64} : height a ≤ height b <-> a ≤ b := by
  rcases eq_or_ne a Int64.minValue with rfl | ha
  · exact iff_of_true bot_le (Int64.minValue_le b)
  · rw [height_of_ne ha]
    rcases eq_or_ne b Int64.minValue with rfl | hb
    · apply iff_of_false
      · exact WithBot.not_coe_le_bot a.toInt
      · intro hle
        exact ha (Int64.le_antisymm hle (Int64.minValue_le a))
    · rw [height_of_ne hb, WithBot.coe_le_coe, Int64.le_iff_toInt_le]

theorem height_clampToPts (pts dts : Int64) :
    height (clampToPts pts dts) = min (height pts) (height dts) := by
  unfold clampToPts
  split
  · rename_i h
    exact (min_eq_left (height_le_iff.mpr (Int64.le_of_lt h))).symm
  · rename_i h
    exact (min_eq_right (height_le_iff.mpr (Int64.not_lt.mp h))).symm

theorem height_add_one {ticks : Int64} (hmin : ticks ≠ Int64.minValue)
    (hmax : ticks ≠ Int64.maxValue) : height (ticks + 1) = push (height ticks) := by
  have habove : Int64.minValue < ticks + 1 :=
    Int64.lt_of_le_of_lt (Int64.minValue_le ticks) (lt_add_one hmax)
  have hne : ticks + 1 ≠ Int64.minValue := by
    intro h
    rw [h] at habove
    exact Int64.lt_irrefl habove
  rw [height_of_ne hne, height_of_ne hmin, toInt_add_one hmax]
  rfl

theorem le_push (x : WithBot Int) : x ≤ push x := by
  cases x with
  | bot => exact bot_le
  | coe n => exact WithBot.coe_le_coe.mpr (Int.le_of_lt (Int.lt_succ n))

theorem push_le_of_lt {x y : WithBot Int} (h : x < y) : push x ≤ y := by
  cases x with
  | bot => exact bot_le
  | coe m =>
      cases y with
      | bot => exact absurd h not_lt_bot
      | coe n => exact WithBot.coe_le_coe.mpr (WithBot.coe_lt_coe.mp h)

def Call.notch (call : Call) : Notch (WithBot Int) where
  floor := height call.dtsTicks
  ceiling := height call.ptsTicks

/-- Below the largest tick, a call that emits is a notch of a ratchet. -/
theorem height_correctedDts {t : TimestampTracker} (call : Call)
    (hroom : t.lastDtsTicks ≠ Int64.maxValue) :
    height (t.correctedDts call) = Notch.next push (height t.lastDtsTicks) call.notch := by
  unfold correctedDts Notch.next Call.notch
  dsimp only
  rw [height_clampToPts]
  split
  · rename_i hpush
    rw [height_add_one hpush.1 hroom]
    have hlow := height_le_iff.mpr hpush.2
    rw [height_clampToPts, min_le_iff] at hlow
    rcases hlow with hpts | hdts
    · have hunder := hpts.trans (le_push _)
      rw [min_eq_left hunder, min_eq_left (hunder.trans (le_max_right _ _))]
    · rw [max_eq_right (hdts.trans (le_push _))]
  · rename_i hkeep
    have hunder : push (height t.lastDtsTicks) ≤
        min (height call.ptsTicks) (height call.dtsTicks) := by
      rcases eq_or_ne t.lastDtsTicks Int64.minValue with hmin | hmin
      · rw [hmin]
        exact bot_le
      · have habove : ¬ clampToPts call.ptsTicks call.dtsTicks ≤ t.lastDtsTicks :=
          fun hle => hkeep ⟨hmin, hle⟩
        rw [<- height_clampToPts]
        apply push_le_of_lt
        rw [<- not_le, height_le_iff]
        exact habove
    rw [height_clampToPts, max_eq_left (hunder.trans (min_le_right _ _))]
    exact min_eq_right (min_le_left _ _)

/-!
## Where the tracker stands
-/

theorem eq_maxValue_iff {ticks : Int64} :
    ticks = Int64.maxValue <-> height Int64.maxValue ≤ height ticks := by
  rw [height_le_iff]
  constructor
  · exact fun h => h ▸ Int64.le_refl _
  · exact Int64.le_antisymm (Int64.le_maxValue ticks)

/-- The run overflows exactly if the calls that count get to the largest tick with
another one behind them. -/
theorem neverOverflows_iff_runAll {t : TimestampTracker} {calls : List Call} :
    t.NeverOverflows calls <->
      forall before next after,
        fresh t.lastPtsTicks calls = before ++ next :: after ->
        ¬ height Int64.maxValue ≤
          Notch.runAll push (height t.lastDtsTicks) (before.map Call.notch) := by
  induction calls generalizing t with
  | nil =>
      apply iff_of_true
      · exact fun before call t' hreach => absurd hreach not_reaches_nil
      · intro before next after hnil
        exact absurd hnil.symm (List.append_ne_nil_of_right_ne_nil _ (List.cons_ne_nil _ _))
  | cons call calls ih =>
      unfold NeverOverflows
      rcases Classical.em (t.Duplicate call) with hdup | hnew
      · rw [forall_reaches_cons (process_duplicate hdup), fresh_duplicate hdup, <- ih]
        exact and_iff_right fun h => (overflows_iff.mp h).1 hdup
      · rw [fresh_new hnew]
        rcases eq_or_ne t.lastDtsTicks Int64.maxValue with hfull | hroom
        · apply iff_of_false
          · intro hall
            exact hall [] call t .first (overflows_iff.mpr ⟨hnew, hfull⟩)
          · intro hall
            exact hall [] call _ rfl (eq_maxValue_iff.mp hfull)
        · rw [forall_reaches_cons (process_emits hnew hroom),
            and_iff_right fun h => hroom (overflows_iff.mp h).2]
          refine Iff.trans (ih (t := t.emitted call)) ?_
          show (forall before next after, fresh call.ptsTicks calls = before ++ next :: after ->
            ¬ _ ≤ Notch.runAll push (height (t.correctedDts call)) _) <-> _
          rw [height_correctedDts call hroom]
          constructor
          · intro hall before next after hfresh
            cases before with
            | nil => exact fun h => hroom (eq_maxValue_iff.mpr h)
            | cons first before =>
                rcases List.cons.inj hfresh with ⟨rfl, hrest⟩
                exact hall before next after hrest
          · intro hall before next after hfresh
            exact hall (call :: before) next after (congrArg (call :: ·) hfresh)

/-!
## Climbs
-/

def Near (k : Nat) (ticks : Int64) : Prop :=
  ticks ≠ Int64.minValue ∧ Int64.maxValue.toInt ≤ ticks.toInt + k

/-- Each call is presented late enough for the climb that it is part of. -/
def LeavesRoom : List Call -> Prop
  | [] => True
  | call :: rest => Near rest.length call.ptsTicks ∧ LeavesRoom rest

/-- The calls climb to the largest tick: the first is decoded late enough for the
increments behind it. -/
def ClimbsToMax : List Call -> Prop
  | [] => False
  | call :: rest => Near rest.length call.dtsTicks ∧ LeavesRoom (call :: rest)

/-- Among the calls that count, some that climb to the largest tick have another
one behind them. -/
def ClimbsPast (calls : List Call) : Prop :=
  exists before climb next after,
    fresh Int64.minValue calls = before ++ climb ++ next :: after ∧ ClimbsToMax climb

theorem pull_iterate (k : Nat) (n : Int) :
    pull^[k] (n : WithBot Int) = ((n - k : Int) : WithBot Int) := by
  induction k with
  | zero =>
      rw [Int.natCast_zero, Int.sub_zero]
      rfl
  | succ k ih =>
      rw [Function.iterate_succ_apply', ih]
      show ((n - k - 1 : Int) : WithBot Int) = _
      rw [Int.sub_sub, Int.natCast_add, Int.natCast_one]

theorem near_iff {k : Nat} {ticks : Int64} :
    pull^[k] (height Int64.maxValue) ≤ height ticks <-> Near k ticks := by
  rw [height_of_ne (by decide : Int64.maxValue ≠ Int64.minValue), pull_iterate]
  rcases eq_or_ne ticks Int64.minValue with rfl | hne
  · apply iff_of_false
    · exact WithBot.not_coe_le_bot _
    · exact fun h => h.1 rfl
  · rw [height_of_ne hne, WithBot.coe_le_coe]
    constructor
    · exact fun h => ⟨hne, sub_le_iff_le_add.mp h⟩
    · exact fun h => sub_le_iff_le_add.mpr h.2

theorem clears_iff {calls : List Call} :
    Notch.Clears pull (height Int64.maxValue) (calls.map Call.notch) <->
      LeavesRoom calls := by
  induction calls with
  | nil => exact Iff.rfl
  | cons call rest ih =>
      rw [List.map_cons, Notch.Clears, List.length_map, ih]
      exact and_congr_left' near_iff

theorem climbs_iff {calls : List Call} :
    Notch.Climbs pull (height Int64.maxValue) (calls.map Call.notch) <->
      ClimbsToMax calls := by
  cases calls with
  | nil => exact Iff.rfl
  | cons call rest =>
      rw [List.map_cons, Notch.Climbs, List.length_map, <- List.map_cons, clears_iff]
      exact and_congr_left' near_iff

/-- From the start the tracker gets to the largest tick by a climb. -/
theorem maxValue_le_runAll_iff {calls : List Call} :
    height Int64.maxValue ≤ Notch.runAll push ⊥ (calls.map Call.notch) <->
      exists before climb, calls = before ++ climb ∧ ClimbsToMax climb := by
  rw [Notch.le_runAll_iff pull_push]
  constructor
  · intro h
    rcases h with ⟨_, hstart⟩ | ⟨before, climb, hcalls, hclimbs⟩
    · exact absurd rfl (near_iff.mp hstart).1
    · rcases List.map_eq_append_iff.mp hcalls with ⟨before', climb', hsplit, _, rfl⟩
      exact ⟨before', climb', hsplit, climbs_iff.mp hclimbs⟩
  · intro h
    rcases h with ⟨before, climb, rfl, hclimbs⟩
    exact Or.inr ⟨_, _, List.map_append, climbs_iff.mpr hclimbs⟩

/-- The increment overflows in a run exactly if its timestamps climb to the largest
tick and another call that counts comes behind. -/
theorem neverOverflows_iff (t : TimestampTracker) (calls : List Call) :
    t.reset.NeverOverflows calls <-> ¬ ClimbsPast calls := by
  rw [neverOverflows_iff_runAll]
  constructor
  · intro hall hclimbs
    rcases hclimbs with ⟨before, climb, next, after, hfresh, hclimb⟩
    exact hall (before ++ climb) next after hfresh
      (maxValue_le_runAll_iff.mpr ⟨before, climb, rfl, hclimb⟩)
  · intro hnone before next after hfresh hle
    rcases maxValue_le_runAll_iff.mp hle with ⟨before', climb, rfl, hclimb⟩
    exact hnone ⟨before', climb, next, after, hfresh, hclimb⟩

/-- The frame behind one that is presented at the largest tick. -/
theorem largest_tick_overflows :
    ¬ (reset {}).NeverOverflows
      [⟨Int64.maxValue, Int64.maxValue⟩, ⟨0, 0⟩] := by
  intro h
  have hreach : (reset {}).Reaches [⟨Int64.maxValue, Int64.maxValue⟩, ⟨0, 0⟩]
      [⟨Int64.maxValue, Int64.maxValue⟩] ⟨0, 0⟩
      ⟨Int64.maxValue, Int64.maxValue⟩ := ⟨⟨[], rfl⟩, by decide⟩
  exact h _ _ _ hreach (overflows_iff.mpr ⟨by decide, rfl⟩)

/-!
## The calls of the stub session

`StubCodecSession` passes the presentation timestamp of a FRAME for both.
-/

theorem correctedDts_eq_maxValue_iff {t : TimestampTracker} {call : Call}
    (hroom : t.lastDtsTicks ≠ Int64.maxValue) (hsame : call.dtsTicks = call.ptsTicks) :
    t.correctedDts call = Int64.maxValue <-> call.ptsTicks = Int64.maxValue := by
  rw [eq_maxValue_iff, height_correctedDts call hroom, Notch.le_next_iff pull_push]
  unfold Call.notch
  dsimp only
  rw [hsame, <- eq_maxValue_iff]
  constructor
  · exact fun h => h.1
  · exact fun h => ⟨h, Or.inl h⟩

def StaysAtMax (a b : Int64) : Prop := a = Int64.maxValue -> b = Int64.maxValue

theorem neverOverflows_iff_isChain {t : TimestampTracker} {calls : List Call}
    (hsame : forall call, call ∈ calls -> call.dtsTicks = call.ptsTicks)
    (hlast : t.lastDtsTicks = Int64.maxValue <-> t.lastPtsTicks = Int64.maxValue) :
    t.NeverOverflows calls <->
      (t.lastPtsTicks :: calls.map Call.ptsTicks).IsChain StaysAtMax := by
  induction calls generalizing t with
  | nil =>
      apply iff_of_true
      · exact fun before call t' hreach => absurd hreach not_reaches_nil
      · exact List.isChain_singleton _
  | cons call calls ih =>
      have hcall := hsame call List.mem_cons_self
      have hcalls : forall next, next ∈ calls -> next.dtsTicks = next.ptsTicks :=
        fun next hmem => hsame next (List.mem_cons_of_mem _ hmem)
      unfold NeverOverflows
      rw [List.map_cons, List.isChain_cons_cons]
      rcases Classical.em (t.Duplicate call) with hdup | hnew
      · rw [forall_reaches_cons (process_duplicate hdup), hdup.1]
        apply and_congr
        · exact iff_of_true (fun h => (overflows_iff.mp h).1 hdup) (fun h => h)
        · exact ih hcalls hlast
      · rcases eq_or_ne t.lastDtsTicks Int64.maxValue with hfull | hroom
        · have hpts := hlast.mp hfull
          apply iff_of_false
          · intro hall
            exact hall [] call t .first (overflows_iff.mpr ⟨hnew, hfull⟩)
          · intro hchain
            apply hnew
            unfold Duplicate
            rw [hpts]
            exact ⟨hchain.1 hpts, by decide⟩
        · rw [forall_reaches_cons (process_emits hnew hroom)]
          apply and_congr
          · apply iff_of_true
            · exact fun h => hroom (overflows_iff.mp h).2
            · exact fun h => absurd (hlast.mpr h) hroom
          · exact ih (t := t.emitted call) hcalls
              (correctedDts_eq_maxValue_iff hroom hcall)

/-- The stub session survives exactly the runs in which no other timestamp comes
behind the largest tick. -/
theorem neverOverflows_stub_iff (t : TimestampTracker) {calls : List Call}
    (hsame : forall call, call ∈ calls -> call.dtsTicks = call.ptsTicks) :
    t.reset.NeverOverflows calls <->
      (calls.map Call.ptsTicks).IsChain StaysAtMax := by
  have hstart : t.reset.lastDtsTicks = Int64.maxValue <->
      t.reset.lastPtsTicks = Int64.maxValue := Iff.rfl
  have hfirst : forall pts, StaysAtMax Int64.minValue pts :=
    fun pts h => absurd h (by decide)
  rw [neverOverflows_iff_isChain hsame hstart]
  cases calls with
  | nil => exact iff_of_true (List.isChain_singleton _) List.isChain_nil
  | cons call calls =>
      rw [List.map_cons, List.isChain_cons_cons]
      exact and_iff_right (hfirst call.ptsTicks)

end TimestampTracker
end VTRemote
