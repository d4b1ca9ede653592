import VTRemote.Server.StubCodecSession
import Mathlib.Data.List.Chain
import Mathlib.Data.List.Nodup

/-!
# Runs of the timestamp tracker

Calls of `process` one after the other.  A call that is not skipped moves the
tracker to a corrected decoding timestamp, and whether that one lies above the
last depends on nothing but the last one and the call.
-/

namespace VTRemote
namespace TimestampTracker

def reset (_ : TimestampTracker) : TimestampTracker where
  lastDtsTicks := Int64.minValue
  lastPtsTicks := Int64.minValue

/-!
## One call
-/

structure Call where
  ptsTicks : Int64
  dtsTicks : Int64
deriving DecidableEq, Repr

def Duplicate (t : TimestampTracker) (call : Call) : Prop :=
  call.ptsTicks = t.lastPtsTicks ∧ t.lastPtsTicks ≠ Int64.minValue

instance (t : TimestampTracker) (call : Call) : Decidable (t.Duplicate call) :=
  inferInstanceAs (Decidable (_ ∧ _))

/-- The timestamp that a call emits if it is neither a duplicate nor traps. -/
def correctedDts (t : TimestampTracker) (call : Call) : Int64 :=
  let dts := clampToPts call.ptsTicks call.dtsTicks
  clampToPts call.ptsTicks
    (if t.lastDtsTicks ≠ Int64.minValue ∧ dts ≤ t.lastDtsTicks
      then t.lastDtsTicks + 1 else dts)

def emitted (t : TimestampTracker) (call : Call) : TimestampTracker where
  lastDtsTicks := t.correctedDts call
  lastPtsTicks := call.ptsTicks

theorem process_duplicate {t : TimestampTracker} {call : Call}
    (h : t.Duplicate call) :
    t.process call.ptsTicks call.dtsTicks = .ok (.skip, t) := by
  unfold Duplicate at h
  unfold process
  rw [if_pos h]
  rfl

theorem process_full {t : TimestampTracker} {call : Call}
    (hnew : ¬ t.Duplicate call) (hfull : t.lastDtsTicks = Int64.maxValue) :
    t.process call.ptsTicks call.dtsTicks = .error .trapped := by
  unfold Duplicate at hnew
  unfold process
  rw [if_neg hnew]
  simp only [hfull, Int64.le_maxValue, and_true, if_true]
  rfl

theorem process_emits {t : TimestampTracker} {call : Call}
    (hnew : ¬ t.Duplicate call) (hroom : t.lastDtsTicks ≠ Int64.maxValue) :
    t.process call.ptsTicks call.dtsTicks =
      .ok (.emit (t.correctedDts call), t.emitted call) := by
  unfold Duplicate at hnew
  unfold process emitted correctedDts
  rw [if_neg hnew]
  simp only [if_neg hroom]
  split <;> rfl

theorem process_eq_emit {t t' : TimestampTracker} {call : Call} {dts : Int64}
    (h : t.process call.ptsTicks call.dtsTicks = .ok (.emit dts, t')) :
    t.lastDtsTicks ≠ Int64.maxValue ∧ dts = t.correctedDts call ∧
      t' = t.emitted call := by
  rcases Classical.em (t.Duplicate call) with hdup | hnew
  · rw [process_duplicate hdup] at h
    cases h
  · rcases eq_or_ne t.lastDtsTicks Int64.maxValue with hfull | hroom
    · rw [process_full hnew hfull] at h
      cases h
    · rw [process_emits hnew hroom] at h
      cases h
      exact ⟨hroom, rfl, rfl⟩

theorem process_eq_skip {t t' : TimestampTracker} {call : Call}
    (h : t.process call.ptsTicks call.dtsTicks = .ok (.skip, t')) :
    t.Duplicate call ∧ t' = t := by
  rcases Classical.em (t.Duplicate call) with hdup | hnew
  · rw [process_duplicate hdup] at h
    cases h
    exact ⟨hdup, rfl⟩
  · rcases eq_or_ne t.lastDtsTicks Int64.maxValue with hfull | hroom
    · rw [process_full hnew hfull] at h
      cases h
    · rw [process_emits hnew hroom] at h
      cases h

theorem clampToPts_le (pts dts : Int64) : clampToPts pts dts ≤ pts := by
  unfold clampToPts
  split
  · exact Int64.le_refl pts
  · rename_i h
    exact Int64.not_lt.mp h

theorem correctedDts_le (t : TimestampTracker) (call : Call) :
    t.correctedDts call ≤ call.ptsTicks :=
  clampToPts_le call.ptsTicks _

theorem lt_clampToPts_iff {last pts dts : Int64} :
    last < clampToPts pts dts <-> last < pts ∧ last < dts := by
  unfold clampToPts
  simp only [Int64.lt_iff_toInt_lt]
  split <;> omega

theorem toInt_add_one {ticks : Int64} (h : ticks ≠ Int64.maxValue) :
    (ticks + 1).toInt = ticks.toInt + 1 := by
  have hlt : ticks.toInt < Int64.maxValue.toInt :=
    Int64.lt_iff_toInt_lt.mp (Int64.lt_of_le_of_ne (Int64.le_maxValue ticks) h)
  have hge := Int64.minValue_le_toInt ticks
  have hone : (1 : Int64).toInt = 1 := rfl
  rw [Int64.toInt_maxValue] at hlt
  rw [Int64.toInt_minValue] at hge
  rw [Int64.toInt_add, hone, Int.bmod_eq_of_le (by omega) (by omega)]

theorem lt_add_one {ticks : Int64} (h : ticks ≠ Int64.maxValue) :
    ticks < ticks + 1 := by
  rw [Int64.lt_iff_toInt_lt, toInt_add_one h]
  exact Int.lt_succ ticks.toInt

/-- Whether the tracker gets past its last timestamp is decided by the
presentation timestamp, but that the sentinel is no bound. -/
theorem lt_correctedDts_iff {t : TimestampTracker} {call : Call}
    (hroom : t.lastDtsTicks ≠ Int64.maxValue) :
    t.lastDtsTicks < t.correctedDts call <->
      t.lastDtsTicks < call.ptsTicks ∧
      (t.lastDtsTicks = Int64.minValue -> Int64.minValue < call.dtsTicks) := by
  unfold correctedDts
  simp only [lt_clampToPts_iff]
  apply and_congr_right
  intro hpts
  split
  · rename_i hpush
    exact iff_of_true (lt_add_one hroom) (fun hmin => absurd hmin hpush.1)
  · rename_i hkeep
    rw [lt_clampToPts_iff]
    constructor
    · intro h hmin
      rcases h with ⟨_, hdts⟩
      exact hmin ▸ hdts
    · intro hsentinel
      refine ⟨hpts, ?_⟩
      rcases eq_or_ne t.lastDtsTicks Int64.minValue with hmin | hmin
      · rw [hmin]
        exact hsentinel hmin
      · have habove : ¬ clampToPts call.ptsTicks call.dtsTicks ≤ t.lastDtsTicks :=
          fun hle => hkeep ⟨hmin, hle⟩
        exact (lt_clampToPts_iff.mp (Int64.not_le.mp habove)).2

/-- The sentinel came again: the last timestamp is the smallest tick, and so is
that of the call. -/
def AtSentinel (t : TimestampTracker) (call : Call) : Prop :=
  t.lastDtsTicks = Int64.minValue ∧ call.dtsTicks = Int64.minValue

/-- For a call that is presented late enough, the timestamps so far stay below
the one that it emits, but at the sentinel. -/
theorem correctedDts_above {t : TimestampTracker} {call : Call} {dts : Int64}
    (hroom : t.lastDtsTicks ≠ Int64.maxValue)
    (habove : t.lastDtsTicks < call.ptsTicks) (hle : dts ≤ t.lastDtsTicks) :
    dts ≤ t.correctedDts call ∧
      (dts < t.correctedDts call <-> ¬ t.AtSentinel call) := by
  have hiff : t.lastDtsTicks < t.correctedDts call <-> _ :=
    lt_correctedDts_iff hroom
  rw [and_iff_right habove] at hiff
  rcases Classical.em (t.AtSentinel call) with hsentinel | hfree
  · rcases hsentinel with ⟨hlast, hraw⟩
    have hstays : ¬ t.lastDtsTicks < t.correctedDts call := by
      rw [hiff]
      intro habove
      exact Int64.lt_irrefl (hraw ▸ habove hlast)
    have hmin : t.correctedDts call ≤ Int64.minValue :=
      hlast ▸ Int64.not_lt.mp hstays
    have hdts : dts ≤ Int64.minValue := hlast ▸ hle
    refine ⟨Int64.le_trans hdts (Int64.minValue_le _), ?_⟩
    refine iff_of_false ?_ (not_not_intro ⟨hlast, hraw⟩)
    exact Int64.not_lt.mpr (Int64.le_trans hmin (Int64.minValue_le dts))
  · have hlt : t.lastDtsTicks < t.correctedDts call := by
      rw [hiff]
      intro hlast
      have hne : Int64.minValue ≠ call.dtsTicks :=
        fun hraw => hfree ⟨hlast, hraw.symm⟩
      exact Int64.lt_of_le_of_ne (Int64.minValue_le _) hne
    have hdts := Int64.lt_of_le_of_lt hle hlt
    exact ⟨Int64.le_of_lt hdts, iff_of_true hdts hfree⟩

/-!
## Runs
-/

def after (t : TimestampTracker) : List Call -> Except Failure TimestampTracker
  | [] => .ok t
  | call :: calls =>
      match t.process call.ptsTicks call.dtsTicks with
      | .ok (_, t') => after t' calls
      | .error e => .error e

structure Emission where
  ptsTicks : Int64
  dts : Int64
deriving DecidableEq, Repr

/-- What the calls emit, up to the first that traps. -/
def emissions (t : TimestampTracker) : List Call -> List Emission
  | [] => []
  | call :: calls =>
      match t.process call.ptsTicks call.dtsTicks with
      | .ok (.emit dts, t') => ⟨call.ptsTicks, dts⟩ :: emissions t' calls
      | .ok (.skip, t') => emissions t' calls
      | .error _ => []

/-- The call is made with the tracker `t'`, behind the calls `before`. -/
structure Reaches (t : TimestampTracker) (calls before : List Call)
    (call : Call) (t' : TimestampTracker) : Prop where
  calls_eq : exists rest, calls = before ++ call :: rest
  after_eq : t.after before = .ok t'

example : emissions {} [⟨3, 1⟩, ⟨5, 0⟩, ⟨5, 7⟩] = [⟨3, 1⟩, ⟨5, 2⟩] := by decide

section Step

variable {t t' : TimestampTracker} {call : Call} {calls : List Call}
variable {result : Result}

theorem emissions_emit {dts : Int64}
    (h : t.process call.ptsTicks call.dtsTicks = .ok (.emit dts, t')) :
    t.emissions (call :: calls) = ⟨call.ptsTicks, dts⟩ :: t'.emissions calls := by
  rw [emissions, h]

theorem emissions_skip
    (h : t.process call.ptsTicks call.dtsTicks = .ok (.skip, t')) :
    t.emissions (call :: calls) = t'.emissions calls := by
  rw [emissions, h]

theorem emissions_trapped {e : Failure}
    (h : t.process call.ptsTicks call.dtsTicks = .error e) :
    t.emissions (call :: calls) = [] := by
  rw [emissions, h]

theorem Reaches.first : t.Reaches (call :: calls) [] call t :=
  ⟨⟨calls, rfl⟩, rfl⟩

theorem not_reaches_nil {before : List Call} {last : TimestampTracker} :
    ¬ t.Reaches [] before call last := by
  intro h
  rcases h with ⟨⟨rest, h⟩, _⟩
  exact List.append_ne_nil_of_right_ne_nil before (List.cons_ne_nil call rest) h.symm

theorem reaches_cons_iff {before : List Call} {next : Call}
    {last : TimestampTracker} :
    t.Reaches (call :: calls) before next last <->
      (before = [] ∧ next = call ∧ last = t) ∨
      exists before' result t', before = call :: before' ∧
        t.process call.ptsTicks call.dtsTicks = .ok (result, t') ∧
        t'.Reaches calls before' next last := by
  constructor
  · intro h
    rcases h with ⟨⟨rest, hcalls⟩, hafter⟩
    cases before with
    | nil =>
        left
        cases hcalls
        cases hafter
        exact ⟨rfl, rfl, rfl⟩
    | cons head before' =>
        right
        cases hcalls
        rw [after] at hafter
        split at hafter
        · rename_i result t' hprocess
          exact ⟨before', result, t', rfl, hprocess, ⟨rest, rfl⟩, hafter⟩
        · cases hafter
  · intro h
    rcases h with ⟨rfl, rfl, rfl⟩ |
      ⟨before', result, t', rfl, hprocess, ⟨rest, rfl⟩, hafter⟩
    · exact .first
    · refine ⟨⟨rest, rfl⟩, ?_⟩
      rw [after, hprocess]
      exact hafter

theorem forall_reaches_cons
    {P : List Call -> Call -> TimestampTracker -> Prop}
    (h : t.process call.ptsTicks call.dtsTicks = .ok (result, t')) :
    (forall before next last, t.Reaches (call :: calls) before next last ->
        P before next last) <->
      P [] call t ∧
      forall before next last, t'.Reaches calls before next last ->
        P (call :: before) next last := by
  constructor
  · intro hall
    refine ⟨hall [] call t .first, ?_⟩
    intro before next last hreach
    exact hall _ next last
      (reaches_cons_iff.mpr (.inr ⟨before, result, t', rfl, h, hreach⟩))
  · intro h before next last hreach
    rcases h with ⟨hfirst, hrest⟩
    rcases reaches_cons_iff.mp hreach with
      ⟨rfl, rfl, rfl⟩ | ⟨before', result', t'', rfl, hprocess, htail⟩
    · exact hfirst
    · cases h.symm.trans hprocess
      exact hrest before' next last htail

theorem forall_reaches_trapped
    {P : List Call -> Call -> TimestampTracker -> Prop} {e : Failure}
    (h : t.process call.ptsTicks call.dtsTicks = .error e) :
    (forall before next last, t.Reaches (call :: calls) before next last ->
        P before next last) <-> P [] call t := by
  constructor
  · intro hall
    exact hall [] call t .first
  · intro hfirst before next last hreach
    rcases reaches_cons_iff.mp hreach with
      ⟨rfl, rfl, rfl⟩ | ⟨_, _, _, _, hprocess, _⟩
    · exact hfirst
    · rw [h] at hprocess
      cases hprocess

end Step

/-!
## The order of the decoding timestamps
-/

/-- Behind calls with the timestamps `seen`, the run emits a timestamp only if
it is new and only once, and answers every call with a new one. -/
structure EmitsOnce (seen : List Int64) (t : TimestampTracker)
    (calls : List Call) : Prop where
  nodup : ((t.emissions calls).map Emission.ptsTicks).Nodup
  unseen : forall pts, pts ∈ (t.emissions calls).map Emission.ptsTicks ->
    pts ∉ seen
  new : forall before call t', t.Reaches calls before call t' ->
    call.ptsTicks ∉ seen ++ before.map Call.ptsTicks ->
    exists dts t'', t'.process call.ptsTicks call.dtsTicks = .ok (.emit dts, t'')

/-- A timestamp that is repeated is that of the call just before, and not the
smallest tick; a new one does not come behind the largest tick.  Behind the
largest tick a repeated one traps if it is not skipped. -/
def RepeatsLast (seen : List Int64) (call : Call) (t : TimestampTracker) : Prop :=
  if call.ptsTicks ∈ seen then
    t.lastDtsTicks = Int64.maxValue ∨
      seen.getLast? = some call.ptsTicks ∧ call.ptsTicks ≠ Int64.minValue
  else t.lastDtsTicks ≠ Int64.maxValue

section Once

variable {seen : List Int64} {t t' : TimestampTracker}
variable {call : Call} {calls : List Call}

theorem not_mem_seen_cons {before : List Call} {pts : Int64} :
    pts ∉ seen ++ (call :: before).map Call.ptsTicks <->
      pts ∉ (seen ++ [call.ptsTicks]) ++ before.map Call.ptsTicks := by
  rw [List.map_cons, List.append_cons]

theorem emitsOnce_nil : EmitsOnce seen t [] where
  nodup := List.nodup_nil
  unseen := fun _ h => absurd h List.not_mem_nil
  new := fun _ _ _ h => absurd h not_reaches_nil

theorem emitsOnce_emit {dts : Int64}
    (h : t.process call.ptsTicks call.dtsTicks = .ok (.emit dts, t')) :
    EmitsOnce seen t (call :: calls) <->
      call.ptsTicks ∉ seen ∧ EmitsOnce (seen ++ [call.ptsTicks]) t' calls := by
  constructor
  · intro h
    rcases h with ⟨hnodup, hunseen, hnew⟩
    rw [emissions_emit h, List.map_cons] at hnodup hunseen
    rw [List.nodup_cons] at hnodup
    rw [forall_reaches_cons h] at hnew
    refine ⟨hunseen _ List.mem_cons_self, hnodup.2, ?_, ?_⟩
    · intro pts hmem hseen
      rcases List.mem_append.mp hseen with hold | hcall
      · exact hunseen pts (List.mem_cons_of_mem _ hmem) hold
      · rw [List.mem_singleton.mp hcall] at hmem
        exact hnodup.1 hmem
    · intro before next last hreach hfresh
      exact hnew.2 before next last hreach (not_mem_seen_cons.mpr hfresh)
  · intro h
    rcases h with ⟨hcall, hnodup, hunseen, hnew⟩
    refine ⟨?_, ?_, ?_⟩
    · rw [emissions_emit h, List.map_cons, List.nodup_cons]
      refine ⟨?_, hnodup⟩
      intro hmem
      exact hunseen _ hmem (List.mem_append_right seen List.mem_cons_self)
    · rw [emissions_emit h, List.map_cons]
      intro pts hmem hseen
      rcases List.mem_cons.mp hmem with rfl | hrest
      · exact hcall hseen
      · exact hunseen pts hrest (List.mem_append_left _ hseen)
    · rw [forall_reaches_cons h]
      refine ⟨fun _ => ⟨dts, t', h⟩, ?_⟩
      intro before next last hreach hfresh
      exact hnew before next last hreach (not_mem_seen_cons.mp hfresh)

theorem emitsOnce_skip (hmem : call.ptsTicks ∈ seen)
    (h : t.process call.ptsTicks call.dtsTicks = .ok (.skip, t')) :
    EmitsOnce seen t (call :: calls) <->
      EmitsOnce (seen ++ [call.ptsTicks]) t' calls := by
  have hseen : forall pts, pts ∈ seen ++ [call.ptsTicks] <-> pts ∈ seen := by
    intro pts
    rw [List.mem_append, List.mem_singleton]
    exact ⟨fun h => h.elim id (fun h => h ▸ hmem), Or.inl⟩
  constructor
  · intro h
    rcases h with ⟨hnodup, hunseen, hnew⟩
    rw [emissions_skip h] at hnodup hunseen
    rw [forall_reaches_cons h] at hnew
    refine ⟨hnodup, fun pts hpts hold => hunseen pts hpts ((hseen pts).mp hold), ?_⟩
    intro before next last hreach hfresh
    exact hnew.2 before next last hreach (not_mem_seen_cons.mpr hfresh)
  · intro h
    rcases h with ⟨hnodup, hunseen, hnew⟩
    refine ⟨?_, ?_, ?_⟩
    · rw [emissions_skip h]
      exact hnodup
    · rw [emissions_skip h]
      exact fun pts hpts hold => hunseen pts hpts ((hseen pts).mpr hold)
    · rw [forall_reaches_cons h]
      refine ⟨fun hfresh => absurd (List.mem_append_left _ hmem) hfresh, ?_⟩
      intro before next last hreach hfresh
      exact hnew before next last hreach (not_mem_seen_cons.mp hfresh)

theorem emitsOnce_trapped {e : Failure}
    (h : t.process call.ptsTicks call.dtsTicks = .error e) :
    EmitsOnce seen t (call :: calls) <-> call.ptsTicks ∈ seen := by
  constructor
  · intro h
    rcases h with ⟨_, _, hnew⟩
    rw [forall_reaches_trapped h] at hnew
    rw [List.map_nil, List.append_nil] at hnew
    by_contra hfresh
    rcases hnew hfresh with ⟨dts, t'', hemit⟩
    rw [h] at hemit
    cases hemit
  · intro hmem
    refine ⟨?_, ?_, ?_⟩
    · rw [emissions_trapped h]
      exact List.nodup_nil
    · rw [emissions_trapped h]
      exact fun _ hnil => absurd hnil List.not_mem_nil
    · rw [forall_reaches_trapped h]
      exact fun hfresh => absurd (List.mem_append_left _ hmem) hfresh

/-- A tracker that remembers the last of the timestamps sees no other again. -/
theorem duplicate_iff (hlast : t.lastPtsTicks = seen.getLast?.getD Int64.minValue) :
    t.Duplicate call <->
      seen.getLast? = some call.ptsTicks ∧ call.ptsTicks ≠ Int64.minValue := by
  unfold Duplicate
  rw [hlast]
  cases seen.getLast? with
  | none => exact ⟨fun h => absurd rfl h.2, fun h => nomatch h.1⟩
  | some last =>
      rw [Option.getD_some, Option.some_inj]
      constructor
      · intro h
        rcases h with ⟨rfl, hne⟩
        exact ⟨rfl, hne⟩
      · intro h
        rcases h with ⟨rfl, hne⟩
        exact ⟨rfl, hne⟩

theorem emitsOnce_iff_seen
    (hlast : t.lastPtsTicks = seen.getLast?.getD Int64.minValue) :
    EmitsOnce seen t calls <->
      forall before call t', t.Reaches calls before call t' ->
        RepeatsLast (seen ++ before.map Call.ptsTicks) call t' := by
  induction calls generalizing seen t with
  | nil =>
      exact iff_of_true emitsOnce_nil (fun _ _ _ h => absurd h not_reaches_nil)
  | cons call calls ih =>
      have hnext : forall t' : TimestampTracker, t'.lastPtsTicks = call.ptsTicks ->
          (EmitsOnce (seen ++ [call.ptsTicks]) t' calls <->
            forall before next last, t'.Reaches calls before next last ->
              RepeatsLast (seen ++ (call :: before).map Call.ptsTicks) next last) := by
        intro t' ht'
        rw [ih (by rw [List.getLast?_concat, Option.getD_some, ht'])]
        simp only [List.map_cons, List.append_assoc, List.singleton_append]
      have hhere : RepeatsLast (seen ++ ([] : List Call).map Call.ptsTicks) call t <->
          RepeatsLast seen call t := by
        rw [List.map_nil, List.append_nil]
      rcases Classical.em (t.Duplicate call) with hdup | hnew
      · have hagain := (duplicate_iff hlast).mp hdup
        have hmem := List.mem_of_getLast? hagain.1
        have hskip := process_duplicate hdup
        rw [emitsOnce_skip hmem hskip, forall_reaches_cons hskip, hhere]
        rw [hnext t hdup.1.symm, RepeatsLast, if_pos hmem]
        exact (and_iff_right (Or.inr hagain)).symm
      · have hagain := (duplicate_iff hlast).not.mp hnew
        rcases eq_or_ne t.lastDtsTicks Int64.maxValue with hfull | hroom
        · have htrap := process_full hnew hfull
          rw [emitsOnce_trapped htrap]
          rw [forall_reaches_trapped htrap, hhere, RepeatsLast]
          split
          · rename_i hmem
            exact iff_of_true hmem (Or.inl hfull)
          · rename_i hmem
            exact iff_of_false hmem (fun h => h hfull)
        · have hemit := process_emits hnew hroom
          rw [emitsOnce_emit hemit, forall_reaches_cons hemit, hhere]
          rw [hnext (t.emitted call) rfl, RepeatsLast]
          apply and_congr_left'
          split
          · rename_i hmem
            exact iff_of_false (fun h => h hmem)
              (fun h => h.elim (absurd · hroom) (absurd · hagain))
          · rename_i hmem
            exact iff_of_true hmem hroom

end Once

/-- The tracker emits every presentation timestamp once exactly if the run
repeats none but the last. -/
theorem emissions_once_iff (t : TimestampTracker) (calls : List Call) :
    EmitsOnce [] t.reset calls <->
      forall before call t', t.reset.Reaches calls before call t' ->
        RepeatsLast (before.map Call.ptsTicks) call t' :=
  emitsOnce_iff_seen rfl

/-- A timestamp that comes back behind another is emitted again. -/
theorem emissions_once_fails :
    ¬ EmitsOnce [] (reset {}) [⟨1, 1⟩, ⟨2, 2⟩, ⟨1, 1⟩] := by
  intro h
  rcases h with ⟨hnodup, _, _⟩
  revert hnodup
  decide

end TimestampTracker
end VTRemote
