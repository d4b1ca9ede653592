import Mathlib.Data.List.Basic

/-!
# Runs of partial steps

Steps that are taken one after the other, each of which may be impossible in
the state that it meets.  What each step preserves the run preserves, also if
it is preserved only by the steps that meet a condition.
-/

namespace VTRemote
namespace PartialRun

variable {σ α β : Type} (step : σ -> α -> Option σ)

def run : σ -> List α -> Option σ
  | s, [] => some s
  | s, a :: steps => step s a >>= fun s' => run s' steps

/-- `P` holds of each step of the run, in the state that it meets. -/
def Along (P : σ -> α -> Prop) : σ -> List α -> Prop
  | _, [] => True
  | s, a :: steps => P s a ∧ forall s', step s a = some s' -> Along P s' steps

instance decidableAlong (P : σ -> α -> Prop) [forall s a, Decidable (P s a)] :
    forall s steps, Decidable (Along step P s steps)
  | _, [] => isTrue trivial
  | s, a :: steps =>
      have : Decidable (forall s', step s a = some s' -> Along step P s' steps) :=
        match _h : step s a with
        | none => isTrue nofun
        | some s' =>
            match decidableAlong P s' steps with
            | isTrue hrest => isTrue fun _ heq => Option.some.inj heq ▸ hrest
            | isFalse hrest => isFalse fun hall => hrest (hall s' rfl)
      inferInstanceAs (Decidable (_ ∧ _))

variable {step}

theorem run_cons_eq_some {s last : σ} {a : α} {steps : List α}
    (h : run step s (a :: steps) = some last) :
    exists s', step s a = some s' ∧ run step s' steps = some last :=
  Option.bind_eq_some_iff.mp h

theorem along_cons_iff {P : σ -> α -> Prop} {s s' : σ} {a : α} {steps : List α}
    (h : step s a = some s') :
    Along step P s (a :: steps) <-> P s a ∧ Along step P s' steps := by
  rw [Along]
  apply and_congr_right
  intro _
  constructor
  · intro hall
    exact hall s' h
  · intro hrest s'' hs''
    cases h.symm.trans hs''
    exact hrest

theorem along_true : forall (s : σ) (steps : List α),
    Along step (fun _ _ => True) s steps
  | _, [] => trivial
  | _, _ :: steps => ⟨trivial, fun s' _ => along_true s' steps⟩

theorem invariant {P : σ -> α -> Prop} {Inv : σ -> Prop} {s last : σ}
    {steps : List α}
    (hstep : forall s a s', Inv s -> P s a -> step s a = some s' -> Inv s')
    (hinit : Inv s) (halong : Along step P s steps)
    (hrun : run step s steps = some last) : Inv last := by
  induction steps generalizing s with
  | nil =>
      cases hrun
      exact hinit
  | cons a steps ih =>
      rcases run_cons_eq_some hrun with ⟨s', hs', hrest⟩
      rcases (along_cons_iff hs').mp halong with ⟨hP, halong'⟩
      exact ih (hstep s a s' hinit hP hs') halong' hrest

/-- Two conditions agree along a run if they agree wherever the run gets by
steps that meet the first. -/
theorem along_congr {P Q R : σ -> α -> Prop} {Inv : σ -> Prop} {s : σ}
    {steps : List α}
    (hstep : forall s a s', Inv s -> P s a -> Q s a -> step s a = some s' -> Inv s')
    (hiff : forall s a, Inv s -> P s a -> (Q s a <-> R s a))
    (hinit : Inv s) (halong : Along step P s steps) :
    Along step Q s steps <-> Along step R s steps := by
  induction steps generalizing s with
  | nil => exact Iff.rfl
  | cons a steps ih =>
      rw [Along, Along, hiff s a hinit halong.1]
      apply and_congr_right
      intro hR
      have hQ := (hiff s a hinit halong.1).mpr hR
      apply forall_congr'
      intro s'
      apply imp_congr_right
      intro hs'
      exact ih (hstep s a s' hinit halong.1 hQ hs') (halong.2 s' hs')

/-- What survives exactly the steps that meet a condition. -/
theorem holds_iff_along {K : σ -> Prop} {Q : σ -> α -> Prop} {s last : σ}
    {steps : List α}
    (hstep : forall s a s', step s a = some s' -> (K s' <-> K s ∧ Q s a))
    (hrun : run step s steps = some last) :
    K last <-> K s ∧ Along step Q s steps := by
  induction steps generalizing s with
  | nil =>
      cases hrun
      exact (and_iff_left trivial).symm
  | cons a steps ih =>
      rcases run_cons_eq_some hrun with ⟨s', hs', hrest⟩
      rw [ih hrest, along_cons_iff hs', hstep s a s' hs', and_assoc]

/-- A log to which each step adds is related in pairs exactly if each step adds
what is related to all that the log holds. -/
theorem log_pairwise_iff {R : β -> β -> Prop} {log : σ -> List β}
    {added : σ -> α -> Option β} {s last : σ} {steps : List α}
    (hlog : forall s a s', step s a = some s' ->
      log s' = log s ++ (added s a).toList)
    (hrun : run step s steps = some last) :
    (log last).Pairwise R <->
      (log s).Pairwise R ∧
      Along step (fun s a => forall b, b ∈ added s a ->
        forall b', b' ∈ log s -> R b' b) s steps := by
  refine holds_iff_along (K := fun s => (log s).Pairwise R) ?_ hrun
  intro s a s' hs'
  rw [hlog s a s' hs', List.pairwise_append]
  apply and_congr_right
  intro _
  cases added s a with
  | none => exact iff_of_true ⟨List.Pairwise.nil, nofun⟩ nofun
  | some b =>
      constructor
      · intro h _ h' b' hb'
        rcases h with ⟨_, hall⟩
        cases h'
        exact hall b' hb' b List.mem_cons_self
      · intro hall
        refine ⟨List.pairwise_singleton R b, ?_⟩
        intro b' hb' c hc
        cases List.mem_singleton.mp hc
        exact hall b rfl b' hb'

end PartialRun
end VTRemote
