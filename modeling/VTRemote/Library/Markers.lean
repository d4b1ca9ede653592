import Mathlib.Data.List.Infix

/-!
# Markers between runs

A marker is a run of one element with another behind it.  A gap that does not
contain the marker and does not end with the repeated element hides no marker
that runs over its end, whatever comes next.  Slices of a list are given by
their ends.
-/

namespace VTRemote

variable {α : Type}

/-!
## Markers
-/

def marker (zero one : α) (count : Nat) : List α :=
  List.replicate count zero ++ [one]

/-- Nothing in the gap starts a marker, whatever comes behind it. -/
structure MarkerFree (zero one : α) (count : Nat) (gap : List α) : Prop where
  absent : ¬ marker zero one count <:+: gap
  ending : gap.getLast? ≠ some zero

section Marker

variable {zero one : α} {count : Nat} {gap : List α}

theorem marker_suffix_succ :
    marker zero one count <:+ marker zero one (count + 1) := by
  unfold marker
  rw [List.replicate_succ, List.cons_append]
  exact List.suffix_cons zero _

theorem MarkerFree.succ (h : MarkerFree zero one count gap) :
    MarkerFree zero one (count + 1) gap where
  absent := fun hfound => h.absent (marker_suffix_succ.isInfix.trans hfound)
  ending := h.ending

theorem MarkerFree.of_suffix {tail : List α} (h : MarkerFree zero one count gap)
    (hsuffix : tail <:+ gap) : MarkerFree zero one count tail where
  absent := fun hfound => h.absent (hfound.trans hsuffix.isInfix)
  ending := by
    intro hlast
    rcases hsuffix with ⟨front, rfl⟩
    have hends := h.ending
    rw [List.getLast?_append, hlast, Option.some_or] at hends
    exact hends rfl

theorem prefix_marker_getLast? {run : List α} (hne : run ≠ [])
    (h : run <+: marker zero one count) (hshort : run.length ≤ count) :
    run.getLast? = some zero := by
  have hrun : run <+: List.replicate count zero :=
    List.prefix_of_prefix_length_le h (List.prefix_append _ _)
      (by rw [List.length_replicate]; exact hshort)
  have hlast := List.getLast?_eq_some_getLast hne
  rw [hlast]
  have hmem := hrun.subset (List.getLast_mem hne)
  exact congrArg some (List.eq_of_mem_replicate hmem)

theorem MarkerFree.not_marker {rest : List α} (h : MarkerFree zero one count gap)
    (hne : gap ≠ []) : ¬ marker zero one count <+: gap ++ rest := by
  intro hmarker
  have hlength : (marker zero one count).length = count + 1 := by
    unfold marker
    rw [List.length_append, List.length_replicate, List.length_singleton]
  rcases Nat.lt_or_ge count gap.length with hlong | hshort
  · have hinside := List.prefix_of_prefix_length_le hmarker
      (List.prefix_append gap rest) (by rw [hlength]; exact hlong)
    exact h.absent hinside.isInfix
  · have hinside := List.prefix_of_prefix_length_le (List.prefix_append gap rest)
      hmarker (by rw [hlength]; exact Nat.le_succ_of_le hshort)
    exact h.ending (prefix_marker_getLast? hne hinside hshort)

end Marker

/-!
## Slices
-/

def slice (list : List α) (lo hi : Nat) : List α :=
  (list.take hi).drop lo

theorem slice_middle (front middle back : List α) :
    slice (front ++ (middle ++ back)) front.length (front.length + middle.length) =
      middle := by
  unfold slice
  rw [← List.append_assoc, ← List.length_append, List.take_left, List.drop_left]

/-- Slices of a list, each behind the one before, that end at `bound`. -/
structure Slices (list : List α) (bound : Nat) (pieces : List (List α))
    (ends : List (Nat × Nat)) : Prop where
  pieces_eq : pieces = ends.map fun e => slice list e.1 e.2
  nonempty : forall e, e ∈ ends -> e.1 < e.2
  within : forall e, e ∈ ends -> e.2 ≤ bound
  ordered : ends.Pairwise fun e e' => e.2 ≤ e'.1

theorem Slices.nil (list : List α) (bound : Nat) : Slices list bound [] [] where
  pieces_eq := rfl
  nonempty := fun _ h => absurd h List.not_mem_nil
  within := fun _ h => absurd h List.not_mem_nil
  ordered := List.Pairwise.nil

theorem Slices.mono {list : List α} {bound bound' : Nat} {pieces : List (List α)}
    {ends : List (Nat × Nat)} (h : Slices list bound pieces ends)
    (hle : bound ≤ bound') : Slices list bound' pieces ends :=
  { h with within := fun e he => Nat.le_trans (h.within e he) hle }

theorem Slices.snoc {list : List α} {lo hi : Nat} {pieces : List (List α)}
    {ends : List (Nat × Nat)} (h : Slices list lo pieces ends) (hlt : lo < hi) :
    Slices list hi (pieces ++ [slice list lo hi]) (ends ++ [(lo, hi)]) where
  pieces_eq := by
    rw [List.map_append, ← h.pieces_eq]
    rfl
  nonempty := by
    intro e he
    rcases List.mem_append.mp he with hold | hnew
    · exact h.nonempty e hold
    · rw [List.mem_singleton.mp hnew]
      exact hlt
  within := by
    intro e he
    rcases List.mem_append.mp he with hold | hnew
    · exact Nat.le_trans (h.within e hold) (Nat.le_of_lt hlt)
    · rw [List.mem_singleton.mp hnew]
  ordered := by
    rw [List.pairwise_append]
    refine ⟨h.ordered, List.pairwise_singleton _ _, ?_⟩
    intro e he e' he'
    rw [List.mem_singleton.mp he']
    exact h.within e he

end VTRemote
