import Mathlib.Data.Finset.Basic

/-!
# Ledgers

A ledger counts the resources of one kind: which are held, and how often something
was given back that was not.  No resource has the name of an earlier one.
-/

namespace VTRemote

structure Ledger where
  next : Nat
  held : Finset Nat
  faults : Nat
  fresh : forall n, n ∈ held -> n < next

namespace Ledger

def empty : Ledger where
  next := 0
  held := ∅
  faults := 0
  fresh := fun n hn => absurd hn (Finset.notMem_empty n)

def acquire (l : Ledger) : Ledger where
  next := l.next + 1
  held := insert l.next l.held
  faults := l.faults
  fresh := by
    intro n hn
    rcases Finset.mem_insert.mp hn with heq | hheld
    · rw [heq]
      exact Nat.lt_succ_self _
    · exact Nat.lt_succ_of_lt (l.fresh n hheld)

def release (l : Ledger) (n : Nat) : Ledger where
  next := l.next
  held := l.held.erase n
  faults := if n ∈ l.held then l.faults else l.faults + 1
  fresh := fun k hk => l.fresh k (Finset.mem_of_mem_erase hk)

def releaseAll (l : Ledger) (names : List Nat) : Ledger :=
  names.foldl release l

theorem next_notMem (l : Ledger) : l.next ∉ l.held :=
  fun h => absurd (l.fresh l.next h) (Nat.lt_irrefl _)

@[simp]
theorem acquire_held (l : Ledger) : l.acquire.held = insert l.next l.held := rfl

@[simp]
theorem acquire_faults (l : Ledger) : l.acquire.faults = l.faults := rfl

@[simp]
theorem release_held (l : Ledger) (n : Nat) : (l.release n).held = l.held.erase n := rfl

theorem release_faults {l : Ledger} {n : Nat} (h : n ∈ l.held) :
    (l.release n).faults = l.faults :=
  if_pos h

/-!
## Owners

The names that the ledger holds, in some order.
-/

structure Owns (l : Ledger) (names : List Nat) : Prop where
  nodup : names.Nodup
  held : l.held = names.toFinset
  sound : l.faults = 0

namespace Owns

variable {l : Ledger} {names : List Nat} {n : Nat}

theorem empty : Ledger.empty.Owns [] := ⟨List.nodup_nil, rfl, rfl⟩

theorem perm {names' : List Nat} (h : l.Owns names) (hperm : names.Perm names') :
    l.Owns names' where
  nodup := hperm.nodup_iff.mp h.nodup
  held := h.held.trans (List.toFinset_eq_of_perm names names' hperm)
  sound := h.sound

theorem acquire (h : l.Owns names) : l.acquire.Owns (l.next :: names) where
  nodup := by
    apply List.nodup_cons.mpr
    constructor
    · intro hmem
      apply l.next_notMem
      rw [h.held]
      exact List.mem_toFinset.mpr hmem
    · exact h.nodup
  held := by
    rw [acquire_held, h.held, List.toFinset_cons]
  sound := h.sound

theorem release (h : l.Owns (n :: names)) : (l.release n).Owns names where
  nodup := (List.nodup_cons.mp h.nodup).2
  held := by
    rw [release_held, h.held, List.toFinset_cons]
    apply Finset.erase_insert
    intro hmem
    exact (List.nodup_cons.mp h.nodup).1 (List.mem_toFinset.mp hmem)
  sound := by
    have hmem : n ∈ l.held := by
      rw [h.held]
      exact List.mem_toFinset.mpr List.mem_cons_self
    exact (release_faults hmem).trans h.sound

theorem releaseAll {released : List Nat} (h : l.Owns (released ++ names)) :
    (l.releaseAll released).Owns names := by
  induction released generalizing l with
  | nil => exact h
  | cons n released ih => exact ih h.release

end Owns

end Ledger
end VTRemote
