import Mathlib.Order.GaloisConnection.Defs
import Mathlib.Logic.Function.Iterate
import Mathlib.Order.MinMax

/-!
# Ratchets

A value that every notch pushes up, at least to its floor, but not beyond its
ceiling.  How high it gets is decided by one floor and the ceilings behind it.
-/

namespace VTRemote

variable {α : Type}

structure Notch (α : Type) where
  floor : α
  ceiling : α

namespace Notch

variable [LinearOrder α] {up down : α -> α} {v x : α}

/-- The value behind the notch; `up` is the push. -/
def next (up : α -> α) (x : α) (notch : Notch α) : α :=
  min notch.ceiling (max notch.floor (up x))

def runAll (up : α -> α) (x : α) (notches : List (Notch α)) : α :=
  notches.foldl (next up) x

theorem runAll_cons (up : α -> α) (x : α) (notch : Notch α) (notches : List (Notch α)) :
    runAll up x (notch :: notches) = runAll up (next up x notch) notches := rfl

/-- A notch gets to a value under its ceiling, from its floor or by its push. -/
theorem le_next_iff (h : GaloisConnection down up) {notch : Notch α} :
    v ≤ next up x notch <->
      v ≤ notch.ceiling ∧ (v ≤ notch.floor ∨ down v ≤ x) := by
  unfold next
  rw [le_min_iff, le_max_iff, h]

def Clears (down : α -> α) (v : α) : List (Notch α) -> Prop
  | [] => True
  | notch :: rest => down^[rest.length] v ≤ notch.ceiling ∧ Clears down v rest

/-- A first floor is high enough for the pushes behind it, and so are the ceilings. -/
def Climbs (down : α -> α) (v : α) : List (Notch α) -> Prop
  | [] => False
  | notch :: rest =>
      down^[rest.length] v ≤ notch.floor ∧ Clears down v (notch :: rest)

/-- The value at the end comes from the start, or from a floor on the way. -/
theorem le_runAll_iff (h : GaloisConnection down up) {notches : List (Notch α)} :
    v ≤ runAll up x notches <->
      (Clears down v notches ∧ down^[notches.length] v ≤ x) ∨
      exists before climb, notches = before ++ climb ∧ Climbs down v climb := by
  induction notches generalizing x with
  | nil =>
      constructor
      · intro hle
        exact Or.inl ⟨trivial, hle⟩
      · intro hor
        rcases hor with ⟨_, hle⟩ | ⟨before, climb, hnil, hclimbs⟩
        · exact hle
        · rw [(List.append_eq_nil_iff.mp hnil.symm).2] at hclimbs
          exact hclimbs.elim
  | cons notch rest ih =>
      rw [runAll_cons, ih, le_next_iff h, List.length_cons,
        Function.iterate_succ_apply']
      constructor
      · intro hor
        rcases hor with
          ⟨hclears, hceiling, hfloor | hstart⟩ | ⟨before, climb, hrest, hclimbs⟩
        · exact Or.inr ⟨[], notch :: rest, rfl, hfloor, hceiling, hclears⟩
        · exact Or.inl ⟨⟨hceiling, hclears⟩, hstart⟩
        · exact Or.inr ⟨notch :: before, climb, congrArg (notch :: ·) hrest, hclimbs⟩
      · intro hor
        rcases hor with
          ⟨⟨hceiling, hclears⟩, hstart⟩ | ⟨before, climb, hnotches, hclimbs⟩
        · exact Or.inl ⟨hclears, hceiling, Or.inr hstart⟩
        · cases before with
          | nil =>
              rw [List.nil_append] at hnotches
              rw [← hnotches] at hclimbs
              rcases hclimbs with ⟨hfloor, hceiling, hclears⟩
              exact Or.inl ⟨hclears, hceiling, Or.inl hfloor⟩
          | cons first before =>
              rw [List.cons_append] at hnotches
              exact Or.inr ⟨before, climb, (List.cons.inj hnotches).2, hclimbs⟩

end Notch
end VTRemote
