import Mathlib.Data.List.Basic

/-!
# Writes into a list

A buffer that is filled from the front: what was written is followed by the
room that is left.  Stores of single elements and copies of runs at the offset
between the two replace the front of the room.
-/

namespace VTRemote

variable {α : Type}

def copyInto (dst : List α) (offset : Nat) (src : List α) : List α :=
  dst.take offset ++ src ++ dst.drop (offset + src.length)

theorem copyInto_append (done room src : List α) :
    copyInto (done ++ room) done.length src = done ++ (src ++ room.drop src.length) := by
  unfold copyInto
  rw [List.take_left, List.drop_append, Nat.add_sub_cancel_left]
  rw [List.drop_eq_nil_of_le (Nat.le_add_right _ _), List.nil_append]
  exact List.append_assoc done src _

def storeAll (dst : List α) (offset : Nat) (elements : Nat -> α) (count : Nat) :
    List α :=
  (List.range count).foldl (fun dst i => dst.set (offset + i) (elements i)) dst

theorem storeAll_append (done : List α) {room : List α} (elements : Nat -> α)
    {count : Nat}
    (h : count ≤ room.length) :
    storeAll (done ++ room) done.length elements count =
      done ++ ((List.range count).map elements ++ room.drop count) := by
  induction count with
  | zero => rfl
  | succ count ih =>
      have hlt : count < room.length := h
      have hlength : ((List.range count).map elements).length = count := by
        rw [List.length_map, List.length_range]
      have hroom : room.drop count = room[count] :: room.drop (count + 1) :=
        List.drop_eq_getElem_cons hlt
      have hstored : storeAll (done ++ room) done.length elements (count + 1) =
          (storeAll (done ++ room) done.length elements count).set
            (done.length + count) (elements count) := by
        unfold storeAll
        rw [List.range_succ, List.foldl_append]
        rfl
      rw [hstored, ih (Nat.le_of_succ_le h), hroom]
      rw [List.set_append_right _ _ (Nat.le_add_right _ _), Nat.add_sub_cancel_left]
      rw [List.set_append_right _ _ (Nat.le_of_eq hlength), hlength, Nat.sub_self]
      rw [List.set_cons_zero, List.range_succ, List.map_append, List.append_assoc]
      rfl

end VTRemote
