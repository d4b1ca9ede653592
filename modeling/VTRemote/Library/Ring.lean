import Mathlib.Data.List.Basic
import Mathlib.Data.List.Range
import Mathlib.Data.Nat.ModEq

/-!
# Queues in a ring of slots

The elements of the queue are the `count` slots from `head` on, modulo the
number of slots.  A slot that is not in use holds the default value.
-/

namespace VTRemote

structure Ring (α : Type) where
  slots : List α
  head : Nat
  count : Nat
  count_le : count ≤ slots.length
deriving DecidableEq

namespace Ring

variable {α : Type} [Inhabited α]

def size (r : Ring α) : Nat := r.slots.length

def index (r : Ring α) (i : Nat) : Nat := (r.head + i) % r.size

def slot (r : Ring α) (i : Nat) : α := r.slots.getD (r.index i) default

/-- The elements in the order in which they were queued. -/
def toList (r : Ring α) : List α := (List.range r.count).map r.slot

def new (size : Nat) : Ring α where
  slots := List.replicate size default
  head := 0
  count := 0
  count_le := Nat.zero_le _

def store (r : Ring α) (x : α) : Ring α where
  slots := r.slots.set (r.index r.count) x
  head := r.head
  count := r.count
  count_le := by
    rw [List.length_set]
    exact r.count_le

def extend (r : Ring α) (h : r.count < r.size) : Ring α :=
  { r with
    count := r.count + 1
    count_le := h }

def grow (r : Ring α) : Ring α :=
  if h : r.count < r.size then r.extend h else r

def pop (r : Ring α) : Ring α where
  slots := r.slots.set (r.index 0) default
  head := r.index 1
  count := r.count - 1
  count_le := by
    rw [List.length_set]
    exact Nat.le_trans (Nat.sub_le _ _) r.count_le

def advance (r : Ring α) : Ring α where
  slots := r.slots
  head := r.index 1
  count := r.count - 1
  count_le := Nat.le_trans (Nat.sub_le _ _) r.count_le

def widen (r : Ring α) (more : Nat) : Ring α where
  slots := r.slots ++ List.replicate more default
  head := r.head
  count := r.count
  count_le := by
    rw [List.length_append]
    exact Nat.le_trans r.count_le (Nat.le_add_right _ _)

omit [Inhabited α] in
@[simp] theorem size_store (r : Ring α) (x : α) :
    (r.store x).size = r.size := by
  show (r.slots.set _ x).length = _
  rw [List.length_set]
  rfl

omit [Inhabited α] in
@[simp] theorem count_store (r : Ring α) (x : α) :
    (r.store x).count = r.count := rfl

omit [Inhabited α] in
@[simp] theorem size_extend (r : Ring α) (h : r.count < r.size) :
    (r.extend h).size = r.size := rfl

@[simp] theorem size_pop (r : Ring α) : r.pop.size = r.size := by
  show (r.slots.set _ default).length = _
  rw [List.length_set]
  rfl

@[simp] theorem size_new (n : Nat) : (new n : Ring α).size = n := by
  show (List.replicate n (default : α)).length = n
  exact List.length_replicate

@[simp] theorem length_toList (r : Ring α) : r.toList.length = r.count := by
  unfold toList
  rw [List.length_map, List.length_range]

omit [Inhabited α] in
theorem index_lt {r : Ring α} {i : Nat} (h : 0 < r.size) :
    r.index i < r.slots.length :=
  Nat.mod_lt _ h

omit [Inhabited α] in
theorem index_injective {r : Ring α} {i j : Nat} (hi : i < r.size)
    (hj : j < r.size) (h : r.index i = r.index j) : i = j := by
  have hmod : r.head + i ≡ r.head + j [MOD r.size] := h
  exact (Nat.ModEq.add_left_cancel' r.head hmod).eq_of_lt_of_lt hi hj

theorem slot_store_ne {r : Ring α} {i : Nat} (x : α) (hi : i < r.count)
    (h : r.count < r.size) : (r.store x).slot i = r.slot i := by
  have hne : r.index r.count ≠ r.index i := by
    intro heq
    have hi' := index_injective h (Nat.lt_trans hi h) heq
    exact Nat.ne_of_lt hi hi'.symm
  have hindex : (r.store x).index i = r.index i := by
    unfold index
    rw [size_store]
    rfl
  unfold slot
  rw [hindex]
  show (r.slots.set (r.index r.count) x).getD (r.index i) default = _
  simp only [List.getD_eq_getElem?_getD, List.getElem?_set_ne hne]

theorem slot_store_count {r : Ring α} (x : α) (h : r.count < r.size) :
    (r.store x).slot r.count = x := by
  have hpos : 0 < r.size := Nat.lt_of_le_of_lt (Nat.zero_le _) h
  have hindex : (r.store x).index r.count = r.index r.count := by
    unfold index
    rw [size_store]
    rfl
  unfold slot
  rw [hindex]
  show (r.slots.set (r.index r.count) x).getD (r.index r.count) default = _
  simp only [List.getD_eq_getElem?_getD,
    List.getElem?_set_self (index_lt hpos), Option.getD_some]

theorem toList_store {r : Ring α} (x : α) (h : r.count < r.size) :
    (r.store x).toList = r.toList := by
  unfold toList
  apply List.map_congr_left
  intro i hi
  exact slot_store_ne x (List.mem_range.mp hi) h

theorem toList_extend {r : Ring α} (h : r.count < r.size) :
    (r.extend h).toList = r.toList ++ [r.slot r.count] := by
  unfold toList
  show (List.range (r.count + 1)).map r.slot = _
  rw [List.range_succ, List.map_append]
  rfl

omit [Inhabited α] in
theorem grow_of_lt {r : Ring α} (h : r.count < r.size) :
    r.grow = r.extend h := by
  unfold grow
  rw [dif_pos h]

omit [Inhabited α] in
theorem count_grow {r : Ring α} (h : r.count < r.size) :
    r.grow.count = r.count + 1 := by
  rw [grow_of_lt h]
  rfl

theorem toList_push {r : Ring α} (x : α) (h : r.count < r.size) :
    (r.store x).grow.toList = r.toList ++ [x] := by
  have h' : (r.store x).count < (r.store x).size := by
    rw [size_store]
    exact h
  rw [grow_of_lt h', toList_extend, toList_store x h, count_store,
    slot_store_count x h]

/-- A slot that is written twice holds the later element. -/
theorem toList_push_again {r : Ring α} (x y : α) (h : r.count < r.size) :
    ((r.store x).store y).grow.toList = r.toList ++ [y] := by
  have h' : (r.store x).count < (r.store x).size := by
    rw [size_store]
    exact h
  rw [toList_push y h', toList_store x h]

omit [Inhabited α] in
@[simp] theorem size_grow (r : Ring α) : r.grow.size = r.size := by
  unfold grow
  split
  · exact size_extend r _
  · rfl

theorem slot_pop {r : Ring α} {i : Nat} (h : i + 1 < r.count) :
    r.pop.slot i = r.slot (i + 1) := by
  have hsize : r.count ≤ r.size := r.count_le
  have hindex : r.pop.index i = r.index (i + 1) := by
    unfold index
    rw [size_pop]
    show ((r.head + 1) % r.size + i) % r.size = _
    rw [Nat.mod_add_mod, Nat.add_assoc, Nat.add_comm 1 i]
  have hne : r.index 0 ≠ r.index (i + 1) := by
    intro heq
    have hzero := index_injective (by omega) (by omega) heq
    cases hzero
  unfold slot
  rw [hindex]
  show (r.slots.set (r.index 0) default).getD (r.index (i + 1)) default = _
  simp only [List.getD_eq_getElem?_getD, List.getElem?_set_ne hne]

theorem slot_advance (r : Ring α) (i : Nat) : r.advance.slot i = r.slot (i + 1) := by
  have hindex : r.advance.index i = r.index (i + 1) := by
    show ((r.head + 1) % r.size + i) % r.size = (r.head + (i + 1)) % r.size
    rw [Nat.mod_add_mod, Nat.add_assoc, Nat.add_comm 1 i]
  unfold slot
  rw [hindex]
  rfl

/-- The first slot holds the element that was queued first, and a queue that
goes on to the next slot holds the others. -/
theorem toList_eq_cons_advance {r : Ring α} (h : 0 < r.count) :
    r.toList = r.slot 0 :: r.advance.toList := by
  rcases Nat.exists_eq_succ_of_ne_zero (Nat.ne_of_gt h) with ⟨n, hn⟩
  unfold toList
  show _ = _ :: (List.range (r.count - 1)).map r.advance.slot
  rw [hn, Nat.succ_sub_one, List.range_succ_eq_map, List.map_cons, List.map_map]
  exact congrArg _ (List.map_congr_left fun i _ => (r.slot_advance i).symm)

/-- Where the queue begins with the first slot, more slots do not change it. -/
theorem toList_widen {r : Ring α} (more : Nat) (h : r.head = 0) :
    (r.widen more).toList = r.toList := by
  unfold toList
  apply List.map_congr_left
  intro i hi
  have hlt : i < r.slots.length :=
    Nat.lt_of_lt_of_le (List.mem_range.mp hi) r.count_le
  have hwide : i < (r.widen more).size := by
    show i < (r.slots ++ List.replicate more default).length
    rw [List.length_append]
    exact Nat.lt_of_lt_of_le hlt (Nat.le_add_right _ _)
  have hindex : (r.widen more).index i = i := by
    show (r.head + i) % _ = i
    rw [h, Nat.zero_add]
    exact Nat.mod_eq_of_lt hwide
  have hindex' : r.index i = i := by
    unfold index
    rw [h, Nat.zero_add]
    exact Nat.mod_eq_of_lt hlt
  unfold slot
  rw [hindex, hindex', List.getD_eq_getElem?_getD, List.getD_eq_getElem?_getD]
  exact congrArg (fun found => found.getD default) (List.getElem?_append_left hlt)

theorem toList_eq_cons {r : Ring α} (h : 0 < r.count) :
    r.toList = r.slot 0 :: r.pop.toList := by
  rcases Nat.exists_eq_succ_of_ne_zero (Nat.ne_of_gt h) with ⟨n, hn⟩
  unfold toList
  show _ = _ :: (List.range (r.count - 1)).map r.pop.slot
  rw [hn, Nat.succ_sub_one, List.range_succ_eq_map, List.map_cons,
    List.map_map]
  congr 1
  apply List.map_congr_left
  intro i hi
  exact (slot_pop (by rw [hn]; exact Nat.succ_lt_succ (List.mem_range.mp hi))).symm

end Ring
end VTRemote
