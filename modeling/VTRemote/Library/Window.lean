import Mathlib.Data.List.Basic

/-!
# Windows that lose slots

A sender has a window with a limit of slots.  An item that is taken occupies a
slot until it is given back, and the item that fills the window loses a slot for
good, unless it is free of charge.

How soon slots are given back is not up to the sender.  In `submitAll` they are
given back as late as possible, and no other run loses more of them.
-/

namespace VTRemote

/-- The slots that are occupied, and those among them that will never be given
back. -/
structure Window where
  load : Nat
  lost : Nat
deriving DecidableEq, Repr

/-- Whether an item is taken, and whether it fills the window free of charge. -/
structure Offer where
  taken : Bool
  free : Bool
deriving DecidableEq, Repr

namespace Window

variable {limit : Nat} {item : Offer} {w w' late : Window}

/-- An item on its own.  In front of a full window a slot is given back first,
and an item that is not taken leaves it vacant. -/
def submit (limit : Nat) (w : Window) (item : Offer) : Window :=
  if item.taken then
    if w.load = limit then w
    else if w.load + 1 = limit ∧ item.free = false then ⟨w.load + 1, w.lost + 1⟩
    else ⟨w.load + 1, w.lost⟩
  else if w.load = limit then ⟨w.load - 1, w.lost⟩
  else w

/-- A slot is given back, and the item occupies it if it is taken at all. -/
def exchange (w : Window) (item : Offer) : Window :=
  if item.taken then w else ⟨w.load - 1, w.lost⟩

inductive Turn (limit : Nat) (item : Offer) (w : Window) : Window -> Prop where
  | submitted : Turn limit item w (w.submit limit item)
  | exchanged (hload : 0 < w.load) : Turn limit item w (w.exchange item)

def submitAll (limit : Nat) (w : Window) (items : List Offer) : Window :=
  items.foldl (submit limit) w

/-!
## One item
-/

theorem submit_full (htaken : item.taken = true) (hfull : w.load = limit) :
    w.submit limit item = w := by
  unfold submit
  rw [if_pos htaken, if_pos hfull]

theorem submit_fills (htaken : item.taken = true) (hfree : item.free = false)
    (hload : w.load + 1 = limit) :
    w.submit limit item = ⟨w.load + 1, w.lost + 1⟩ := by
  unfold submit
  rw [if_pos htaken, if_neg (by omega), if_pos ⟨hload, hfree⟩]

theorem submit_fills_free (htaken : item.taken = true)
    (hfree : item.free = true) (hload : w.load + 1 = limit) :
    w.submit limit item = ⟨w.load + 1, w.lost⟩ := by
  unfold submit
  rw [if_pos htaken, if_neg (by omega), if_neg (by simp [hfree])]

theorem submit_adds (htaken : item.taken = true) (hload : w.load + 1 < limit) :
    w.submit limit item = ⟨w.load + 1, w.lost⟩ := by
  unfold submit
  rw [if_pos htaken, if_neg (by omega), if_neg (by omega)]

theorem submit_vacates (htaken : item.taken = false) (hfull : w.load = limit) :
    w.submit limit item = ⟨w.load - 1, w.lost⟩ := by
  unfold submit
  rw [if_neg (by simp [htaken]), if_pos hfull]

theorem submit_refused (htaken : item.taken = false) (hload : w.load < limit) :
    w.submit limit item = w := by
  unfold submit
  rw [if_neg (by simp [htaken]), if_neg (Nat.ne_of_lt hload)]

theorem exchange_taken (htaken : item.taken = true) : w.exchange item = w := by
  unfold exchange
  rw [if_pos htaken]

theorem exchange_refused (htaken : item.taken = false) :
    w.exchange item = ⟨w.load - 1, w.lost⟩ := by
  unfold exchange
  rw [if_neg (by simp [htaken])]

inductive Submits (limit : Nat) (item : Offer) (w : Window) : Window -> Prop where
  | full (htaken : item.taken = true) (hfull : w.load = limit) :
      Submits limit item w w
  | fills (htaken : item.taken = true) (hfree : item.free = false)
      (hload : w.load + 1 = limit) :
      Submits limit item w ⟨w.load + 1, w.lost + 1⟩
  | fillsFree (htaken : item.taken = true) (hfree : item.free = true)
      (hload : w.load + 1 = limit) : Submits limit item w ⟨w.load + 1, w.lost⟩
  | adds (htaken : item.taken = true) (hload : w.load + 1 < limit) :
      Submits limit item w ⟨w.load + 1, w.lost⟩
  | vacates (htaken : item.taken = false) (hfull : w.load = limit) :
      Submits limit item w ⟨w.load - 1, w.lost⟩
  | refused (htaken : item.taken = false) (hload : w.load < limit) :
      Submits limit item w w

theorem submit_submits (h : w.load ≤ limit) (item : Offer) :
    Submits limit item w (w.submit limit item) := by
  cases htaken : item.taken with
  | false =>
      rcases Nat.lt_or_eq_of_le h with hlt | hfull
      · rw [submit_refused htaken hlt]
        exact .refused htaken hlt
      · rw [submit_vacates htaken hfull]
        exact .vacates htaken hfull
  | true =>
      rcases Nat.lt_or_eq_of_le h with hlt | hfull
      · rcases Nat.lt_or_eq_of_le (Nat.succ_le_of_lt hlt) with hroom | hfills
        · rw [submit_adds htaken hroom]
          exact .adds htaken hroom
        · cases hfree : item.free with
          | false =>
              rw [submit_fills htaken hfree hfills]
              exact .fills htaken hfree hfills
          | true =>
              rw [submit_fills_free htaken hfree hfills]
              exact .fillsFree htaken hfree hfills
      · rw [submit_full htaken hfull]
        exact .full htaken hfull

/-- A window that has lost all its slots is full. -/
structure Within (limit : Nat) (w : Window) : Prop where
  load_le : w.load ≤ limit
  lost_le : w.lost ≤ limit
  full : w.lost = limit -> w.load = limit

theorem Submits.within (hsubmits : Submits limit item w w')
    (h : Within limit w) (hlost : w.lost < limit) : Within limit w' := by
  have hkept : forall {n : Nat}, n ≤ limit -> Within limit ⟨n, w.lost⟩ := by
    intro n hn
    exact ⟨hn, h.lost_le, fun hall => absurd hall (Nat.ne_of_lt hlost)⟩
  cases hsubmits with
  | full _ _ => exact h
  | fills _ _ hload => exact ⟨Nat.le_of_eq hload, hlost, fun _ => hload⟩
  | fillsFree _ _ hload => exact hkept (Nat.le_of_eq hload)
  | adds _ hload => exact hkept (Nat.le_of_lt hload)
  | vacates _ hfull => exact hkept (Nat.le_trans (Nat.sub_le _ _) h.load_le)
  | refused _ _ => exact h

theorem Submits.lost_le (hsubmits : Submits limit item w w') :
    w.lost ≤ w'.lost := by
  cases hsubmits with
  | full _ _ => exact Nat.le_refl _
  | fills _ _ _ => exact Nat.le_succ _
  | fillsFree _ _ _ => exact Nat.le_refl _
  | adds _ _ => exact Nat.le_refl _
  | vacates _ _ => exact Nat.le_refl _
  | refused _ _ => exact Nat.le_refl _

theorem Submits.load_le (hsubmits : Submits limit item w w')
    (h : w.load ≤ limit) : w'.load ≤ limit := by
  cases hsubmits with
  | full _ _ => exact h
  | fills _ _ hload => exact Nat.le_of_eq hload
  | fillsFree _ _ hload => exact Nat.le_of_eq hload
  | adds _ hload => exact Nat.le_of_lt hload
  | vacates _ _ => exact Nat.le_trans (Nat.sub_le _ _) h
  | refused _ _ => exact h

theorem lost_le_submitAll (h : w.load ≤ limit) (items : List Offer) :
    w.lost ≤ (w.submitAll limit items).lost := by
  induction items generalizing w with
  | nil => exact Nat.le_refl _
  | cons item rest ih =>
      have hsubmits := submit_submits h item
      exact Nat.le_trans hsubmits.lost_le (ih (hsubmits.load_le h))

/-!
## Giving back as late as possible
-/

/-- The lost slots, and the one that filling the window will cost. -/
def risk (limit : Nat) (w : Window) : Nat :=
  if w.load < limit then w.lost + 1 else w.lost

theorem risk_vacant (h : w.load < limit) : w.risk limit = w.lost + 1 :=
  if_pos h

theorem risk_full (h : w.load = limit) : w.risk limit = w.lost :=
  if_neg (Nat.not_lt_of_le (Nat.le_of_eq h.symm))

/-- Another window has no fewer slots occupied, and risks no fewer. -/
structure Below (limit : Nat) (w late : Window) : Prop where
  load : w.load ≤ late.load
  within : late.load ≤ limit
  risk : w.risk limit ≤ late.risk limit

theorem Below.refl (h : w.load ≤ limit) : Below limit w w :=
  ⟨Nat.le_refl _, h, Nat.le_refl _⟩

theorem Below.lost_le (h : Below limit w late) (hfull : w.load = limit) :
    w.lost ≤ late.lost := by
  have hlate : late.load = limit := Nat.le_antisymm h.within (hfull ▸ h.load)
  have hrisk := h.risk
  rw [risk_full hfull, risk_full hlate] at hrisk
  exact hrisk

theorem risk_submit_taken (h : w.load ≤ limit) (htaken : item.taken = true)
    (hfree : item.free = false) :
    (w.submit limit item).risk limit = w.risk limit := by
  rcases Nat.lt_or_eq_of_le h with hlt | hfull
  · rw [risk_vacant hlt]
    rcases Nat.lt_or_eq_of_le (Nat.succ_le_of_lt hlt) with hroom | hfills
    · rw [submit_adds htaken hroom]
      exact risk_vacant hroom
    · rw [submit_fills htaken hfree hfills]
      exact risk_full hfills
  · rw [submit_full htaken hfull]

theorem Submits.load_taken (hsubmits : Submits limit item w w')
    (htaken : item.taken = true) : w'.load = min (w.load + 1) limit := by
  cases hsubmits with
  | full _ hfull => omega
  | fills _ _ hload => exact (Nat.min_eq_left (Nat.le_of_eq hload)).symm
  | fillsFree _ _ hload => exact (Nat.min_eq_left (Nat.le_of_eq hload)).symm
  | adds _ hload => exact (Nat.min_eq_left (Nat.le_of_lt hload)).symm
  | vacates hrefused _ => simp [htaken] at hrefused
  | refused hrefused _ => simp [htaken] at hrefused

theorem risk_submit_refused (h : w.load ≤ limit) (hlimit : 0 < limit)
    (htaken : item.taken = false) :
    (w.submit limit item).risk limit = w.lost + 1 := by
  rcases Nat.lt_or_eq_of_le h with hlt | hfull
  · rw [submit_refused htaken hlt]
    exact risk_vacant hlt
  · rw [submit_vacates htaken hfull]
    exact risk_vacant (by rw [hfull]; exact Nat.sub_lt hlimit Nat.one_pos)

theorem Submits.load_refused (hsubmits : Submits limit item w w')
    (htaken : item.taken = false) : w'.load = min w.load (limit - 1) := by
  cases hsubmits with
  | full hrefused _ => simp [htaken] at hrefused
  | fills hrefused _ _ => simp [htaken] at hrefused
  | fillsFree hrefused _ _ => simp [htaken] at hrefused
  | adds hrefused _ => simp [htaken] at hrefused
  | vacates _ hfull =>
      rw [hfull]
      exact (Nat.min_eq_right (Nat.sub_le _ _)).symm
  | refused _ hload => exact (Nat.min_eq_left (Nat.le_sub_one_of_lt hload)).symm

theorem Below.turn_taken (h : Below limit w late) (htaken : item.taken = true)
    (hfree : item.free = false) (hturn : Turn limit item w w') :
    Below limit w' (late.submit limit item) := by
  have hlate := h.within
  have hw : w.load ≤ limit := Nat.le_trans h.load hlate
  have hsubmits := submit_submits hlate item
  have hload := hsubmits.load_taken htaken
  have hrisk := risk_submit_taken hlate htaken hfree
  cases hturn with
  | submitted =>
      have hload' := (submit_submits hw item).load_taken htaken
      have hrisk' := risk_submit_taken hw htaken hfree
      refine ⟨?_, hsubmits.load_le hlate, ?_⟩
      · rw [hload, hload']
        have hle := h.load
        omega
      · rw [hrisk, hrisk']
        exact h.risk
  | exchanged _ =>
      rw [exchange_taken htaken]
      refine ⟨?_, hsubmits.load_le hlate, ?_⟩
      · rw [hload]
        exact Nat.le_min.mpr ⟨Nat.le_trans h.load (Nat.le_succ _), hw⟩
      · rw [hrisk]
        exact h.risk

theorem Below.turn_refused (h : Below limit w late) (hlimit : 0 < limit)
    (htaken : item.taken = false) (hturn : Turn limit item w w') :
    Below limit w' (late.submit limit item) := by
  have hlate := h.within
  have hw : w.load ≤ limit := Nat.le_trans h.load hlate
  have hsubmits := submit_submits hlate item
  have hload := hsubmits.load_refused htaken
  have hrisk := risk_submit_refused hlate hlimit htaken
  -- A full window lies below a full one only.
  have hlost : w.lost + 1 ≤ late.lost + 1 := by
    rcases Nat.lt_or_eq_of_le hw with hlt | hfull
    · have hbelow := h.risk
      rw [risk_vacant hlt] at hbelow
      unfold Window.risk at hbelow
      split at hbelow
      · exact hbelow
      · exact Nat.le_succ_of_le hbelow
    · exact Nat.succ_le_succ (h.lost_le hfull)
  cases hturn with
  | submitted =>
      refine ⟨?_, hsubmits.load_le hlate, ?_⟩
      · rw [hload, (submit_submits hw item).load_refused htaken]
        have hle := h.load
        omega
      · rw [hrisk, risk_submit_refused hw hlimit htaken]
        exact hlost
  | exchanged hpos =>
      rw [exchange_refused htaken]
      refine ⟨?_, hsubmits.load_le hlate, ?_⟩
      · rw [hload]
        have hle := h.load
        show w.load - 1 ≤ min late.load (limit - 1)
        omega
      · rw [hrisk, risk_vacant (show w.load - 1 < limit by omega)]
        exact hlost

/-- Whatever an item does to a window, the window stays below the one in which
slots are given back late, if only an empty window is filled for free. -/
theorem Below.turn (h : Below limit w late) (hlimit : 0 < limit)
    (hfree : item.free = true -> late = w ∧ late.load = 0)
    (hturn : Turn limit item w w') :
    Below limit w' (late.submit limit item) := by
  cases htaken : item.taken with
  | false => exact h.turn_refused hlimit htaken hturn
  | true =>
      cases hcharge : item.free with
      | false => exact h.turn_taken htaken hcharge hturn
      | true =>
          rcases hfree hcharge with ⟨rfl, hzero⟩
          cases hturn with
          | submitted =>
              exact Below.refl ((submit_submits h.within item).load_le h.within)
          | exchanged hpos =>
              rw [hzero] at hpos
              exact absurd hpos (Nat.lt_irrefl 0)

end Window
end VTRemote
