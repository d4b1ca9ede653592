import VTRemote.Library.Writes

/-!
# Checked accesses

Code that computes its own offsets into a block of memory.  An access outside of
the block stops it, and so does a failure that it returns; the two are told
apart, so that an access outside of the block can be excluded.
-/

namespace VTRemote

variable {ε α β : Type}

inductive AccessError (ε : Type) where
  | returned (e : ε)
  | outOfRange
deriving DecidableEq, Repr

abbrev Accesses (ε α : Type) := Except (AccessError ε) α

namespace Accesses

def element (block : List α) (offset : Nat) : Accesses ε α :=
  match block[offset]? with
  | some a => .ok a
  | none => .error .outOfRange

def run (block : List α) (offset count : Nat) : Accesses ε (List α) :=
  if offset + count ≤ block.length then .ok ((block.drop offset).take count)
  else .error .outOfRange

def store (block : List α) (offset : Nat) (src : List α) : Accesses ε (List α) :=
  if offset + src.length ≤ block.length then .ok (copyInto block offset src)
  else .error .outOfRange

def times (body : α -> Accesses ε α) : Nat -> α -> Accesses ε α
  | 0, a => .ok a
  | count + 1, a => do
      let a ← body a
      times body count a

/-- The results that a computation can come to: an access outside of a block is
undefined, and allows every result. -/
def Allows (x : Accesses ε α) (result : Except ε α) : Prop :=
  match x with
  | .ok a => result = .ok a
  | .error (.returned e) => result = .error e
  | .error .outOfRange => True

def Inside (x : Accesses ε α) : Prop := x ≠ .error .outOfRange

theorem ok_bind (a : α) (f : α -> Accesses ε β) :
    (Except.ok a >>= f : Accesses ε β) = f a := rfl

theorem error_bind (e : AccessError ε) (f : α -> Accesses ε β) :
    (Except.error e >>= f : Accesses ε β) = .error e := rfl

theorem times_succ (body : α -> Accesses ε α) (count : Nat) (a : α) :
    times body (count + 1) a = body a >>= times body count := rfl

/-!
## Blocks in two parts
-/

theorem element_behind (front rest : List α) (a : α) (k : Nat) (h : rest[k]? = some a) :
    (element (front ++ rest) (front.length + k) : Accesses ε α) = .ok a := by
  unfold element
  rw [List.getElem?_append_right (Nat.le_add_right _ _), Nat.add_sub_cancel_left, h]

theorem element_eq_ok_iff {block : List α} {offset : Nat} {a : α} :
    (element block offset : Accesses ε α) = .ok a ↔ block[offset]? = some a := by
  unfold element
  cases block[offset]? with
  | none => exact iff_of_false (fun h => nomatch h) (fun h => nomatch h)
  | some b =>
      exact ⟨fun h => congrArg some (Except.ok.inj h),
        fun h => congrArg Except.ok (Option.some.inj h)⟩

theorem element_end (block : List α) :
    (element block block.length : Accesses ε α) = .error .outOfRange := by
  unfold element
  rw [List.getElem?_eq_none (Nat.le_refl _)]

theorem run_behind (front src rest : List α) :
    (run (front ++ (src ++ rest)) front.length src.length : Accesses ε (List α)) =
      .ok src := by
  have hfits : front.length + src.length ≤ (front ++ (src ++ rest)).length := by
    rw [List.length_append, List.length_append]
    exact Nat.add_le_add_left (Nat.le_add_right _ _) _
  unfold run
  rw [if_pos hfits, List.drop_left, List.take_left]

theorem store_append (done src room : List α)
    (h : src.length ≤ room.length) :
    (store (done ++ room) done.length src : Accesses ε (List α)) =
      .ok (done ++ (src ++ room.drop src.length)) := by
  have hfits : done.length + src.length ≤ (done ++ room).length := by
    rw [List.length_append]
    exact Nat.add_le_add_left h _
  unfold store
  rw [if_pos hfits, copyInto_append]

/-!
## Accesses inside of a block
-/

theorem inside_ok (a : α) : Inside (.ok a : Accesses ε α) :=
  fun h => nomatch h

theorem inside_returned (e : ε) : Inside (.error (.returned e) : Accesses ε α) :=
  fun h => nomatch h

theorem element_inside {block : List α} {offset : Nat} (h : offset < block.length) :
    Inside (element block offset : Accesses ε α) := by
  unfold element
  rw [List.getElem?_eq_getElem h]
  exact inside_ok _

theorem run_inside {block : List α} {offset count : Nat}
    (h : offset + count ≤ block.length) :
    Inside (run block offset count : Accesses ε (List α)) := by
  unfold run
  rw [if_pos h]
  exact inside_ok _

theorem store_inside {block src : List α} {offset : Nat}
    (h : offset + src.length ≤ block.length) :
    Inside (store block offset src : Accesses ε (List α)) := by
  unfold store
  rw [if_pos h]
  exact inside_ok _

theorem Inside.bind {x : Accesses ε α} {f : α -> Accesses ε β} (hx : Inside x)
    (hf : forall a, x = .ok a -> Inside (f a)) : Inside (x >>= f) := by
  cases x with
  | error e =>
      intro h
      exact hx (congrArg _ (Except.error.inj h))
  | ok a => exact hf a rfl

theorem times_inside {body : α -> Accesses ε α} (h : forall a, Inside (body a))
    (count : Nat) (a : α) : Inside (times body count a) := by
  induction count generalizing a with
  | zero => exact inside_ok a
  | succ count ih => exact (h a).bind fun a _ => ih a

theorem length_run {block src : List α} {offset count : Nat}
    (h : (run block offset count : Accesses ε (List α)) = .ok src) :
    src.length = count := by
  unfold run at h
  split at h
  · rename_i hfits
    rw [← Except.ok.inj h]
    apply List.length_take_of_le
    rw [List.length_drop]
    exact Nat.le_sub_of_add_le' hfits
  · cases h

theorem length_store {block src block' : List α} {offset : Nat}
    (h : (store block offset src : Accesses ε (List α)) = .ok block') :
    block'.length = block.length := by
  unfold store at h
  split at h
  · rename_i hfits
    rw [← Except.ok.inj h]
    unfold copyInto
    rw [List.length_append, List.length_append, List.length_take, List.length_drop]
    omega
  · cases h

/-!
## Loops over the pieces of a block

A round takes the piece that comes next, and `state front done` is where the
loop is behind the bytes `front` with the items `done`.
-/

section Pieces

variable {σ ι : Type} {body : List α -> σ -> Accesses ε σ} {bytes : ι -> List α}
variable {state : List α -> List ι -> σ} {P : List α -> List ι -> Prop}
variable {limit : Nat} {items : List ι}

/-- What a round does to a piece that is there as a whole. -/
def TakesPiece (body : List α -> σ -> Accesses ε σ) (bytes : ι -> List α)
    (state : List α -> List ι -> σ) (P : List α -> List ι -> Prop) (limit : Nat)
    (item : ι) : Prop :=
  forall front done rest, P front done -> (front ++ bytes item).length ≤ limit ->
    body (front ++ (bytes item ++ rest)) (state front done) =
        .ok (state (front ++ bytes item) (done ++ [item])) ∧
      P (front ++ bytes item) (done ++ [item])

theorem times_pieces (front : List α) (done : List ι) (rest : List α)
    (htakes : forall item, item ∈ items -> TakesPiece body bytes state P limit item)
    (hP : P front done) (hlimit : (front ++ items.flatMap bytes).length ≤ limit) :
    times (body (front ++ (items.flatMap bytes ++ rest))) items.length
        (state front done) =
          .ok (state (front ++ items.flatMap bytes) (done ++ items)) ∧
      P (front ++ items.flatMap bytes) (done ++ items) := by
  induction items generalizing front done with
  | nil =>
      rw [List.flatMap_nil, List.append_nil, List.append_nil]
      exact ⟨rfl, hP⟩
  | cons item items ih =>
      rw [List.flatMap_cons, ← List.append_assoc] at hlimit
      have hfits : (front ++ bytes item).length ≤ limit := by
        rw [List.length_append] at hlimit
        exact Nat.le_trans (Nat.le_add_right _ _) hlimit
      rcases htakes item List.mem_cons_self front done (items.flatMap bytes ++ rest)
        hP hfits with ⟨hbody, hP⟩
      have hnext := ih (front ++ bytes item) (done ++ [item])
        (fun item hmem => htakes item (List.mem_cons_of_mem _ hmem)) hP hlimit
      rw [List.append_assoc, List.append_assoc, List.append_assoc,
        List.singleton_append] at hnext
      rw [List.flatMap_cons, List.append_assoc, List.length_cons, times_succ, hbody,
        ok_bind]
      exact hnext

theorem times_cut {e : AccessError ε} (front : List α) (done : List ι) {k : Nat}
    (htakes : forall item, item ∈ items -> TakesPiece body bytes state P limit item)
    (hcut : forall item, item ∈ items -> forall front done k, P front done ->
      k < (bytes item).length -> front.length + k ≤ limit ->
        body (front ++ (bytes item).take k) (state front done) = .error e)
    (hP : P front done) (hk : k < (items.flatMap bytes).length)
    (hlimit : front.length + k ≤ limit) :
    times (body (front ++ (items.flatMap bytes).take k)) items.length
      (state front done) = .error e := by
  induction items generalizing front done k with
  | nil => exact absurd hk (Nat.not_lt_zero k)
  | cons item items ih =>
      rw [List.flatMap_cons, List.length_cons, times_succ]
      rcases Nat.lt_or_ge k (bytes item).length with hhere | hlater
      · rw [List.take_append_of_le_length (Nat.le_of_lt hhere)]
        rw [hcut item List.mem_cons_self front done k hP hhere hlimit, error_bind]
      · rcases Nat.exists_eq_add_of_le hlater with ⟨j, rfl⟩
        have hfits : (front ++ bytes item).length ≤ limit := by
          rw [List.length_append]
          exact Nat.le_trans (Nat.add_le_add_left (Nat.le_add_right _ _) _) hlimit
        rcases htakes item List.mem_cons_self front done ((items.flatMap bytes).take j)
          hP hfits with ⟨hbody, hP⟩
        rw [List.flatMap_cons, List.length_append] at hk
        rw [List.take_length_add_append, hbody, ok_bind, ← List.append_assoc]
        refine ih _ _ (fun item hmem => htakes item (List.mem_cons_of_mem _ hmem))
          (fun item hmem => hcut item (List.mem_cons_of_mem _ hmem)) hP
          (Nat.lt_of_add_lt_add_left hk) ?_
        rw [List.length_append, Nat.add_assoc]
        exact hlimit

end Pieces

end Accesses

end VTRemote
