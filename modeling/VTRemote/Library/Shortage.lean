import VTRemote.Library.Format

/-!
# Where readers break off

A reader that runs out of bytes has whole items behind it and stands where the
next one is due.  The rules give, for a reader put together from others, the
bytes behind which it fails in one particular way.
-/

namespace VTRemote

/-- The decoder reads the encodings of the values with `P`, and nothing else. -/
structure Decoder.Reads {α : Type} (d : Decoder α) (encode : α -> List UInt8)
    (P : α -> Prop) : Prop where
  of_some : forall {bytes rest : List UInt8} {a : α}, d bytes = some (a, rest) ->
    P a ∧ bytes = encode a ++ rest
  of_encode : forall {a : α}, P a -> forall rest,
    d (encode a ++ rest) = some (a, rest)

theorem Format.reads {α : Type} (f : Format α) :
    f.decode.Reads f.encode fun _ => True where
  of_some h := ⟨trivial, f.encode_decode _ _ _ h⟩
  of_encode _ rest := f.decode_encode _ rest

def Items {α : Type} (P : α -> Prop) (n : Nat) (items : List α) : Prop :=
  items.length = n ∧ forall a, a ∈ items -> P a

theorem Items.cons {α : Type} {P : α -> Prop} {n : Nat} {a : α} {items : List α}
    (ha : P a) (h : Items P n items) : Items P (n + 1) (a :: items) := by
  constructor
  · rw [List.length_cons, h.1]
  · intro b hb
    rcases List.mem_cons.mp hb with rfl | hb
    · exact ha
    · exact h.2 b hb

theorem Decoder.Reads.times {α : Type} {d : Decoder α} {encode : α -> List UInt8}
    {P : α -> Prop} (h : d.Reads encode P) (n : Nat) :
    (d.times n).Reads (fun items => items.flatMap encode) (Items P n) := by
  constructor
  · intro bytes rest items hitems
    induction n generalizing bytes items with
    | zero =>
        cases hitems
        exact ⟨⟨rfl, (fun a ha => nomatch ha)⟩, rfl⟩
    | succ n ih =>
        rcases bind_eq_some.mp hitems with ⟨a, mid, ha, hitems⟩
        rcases bind_eq_some.mp hitems with ⟨tail, mid', htail, hitems⟩
        cases hitems
        rcases h.of_some ha with ⟨hP, hbytes⟩
        rcases ih htail with ⟨hall, hmid⟩
        refine ⟨hall.cons hP, ?_⟩
        rw [List.flatMap_cons, List.append_assoc, <- hmid]
        exact hbytes
  · intro items hitems rest
    have hall := Decoder.times_flatMap encode items
      (fun a ha rest => h.of_encode (hitems.2 a ha) rest) rest
    rw [hitems.1] at hall
    exact hall

/-- Fewer than `n` whole items, and what is due in the next one. -/
def DueAmong {α : Type} (encode : α -> List UInt8) (P : α -> Prop)
    (due : List UInt8 -> Prop) (n : Nat) (front : List UInt8) : Prop :=
  exists (items : List α) (rest : List UInt8),
    items.length < n ∧ (forall a, a ∈ items -> P a) ∧
      front = items.flatMap encode ++ rest ∧ due rest

theorem dueAmong_zero {α : Type} {encode : α -> List UInt8} {P : α -> Prop}
    {due : List UInt8 -> Prop} (front : List UInt8) :
    ¬ DueAmong encode P due 0 front := by
  intro h
  rcases h with ⟨items, rest, hlength, _⟩
  exact Nat.not_lt_zero _ hlength

theorem dueAmong_succ {α : Type} {encode : α -> List UInt8} {P : α -> Prop}
    {due : List UInt8 -> Prop} {n : Nat} {front : List UInt8} :
    DueAmong encode P due (n + 1) front <->
      due front ∨ exists a rest, P a ∧ front = encode a ++ rest ∧
        DueAmong encode P due n rest := by
  constructor
  · intro h
    rcases h with ⟨items, rest, hlength, hall, hfront, hdue⟩
    cases items with
    | nil =>
        rw [List.flatMap_nil, List.nil_append] at hfront
        rw [hfront]
        exact Or.inl hdue
    | cons a items =>
        rw [List.flatMap_cons, List.append_assoc] at hfront
        exact Or.inr ⟨a, _, hall a List.mem_cons_self, hfront, items, rest,
          Nat.lt_of_succ_lt_succ hlength,
          fun b hb => hall b (List.mem_cons_of_mem a hb), rfl, hdue⟩
  · intro h
    rcases h with hdue | ⟨a, rest, ha, hfront, items, last, hlength, hall, hrest, hdue⟩
    · exact ⟨[], front, Nat.succ_pos n, (fun a ha => nomatch ha), rfl, hdue⟩
    · refine ⟨a :: items, last, Nat.succ_lt_succ hlength, ?_, ?_, hdue⟩
      · intro b hb
        rcases List.mem_cons.mp hb with rfl | hb
        · exact ha
        · exact hall b hb
      · rw [hfront, hrest, List.flatMap_cons, List.append_assoc]

/-!
## Readers
-/

section Readers

variable {ρ ε α β γ : Type} {ok : ρ -> Prop} {ahead : ρ -> List UInt8}
variable {short : List UInt8 -> Prop} {e : ε}

/-- The reader fails with `e` exactly where the bytes ahead are those behind
which something is due, and a rest that is too short for it. -/
def FailsBehind (ok : ρ -> Prop) (ahead : ρ -> List UInt8)
    (short : List UInt8 -> Prop) (e : ε) (read : StateT ρ (Except ε) α)
    (due : List UInt8 -> Prop) : Prop :=
  forall r, ok r -> (read r = .error e <->
    exists front cut, ahead r = front ++ cut ∧ due front ∧ short cut)

theorem FailsBehind.of_iff {read : StateT ρ (Except ε) α}
    {due due' : List UInt8 -> Prop} (h : FailsBehind ok ahead short e read due)
    (hdue : forall front, due front <-> due' front) :
    FailsBehind ok ahead short e read due' := by
  have heq : due = due' := funext fun front => propext (hdue front)
  rw [<- heq]
  exact h

theorem FailsBehind.never {read : StateT ρ (Except ε) α}
    {due : List UInt8 -> Prop} (h : forall r, ok r -> read r ≠ .error e)
    (hdue : forall front, ¬ due front) :
    FailsBehind ok ahead short e read due := by
  intro r hok
  constructor
  · exact fun hread => absurd hread (h r hok)
  · intro h
    rcases h with ⟨front, cut, _, hfront, _⟩
    exact absurd hfront (hdue front)

theorem FailsBehind.map {read : StateT ρ (Except ε) α}
    {due : List UInt8 -> Prop} (h : FailsBehind ok ahead short e read due)
    (f : α -> β) :
    FailsBehind ok ahead short e (read >>= fun a => Pure.pure (f a)) due := by
  intro r hok
  rw [<- h r hok]
  cases hread : read r with
  | error e' =>
      rw [bind_of_error hread]
      exact ⟨fun h => congrArg _ (Except.error.inj h),
        fun h => congrArg _ (Except.error.inj h)⟩
  | ok p =>
      rw [bind_of_ok hread]
      exact ⟨fun h => (nomatch h), fun h => (nomatch h)⟩

theorem FailsBehind.bind_map {read : StateT ρ (Except ε) β} {d : Decoder α}
    {view : α -> β} {encode : α -> List UInt8} {P : α -> Prop}
    {next : β -> StateT ρ (Except ε) γ} {due : List UInt8 -> Prop}
    {dueNext : α -> List UInt8 -> Prop} (hreads : d.Reads encode P)
    (hfollows : Follows ok ahead read (view <$> d))
    (hrefuses : Refuses ok ahead read (view <$> d))
    (h : FailsBehind ok ahead short e read due)
    (hnext : forall a, P a ->
      FailsBehind ok ahead short e (next (view a)) (dueNext a)) :
    FailsBehind ok ahead short e (read >>= next) fun front =>
      due front ∨ exists a rest, P a ∧ front = encode a ++ rest ∧ dueNext a rest := by
  intro r hok
  constructor
  · intro hfails
    cases hd : d (ahead r) with
    | none =>
        rcases hrefuses.of_map hok hd with ⟨e', hread⟩
        rw [bind_of_error hread] at hfails
        rw [Except.error.inj hfails] at hread
        rcases (h r hok).mp hread with ⟨front, cut, hahead, hdue, hshort⟩
        exact ⟨front, cut, hahead, Or.inl hdue, hshort⟩
    | some p =>
        rcases p with ⟨a, rest⟩
        rcases hreads.of_some hd with ⟨ha, hsplit⟩
        rcases hfollows.of_map hok hd with ⟨r1, hread, hok1, hahead1⟩
        rw [bind_of_ok hread] at hfails
        rcases (hnext a ha r1 hok1).mp hfails with ⟨front, cut, hrest, hdue, hshort⟩
        refine ⟨encode a ++ front, cut, ?_, Or.inr ⟨a, front, ha, rfl, hdue⟩, hshort⟩
        rw [hsplit, <- hahead1, hrest, List.append_assoc]
  · intro h
    rcases h with ⟨front, cut, hahead, hdue | ⟨a, rest, ha, hfront, hdue⟩, hshort⟩
    · exact bind_of_error ((h r hok).mpr ⟨front, cut, hahead, hdue, hshort⟩)
    · have hd := hreads.of_encode ha (rest ++ cut)
      rw [<- List.append_assoc, <- hfront, <- hahead] at hd
      rcases hfollows.of_map hok hd with ⟨r1, hread, hok1, hahead1⟩
      rw [bind_of_ok hread]
      exact (hnext a ha r1 hok1).mpr ⟨rest, cut, hahead1, hdue, hshort⟩

theorem FailsBehind.among {read : StateT ρ (Except ε) β} {d : Decoder α}
    {view : α -> β} {encode : α -> List UInt8} {P : α -> Prop}
    {next : β -> StateT ρ (Except ε) γ} {due : List UInt8 -> Prop} {n : Nat}
    (hreads : d.Reads encode P) (hfollows : Follows ok ahead read (view <$> d))
    (hrefuses : Refuses ok ahead read (view <$> d))
    (h : FailsBehind ok ahead short e read due)
    (hnext : forall a, P a -> FailsBehind ok ahead short e (next (view a))
      (DueAmong encode P due n)) :
    FailsBehind ok ahead short e (read >>= next)
      (DueAmong encode P due (n + 1)) :=
  (FailsBehind.bind_map hreads hfollows hrefuses h hnext).of_iff
    fun _ => dueAmong_succ.symm

theorem FailsBehind.times {read : StateT ρ (Except ε) β} {d : Decoder α}
    {view : α -> β} {encode : α -> List UInt8} {P : α -> Prop}
    {due : List UInt8 -> Prop} (hreads : d.Reads encode P)
    (hfollows : Follows ok ahead read (view <$> d))
    (hrefuses : Refuses ok ahead read (view <$> d))
    (h : FailsBehind ok ahead short e read due) (n : Nat) :
    FailsBehind ok ahead short e (readTimes read n)
      (DueAmong encode P due n) := by
  induction n with
  | zero => exact FailsBehind.never (fun _ _ hread => nomatch hread) dueAmong_zero
  | succ n ih =>
      unfold readTimes
      apply FailsBehind.among hreads hfollows hrefuses h
      intro a _
      exact ih.map _

end Readers
end VTRemote
