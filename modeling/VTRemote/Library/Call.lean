import Mathlib.Order.Defs.Unbundled

/-!
# Calls that may block

A call works on a state; it returns a value or an error together with the state
it leaves, or it blocks for good in some state.  The rules below give what a
composed call ends with from what its parts end with, and the relation along
which it moves the state.
-/

namespace VTRemote

inductive Outcome (ε σ α : Type) where
  | returned (result : Except ε α) (state : σ)
  | blocked (state : σ)

namespace Outcome

variable {ε σ α : Type}

def state : Outcome ε σ α -> σ
  | returned _ s => s
  | blocked s => s

def value : Outcome ε σ α -> Option α
  | returned (.ok a) _ => some a
  | _ => none

theorem eq_of_value {o : Outcome ε σ α} (h : o.value.isSome = true) :
    exists a, o = .returned (.ok a) o.state := by
  cases o with
  | returned r s =>
      cases r with
      | ok a => exact ⟨a, rfl⟩
      | error e => cases h
  | blocked s => cases h

/-- `Q` holds of the result and state of a call that returned, `B` of the state
that it blocks in. -/
def Ends (Q : Except ε α -> σ -> Prop) (B : σ -> Prop) :
    Outcome ε σ α -> Prop
  | returned r s => Q r s
  | blocked s => B s

theorem Ends.mono {Q Q' : Except ε α -> σ -> Prop} {B B' : σ -> Prop}
    {o : Outcome ε σ α} (h : o.Ends Q B) (hQ : forall r s, Q r s -> Q' r s)
    (hB : forall s, B s -> B' s) : o.Ends Q' B' := by
  cases o with
  | returned r s => exact hQ r s h
  | blocked s => exact hB s h

theorem Ends.and {Q Q' : Except ε α -> σ -> Prop} {B B' : σ -> Prop}
    {o : Outcome ε σ α} (h : o.Ends Q B) (h' : o.Ends Q' B') :
    o.Ends (fun r s => Q r s ∧ Q' r s) (fun s => B s ∧ B' s) := by
  cases o with
  | returned r s => exact ⟨h, h'⟩
  | blocked s => exact ⟨h, h'⟩

theorem Ends.returned {Q : Except ε α -> σ -> Prop} {o : Outcome ε σ α}
    (h : o.Ends Q (fun _ => False)) :
    exists r s, o = .returned r s ∧ Q r s := by
  cases o with
  | returned r s => exact ⟨r, s, rfl, h⟩
  | blocked s => exact h.elim

end Outcome

def Call (ε σ α : Type) := σ -> Outcome ε σ α

namespace Call

variable {ε σ τ α β : Type}

/-!
## Composition
-/

def bind (m : Call ε σ α) (next : α -> Call ε σ β) : Call ε σ β := fun s =>
  match m s with
  | .returned (.ok a) s' => next a s'
  | .returned (.error e) s' => .returned (.error e) s'
  | .blocked s' => .blocked s'

instance : Monad (Call ε σ) where
  pure a := fun s => .returned (.ok a) s
  bind := bind

def fail (e : ε) : Call ε σ α := fun s => .returned (.error e) s

def block : Call ε σ α := fun s => .blocked s

def get : Call ε σ σ := fun s => .returned (.ok s) s

def modify (f : σ -> σ) : Call ε σ Unit := fun s => .returned (.ok ()) (f s)

/-- `if (c) m;` -/
def when (c : Prop) [Decidable c] (m : Call ε σ Unit) : Call ε σ Unit :=
  if c then m else pure ()

/-- The result of a call as a value: its error does not end the caller. -/
def attempt (m : Call ε σ α) : Call ε σ (Except ε α) := fun s =>
  match m s with
  | .returned r s' => .returned (.ok r) s'
  | .blocked s' => .blocked s'

def zoom (part : σ -> τ) (update : σ -> τ -> σ) (m : Call ε τ α) :
    Call ε σ α := fun s =>
  match m (part s) with
  | .returned r t => .returned r (update s t)
  | .blocked t => .blocked (update s t)

/-- Repeat a body until it gives a value, for at most `fuel` rounds. -/
def loop (body : Call ε σ (Option α)) : Nat -> Call ε σ α
  | 0 => block
  | fuel + 1 => do
      match ← body with
      | some a => pure a
      | none => loop body fuel

theorem bind_of_ok {m : Call ε σ α} (next : α -> Call ε σ β) {s s' : σ} {a : α}
    (h : m s = .returned (.ok a) s') : (m >>= next) s = next a s' := by
  show bind m next s = _
  unfold bind
  rw [h]

theorem bind_of_error {m : Call ε σ α} (next : α -> Call ε σ β) {s s' : σ}
    {e : ε} (h : m s = .returned (.error e) s') :
    (m >>= next) s = .returned (.error e) s' := by
  show bind m next s = _
  unfold bind
  rw [h]

theorem bind_of_blocked {m : Call ε σ α} (next : α -> Call ε σ β) {s s' : σ}
    (h : m s = .blocked s') : (m >>= next) s = .blocked s' := by
  show bind m next s = _
  unfold bind
  rw [h]

theorem get_bind (next : σ -> Call ε σ β) (s : σ) :
    (get >>= next) s = next s s := rfl

theorem modify_bind (f : σ -> σ) (next : Unit -> Call ε σ β) (s : σ) :
    (modify f >>= next) s = next () (f s) := rfl

theorem bind_eq_ok {m : Call ε σ α} {next : α -> Call ε σ β} {s s' : σ} {b : β}
    (h : (m >>= next) s = .returned (.ok b) s') :
    exists a s1, m s = .returned (.ok a) s1 ∧
      next a s1 = .returned (.ok b) s' := by
  cases hm : m s with
  | returned r s1 =>
      cases r with
      | error e =>
          rw [bind_of_error next hm] at h
          cases h
      | ok a =>
          rw [bind_of_ok next hm] at h
          exact ⟨a, s1, rfl, h⟩
  | blocked s1 =>
      rw [bind_of_blocked next hm] at h
      cases h

theorem bind_eq_error {m : Call ε σ α} {next : α -> Call ε σ β} {s s' : σ}
    {e : ε} (h : (m >>= next) s = .returned (.error e) s') :
    m s = .returned (.error e) s' ∨
      exists a s1, m s = .returned (.ok a) s1 ∧
        next a s1 = .returned (.error e) s' := by
  cases hm : m s with
  | returned r s1 =>
      cases r with
      | error e' =>
          rw [bind_of_error next hm] at h
          cases h
          exact Or.inl rfl
      | ok a =>
          rw [bind_of_ok next hm] at h
          exact Or.inr ⟨a, s1, rfl, h⟩
  | blocked s1 =>
      rw [bind_of_blocked next hm] at h
      cases h

theorem bind_pure_state (m : Call ε σ α) (f : α -> β) (s : σ) :
    ((m >>= fun a => Pure.pure (f a)) s).state = (m s).state := by
  cases hm : m s with
  | returned r s' =>
      cases r with
      | error e => rw [bind_of_error _ hm]; rfl
      | ok a => rw [bind_of_ok _ hm]; rfl
  | blocked s' => rw [bind_of_blocked _ hm]; rfl

theorem loop_of_none {body : Call ε σ (Option α)} {s s' : σ} (fuel : Nat)
    (h : body s = .returned (.ok none) s') :
    loop body (fuel + 1) s = loop body fuel s' :=
  bind_of_ok _ h

theorem loop_state_of_last {body : Call ε σ (Option α)} {s : σ} (fuel : Nat)
    (h : forall s', body s ≠ .returned (.ok none) s') :
    (loop body (fuel + 1) s).state = (body s).state := by
  unfold loop
  cases hs : body s with
  | blocked s1 => rw [bind_of_blocked _ hs]; rfl
  | returned r s1 =>
      cases r with
      | error e => rw [bind_of_error _ hs]; rfl
      | ok result =>
          rw [bind_of_ok _ hs]
          cases result with
          | some a => rfl
          | none => exact absurd hs (h s1)

theorem attempt_of_returned {m : Call ε σ α} {s s' : σ} {r : Except ε α}
    (h : m s = .returned r s') : attempt m s = .returned (.ok r) s' := by
  unfold attempt
  rw [h]

theorem attempt_of_blocked {m : Call ε σ α} {s s' : σ}
    (h : m s = .blocked s') : attempt m s = .blocked s' := by
  unfold attempt
  rw [h]

theorem attempt_state (m : Call ε σ α) (s : σ) :
    (attempt m s).state = (m s).state := by
  cases hm : m s with
  | returned r s' => rw [attempt_of_returned hm]; rfl
  | blocked s' => rw [attempt_of_blocked hm]; rfl

theorem attempt_bind_state (m : Call ε σ α) {next : Except ε α -> Call ε σ β}
    (hnext : forall r s, (next r s).state = s) (s : σ) :
    ((attempt m >>= next) s).state = (m s).state := by
  cases hm : m s with
  | returned r s' =>
      rw [bind_of_ok next (attempt_of_returned hm)]
      exact hnext r s'
  | blocked s' =>
      rw [bind_of_blocked next (attempt_of_blocked hm)]
      rfl

theorem attempt_eq_ok {m : Call ε σ α} {s s' : σ} {r : Except ε α}
    (h : attempt m s = .returned (.ok r) s') : m s = .returned r s' := by
  unfold attempt at h
  cases hm : m s with
  | blocked s1 =>
      rw [hm] at h
      cases h
  | returned r' s1 =>
      rw [hm] at h
      cases h
      rfl

theorem zoom_of_returned {part : σ -> τ} {update : σ -> τ -> σ}
    {m : Call ε τ α} {s : σ} {r : Except ε α} {t : τ}
    (h : m (part s) = .returned r t) :
    zoom part update m s = .returned r (update s t) := by
  unfold zoom
  rw [h]

theorem zoom_of_blocked {part : σ -> τ} {update : σ -> τ -> σ}
    {m : Call ε τ α} {s : σ} {t : τ} (h : m (part s) = .blocked t) :
    zoom part update m s = .blocked (update s t) := by
  unfold zoom
  rw [h]

theorem zoom_eq_returned {part : σ -> τ} {update : σ -> τ -> σ}
    {m : Call ε τ α} {s s' : σ} {r : Except ε α}
    (h : zoom part update m s = .returned r s') :
    exists t, m (part s) = .returned r t ∧ s' = update s t := by
  unfold zoom at h
  cases hm : m (part s) with
  | blocked t =>
      rw [hm] at h
      cases h
  | returned r' t =>
      rw [hm] at h
      cases h
      exact ⟨t, rfl, rfl⟩

/-!
## What a composed call ends with
-/

section Rules

variable {Q : Except ε α -> σ -> Prop} {Q' : Except ε β -> σ -> Prop}
  {B : σ -> Prop}

theorem ends_bind {m : Call ε σ α} {next : α -> Call ε σ β} {s : σ}
    (h : (m s).Ends Q B)
    (herror : forall e s', Q (.error e) s' -> Q' (.error e) s')
    (hok : forall a s', Q (.ok a) s' -> (next a s').Ends Q' B) :
    ((m >>= next) s).Ends Q' B := by
  cases hm : m s with
  | returned r s' =>
      rw [hm] at h
      cases r with
      | error e =>
          rw [bind_of_error next hm]
          exact herror e s' h
      | ok a =>
          rw [bind_of_ok next hm]
          exact hok a s' h
  | blocked s' =>
      rw [hm] at h
      rw [bind_of_blocked next hm]
      exact h

theorem ends_bind_ok {m : Call ε σ α} {next : α -> Call ε σ β} {s : σ}
    {P : α -> σ -> Prop}
    (h : (m s).Ends (fun r s' => exists a, r = .ok a ∧ P a s') B)
    (hnext : forall a s', P a s' -> (next a s').Ends Q' B) :
    ((m >>= next) s).Ends Q' B := by
  apply ends_bind h
  · intro e s' hresult
    rcases hresult with ⟨_, hok, _⟩
    cases hok
  · intro a s' hresult
    rcases hresult with ⟨_, hok, ha⟩
    cases hok
    exact hnext a s' ha

theorem ends_bind_value {m : Call ε σ α} {next : α -> Call ε σ β} {s : σ} {a : α}
    {P : σ -> Prop} (h : (m s).Ends (fun r s' => r = .ok a ∧ P s') B)
    (hnext : forall s', P s' -> (next a s').Ends Q' B) :
    ((m >>= next) s).Ends Q' B := by
  apply ends_bind h
  · intro e s' hresult
    cases hresult.1
  · intro _ s' hresult
    cases hresult.1
    exact hnext s' hresult.2

theorem ends_attempt {m : Call ε σ α} {s : σ} (h : (m s).Ends Q B) :
    (attempt m s).Ends (fun r s' => exists r', r = .ok r' ∧ Q r' s') B := by
  cases hm : m s with
  | returned r s' =>
      rw [hm] at h
      rw [attempt_of_returned hm]
      exact ⟨r, rfl, h⟩
  | blocked s' =>
      rw [hm] at h
      rw [attempt_of_blocked hm]
      exact h

theorem ends_attempt_bind {m : Call ε σ α} {next : Except ε α -> Call ε σ β}
    {s : σ} (h : (m s).Ends Q B)
    (hnext : forall r s', Q r s' -> (next r s').Ends Q' B) :
    ((attempt m >>= next) s).Ends Q' B := by
  cases hm : m s with
  | returned r s' =>
      rw [hm] at h
      rw [bind_of_ok next (attempt_of_returned hm)]
      exact hnext r s' h
  | blocked s' =>
      rw [hm] at h
      rw [bind_of_blocked next (attempt_of_blocked hm)]
      exact h

theorem ends_zoom {part : σ -> τ} {update : σ -> τ -> σ} {m : Call ε τ α}
    {s : σ} (h : (m (part s)).Ends (fun r t => Q r (update s t))
      (fun t => B (update s t))) :
    (zoom part update m s).Ends Q B := by
  unfold zoom
  cases hm : m (part s) with
  | returned r t =>
      rw [hm] at h
      exact h
  | blocked t =>
      rw [hm] at h
      exact h

/-- The rounds that go on move the state along `C`, the last one ends along `R`
or blocks along `D`.  A loop that runs out of fuel blocks where it is. -/
theorem ends_loop {R : σ -> Except ε α -> σ -> Prop} {C D : σ -> σ -> Prop}
    {body : Call ε σ (Option α)} (hrefl : forall s, D s s)
    (hreturns : forall s s1 r s2, C s s1 -> R s1 r s2 -> R s r s2)
    (hblocks : forall s s1 s2, C s s1 -> D s1 s2 -> D s s2)
    (hbody : forall s, (body s).Ends (fun r s' =>
      match r with
      | .ok none => C s s'
      | .ok (some a) => R s (.ok a) s'
      | .error e => R s (.error e) s') (D s))
    (fuel : Nat) (s : σ) : (loop body fuel s).Ends (R s) (D s) := by
  induction fuel generalizing s with
  | zero => exact hrefl s
  | succ fuel ih =>
      apply ends_bind (hbody s)
      · intro e s' h
        exact h
      · intro result s' h
        cases result with
        | some a => exact h
        | none =>
            exact (ih s').mono (fun r _ hrest => hreturns s s' r _ h hrest)
              (fun _ hrest => hblocks s s' _ h hrest)

/-- With more fuel than a measure that every round lowers, a loop is never cut
short. -/
theorem ends_loop_of_lt {body : Call ε σ (Option α)} (I : σ -> Prop)
    {size : σ -> Nat}
    (hsize : forall s s', body s = .returned (.ok none) s' -> size s' < size s)
    (hbody : forall s, I s -> (body s).Ends (fun r s' =>
      match r with
      | .ok none => I s'
      | .ok (some a) => Q (.ok a) s'
      | .error e => Q (.error e) s') B)
    {fuel : Nat} {s : σ} (h : I s) (hfuel : size s < fuel) :
    (loop body fuel s).Ends Q B := by
  induction fuel generalizing s with
  | zero => cases hfuel
  | succ fuel ih =>
      have hround := hbody s h
      unfold loop
      cases hs : body s with
      | blocked s' =>
          rw [hs] at hround
          rw [bind_of_blocked _ hs]
          exact hround
      | returned r s' =>
          rw [hs] at hround
          cases r with
          | error e =>
              rw [bind_of_error _ hs]
              exact hround
          | ok result =>
              rw [bind_of_ok _ hs]
              cases result with
              | some a => exact hround
              | none =>
                  have hlt := hsize s s' hs
                  exact ih hround (Nat.lt_of_lt_of_le hlt (Nat.le_of_lt_succ hfuel))

end Rules

/-!
## Relations along which calls move the state
-/

/-- Whether it returns or blocks, the call leaves a state related to the one it
started in. -/
def Moves (R : σ -> σ -> Prop) (m : Call ε σ α) : Prop :=
  forall s, (m s).Ends (fun _ s' => R s s') (R s)

namespace Moves

variable {R : σ -> σ -> Prop} [IsPreorder σ R]

theorem pure (a : α) : Moves R (Pure.pure a : Call ε σ α) :=
  fun s => refl_of R s

theorem fail (e : ε) : Moves R (Call.fail e : Call ε σ α) :=
  fun s => refl_of R s

theorem block : Moves R (Call.block : Call ε σ α) :=
  fun s => refl_of R s

theorem get : Moves R (Call.get : Call ε σ σ) :=
  fun s => refl_of R s

omit [IsPreorder σ R] in
theorem modify {f : σ -> σ} (h : forall s, R s (f s)) :
    Moves R (Call.modify f : Call ε σ Unit) :=
  h

theorem bind {m : Call ε σ α} {next : α -> Call ε σ β} (h : Moves R m)
    (hnext : forall a, Moves R (next a)) : Moves R (m >>= next) := by
  intro s
  cases hm : m s with
  | returned r s' =>
      have hs : R s s' := by
        have hms := h s
        rw [hm] at hms
        exact hms
      cases r with
      | error e =>
          rw [bind_of_error next hm]
          exact hs
      | ok a =>
          rw [bind_of_ok next hm]
          exact (hnext a s').mono (fun _ _ h' => trans_of R hs h')
            (fun _ h' => trans_of R hs h')
  | blocked s' =>
      have hs : R s s' := by
        have hms := h s
        rw [hm] at hms
        exact hms
      rw [bind_of_blocked next hm]
      exact hs

omit [IsPreorder σ R] in
theorem state {m : Call ε σ α} (h : Moves R m) (s : σ) : R s (m s).state := by
  have hs := h s
  cases hm : m s with
  | returned r s' =>
      rw [hm] at hs
      exact hs
  | blocked s' =>
      rw [hm] at hs
      exact hs

omit [IsPreorder σ R] in
theorem of_state {m : Call ε σ α} (h : forall s, R s (m s).state) :
    Moves R m := by
  intro s
  have hs := h s
  cases hm : m s with
  | returned r s' =>
      rw [hm] at hs
      exact hs
  | blocked s' =>
      rw [hm] at hs
      exact hs

omit [IsPreorder σ R] in
theorem of_returned {m : Call ε σ α} (h : Moves R m) {s s' : σ}
    {r : Except ε α} (hm : m s = .returned r s') : R s s' := by
  have hs := h s
  rw [hm] at hs
  exact hs

omit [IsPreorder σ R] in
theorem mono {S : σ -> σ -> Prop} {m : Call ε σ α} (h : Moves R m)
    (hRS : forall s s', R s s' -> S s s') : Moves S m := by
  intro s
  exact (h s).mono (fun _ s' hs => hRS s s' hs) (fun s' hs => hRS s s' hs)

/-- What follows a call has to move its state only where the call returned. -/
theorem bind_state {m : Call ε σ α} {next : α -> Call ε σ β} (h : Moves R m)
    {s : σ} (hnext : forall a s', m s = .returned (.ok a) s' ->
      R s' (next a s').state) : R s ((m >>= next) s).state := by
  have hs := h.state s
  cases hm : m s with
  | returned r s' =>
      rw [hm] at hs
      cases r with
      | error e =>
          rw [bind_of_error next hm]
          exact hs
      | ok a =>
          rw [bind_of_ok next hm]
          exact trans_of R hs (hnext a s' hm)
  | blocked s' =>
      rw [hm] at hs
      rw [bind_of_blocked next hm]
      exact hs

theorem when {c : Prop} [Decidable c] {m : Call ε σ Unit} (h : Moves R m) :
    Moves R (Call.when c m) := by
  unfold Call.when
  split
  · exact h
  · exact Moves.pure ()

omit [IsPreorder σ R] in
theorem attempt {m : Call ε σ α} (h : Moves R m) :
    Moves R (Call.attempt m) := by
  intro s
  exact (ends_attempt (h s)).mono (fun _ _ ⟨_, _, h'⟩ => h') (fun _ h' => h')

theorem loop {body : Call ε σ (Option α)} (h : Moves R body) (fuel : Nat) :
    Moves R (Call.loop body fuel) := by
  induction fuel with
  | zero => exact Moves.block
  | succ fuel ih =>
      apply Moves.bind h
      intro result
      cases result with
      | none => exact ih
      | some a => exact Moves.pure a

end Moves

/-!
## Calls that never block
-/

def Returns (m : Call ε σ α) : Prop :=
  forall s, (m s).Ends (fun _ _ => True) (fun _ => False)

namespace Returns

theorem pure (a : α) : Returns (Pure.pure a : Call ε σ α) := fun _ => trivial

theorem fail (e : ε) : Returns (Call.fail e : Call ε σ α) := fun _ => trivial

theorem get : Returns (Call.get : Call ε σ σ) := fun _ => trivial

theorem modify (f : σ -> σ) : Returns (Call.modify f : Call ε σ Unit) :=
  fun _ => trivial

theorem bind {m : Call ε σ α} {next : α -> Call ε σ β} (h : Returns m)
    (hnext : forall a, Returns (next a)) : Returns (m >>= next) := by
  intro s
  apply ends_bind (h s)
  · exact fun _ _ _ => trivial
  · exact fun a s' _ => hnext a s'

theorem when {c : Prop} [Decidable c] {m : Call ε σ Unit} (h : Returns m) :
    Returns (Call.when c m) := by
  unfold Call.when
  split
  · exact h
  · exact Returns.pure ()

theorem zoom {part : σ -> τ} {update : σ -> τ -> σ} {m : Call ε τ α}
    (h : Returns m) : Returns (Call.zoom part update m) :=
  fun s => ends_zoom (h (part s))

theorem moves {R : σ -> σ -> Prop} {m : Call ε σ α} (h : Returns m)
    (hmoves : Moves R m) (s : σ) :
    (m s).Ends (fun _ s' => R s s') (fun _ => False) :=
  ((hmoves s).and (h s)).mono (fun _ _ hs => hs.1) (fun _ hs => hs.2)

end Returns

/-!
## Fuel
-/

/-- When each round that does not stop lowers a measure, more fuel than the
measure makes no difference. -/
theorem loop_fuel {body : Call ε σ (Option α)} {size : σ -> Nat}
    (hbody : forall s s', body s = .returned (.ok none) s' ->
      size s' < size s) {fuel fuel' : Nat} {s : σ}
    (h : size s < fuel) (h' : size s < fuel') :
    loop body fuel s = loop body fuel' s := by
  induction fuel generalizing fuel' s with
  | zero => cases h
  | succ fuel ih =>
      cases fuel' with
      | zero => cases h'
      | succ fuel' =>
          unfold loop
          cases hs : body s with
          | blocked s' => rw [bind_of_blocked _ hs, bind_of_blocked _ hs]
          | returned r s' =>
              cases r with
              | error e => rw [bind_of_error _ hs, bind_of_error _ hs]
              | ok result =>
                  rw [bind_of_ok _ hs, bind_of_ok _ hs]
                  cases result with
                  | some a => rfl
                  | none =>
                      have hlt := hbody s s' hs
                      exact ih (Nat.lt_of_lt_of_le hlt (Nat.le_of_lt_succ h))
                        (Nat.lt_of_lt_of_le hlt (Nat.le_of_lt_succ h'))

end Call
end VTRemote
