import VTRemote.Library.CallImages

/-!
# Calls that are given more

A map of the states gives a call more than it had, say more input.  The call then
ends as it did before, in the image of the state, unless it had failed for want of
more.  Even then it comes to where it had failed before it goes on.
-/

namespace VTRemote.Call

variable {ε σ α β : Type}

section Feeds

variable (feed : σ -> σ) (R : σ -> σ -> Prop)

/-- What the first call does in `s`, the second does in the state that has more,
or the first has failed on the way of the second. -/
def FedAt (m m' : Call ε σ α) (s : σ) : Prop :=
  (m s).image feed = m' (feed s) ∨
    exists e s', m s = .returned (.error e) s' ∧ R s' (m' (feed s)).state

structure Feeds (m : Call ε σ α) : Prop where
  moves : Moves R m
  fed : forall s, FedAt feed R m m s

variable {feed} {R}

theorem FedAt.of_image {m m' : Call ε σ α} {s : σ}
    (h : (m s).image feed = m' (feed s)) : FedAt feed R m m' s :=
  Or.inl h

theorem FedAt.of_ok {m m' : Call ε σ α} {s s' : σ} {a : α} (h : FedAt feed R m m' s)
    (hm : m s = .returned (.ok a) s') : m' (feed s) = .returned (.ok a) (feed s') := by
  rcases h with himage | ⟨e, s1, hfailed, _⟩
  · rw [hm] at himage
    exact himage.symm
  · rw [hm] at hfailed
    cases hfailed

variable [IsPreorder σ R]

theorem FedAt.bind {m m' : Call ε σ α} {next next' : α -> Call ε σ β} {s : σ}
    (h : FedAt feed R m m' s) (hmoves : forall a, Moves R (next' a))
    (hnext : forall a s', m s = .returned (.ok a) s' ->
      FedAt feed R (next a) (next' a) s') :
    FedAt feed R (m >>= next) (m' >>= next') s := by
  rcases h with himage | ⟨e, s', hfailed, hway⟩
  · cases hm : m s with
    | blocked s' =>
        rw [hm] at himage
        apply FedAt.of_image
        rw [bind_of_blocked next hm, bind_of_blocked next' himage.symm]
        rfl
    | returned r s' =>
        rw [hm] at himage
        cases r with
        | error e =>
            apply FedAt.of_image
            rw [bind_of_error next hm, bind_of_error next' himage.symm]
            rfl
        | ok a =>
            have hrest := hnext a s' hm
            unfold FedAt at hrest ⊢
            rw [bind_of_ok next hm, bind_of_ok next' himage.symm]
            exact hrest
  · refine Or.inr ⟨e, s', bind_of_error next hfailed, ?_⟩
    cases hm : m' (feed s) with
    | blocked s1 =>
        rw [hm] at hway
        rw [bind_of_blocked next' hm]
        exact hway
    | returned r s1 =>
        rw [hm] at hway
        cases r with
        | error e =>
            rw [bind_of_error next' hm]
            exact hway
        | ok a =>
            rw [bind_of_ok next' hm]
            exact trans_of R hway ((hmoves a).state s1)

namespace Feeds

theorem pure (a : α) : Feeds feed R (Pure.pure a : Call ε σ α) :=
  ⟨Moves.pure a, fun _ => Or.inl rfl⟩

theorem fail (e : ε) : Feeds feed R (Call.fail e : Call ε σ α) :=
  ⟨Moves.fail e, fun _ => Or.inl rfl⟩

omit [IsPreorder σ R] in
theorem modify {g : σ -> σ} (hmoves : forall s, R s (g s))
    (hfeed : forall s, feed (g s) = g (feed s)) :
    Feeds feed R (Call.modify g : Call ε σ Unit) := by
  refine ⟨Moves.modify hmoves, fun s => Or.inl ?_⟩
  show Outcome.returned (.ok ()) (feed (g s)) = _
  rw [hfeed]
  rfl

theorem bind {m : Call ε σ α} {next : α -> Call ε σ β} (h : Feeds feed R m)
    (hnext : forall a, Feeds feed R (next a)) : Feeds feed R (m >>= next) where
  moves := h.moves.bind fun a => (hnext a).moves
  fed s := (h.fed s).bind (fun a => (hnext a).moves) fun a s' _ => (hnext a).fed s'

theorem get_bind {next : σ -> Call ε σ α} (h : forall s, Feeds feed R (next s))
    (hsame : forall s, next (feed s) = next s) :
    Feeds feed R (Call.get >>= next) := by
  refine ⟨Moves.bind Moves.get fun s => (h s).moves, fun s => ?_⟩
  have hs := (h s).fed s
  unfold FedAt at hs ⊢
  rw [Call.get_bind, Call.get_bind, hsame]
  exact hs

end Feeds

theorem FedAt.loop {body : Call ε σ (Option α)} (h : Feeds feed R body)
    {size : σ -> Nat}
    (hsize : forall s s', body s = .returned (.ok none) s' -> size s' < size s)
    {fuel fuel' : Nat} {s : σ} (hfuel : size s < fuel) (hfuel' : size (feed s) < fuel') :
    FedAt feed R (Call.loop body fuel) (Call.loop body fuel') s := by
  induction fuel generalizing fuel' s with
  | zero => cases hfuel
  | succ fuel ih =>
      cases fuel' with
      | zero => cases hfuel'
      | succ fuel' =>
          apply FedAt.bind (h.fed s)
          · intro result
            cases result with
            | some a => exact Moves.pure a
            | none => exact h.moves.loop fuel'
          · intro result s' hround
            have hfed := hsize (feed s) (feed s')
            have hround' := (h.fed s).of_ok hround
            cases result with
            | some a => exact Or.inl rfl
            | none =>
                exact ih
                  (Nat.lt_of_lt_of_le (hsize s s' hround) (Nat.le_of_lt_succ hfuel))
                  (Nat.lt_of_lt_of_le (hfed hround') (Nat.le_of_lt_succ hfuel'))

end Feeds
end VTRemote.Call
