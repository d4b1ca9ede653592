import VTRemote.Library.Call

/-!
# Images of calls

A map of the states may take the outcomes of one call to those of another, which
works on the images.  What a composed call shows follows from what its parts
show.
-/

namespace VTRemote

namespace Outcome

variable {ε σ τ α : Type}

def image (f : σ -> τ) : Outcome ε σ α -> Outcome ε τ α
  | returned r s => returned r (f s)
  | blocked s => blocked (f s)

theorem state_image (f : σ -> τ) (o : Outcome ε σ α) : (o.image f).state = f o.state := by
  cases o with
  | returned r s => rfl
  | blocked s => rfl

theorem image_eq_returned {f : σ -> τ} {o : Outcome ε σ α} {r : Except ε α} {t : τ}
    (h : o.image f = .returned r t) : exists s, o = .returned r s ∧ f s = t := by
  cases o with
  | returned r' s =>
      cases h
      exact ⟨s, rfl, rfl⟩
  | blocked s => cases h

end Outcome

namespace Call

variable {ε σ τ α β : Type}

/-- Started in `s`, the first call ends as the second does in the image. -/
def ShowsAt (f : σ -> τ) (m : Call ε σ α) (m' : Call ε τ α) (s : σ) : Prop :=
  (m s).image f = m' (f s)

def Shows (f : σ -> τ) (m : Call ε σ α) (m' : Call ε τ α) : Prop :=
  forall s, ShowsAt f m m' s

section Shows

variable {f : σ -> τ}

theorem Shows.pure (a : α) :
    Shows f (Pure.pure a : Call ε σ α) (Pure.pure a : Call ε τ α) :=
  fun _ => rfl

theorem Shows.fail (e : ε) :
    Shows f (Call.fail e : Call ε σ α) (Call.fail e : Call ε τ α) :=
  fun _ => rfl

theorem Shows.block : Shows f (Call.block : Call ε σ α) (Call.block : Call ε τ α) :=
  fun _ => rfl

theorem Shows.modify {g : σ -> σ} {g' : τ -> τ} (h : forall s, f (g s) = g' (f s)) :
    Shows f (Call.modify g : Call ε σ Unit) (Call.modify g') := by
  intro s
  show Outcome.returned (.ok ()) (f (g s)) = _
  rw [h]
  rfl

theorem ShowsAt.bind {m : Call ε σ α} {m' : Call ε τ α} {next : α -> Call ε σ β}
    {next' : α -> Call ε τ β} {s : σ} (h : ShowsAt f m m' s)
    (hnext : forall a s', m s = .returned (.ok a) s' ->
      ShowsAt f (next a) (next' a) s') :
    ShowsAt f (m >>= next) (m' >>= next') s := by
  unfold ShowsAt at h ⊢
  cases hm : m s with
  | returned r s' =>
      rw [hm] at h
      cases r with
      | error e => rw [bind_of_error next hm, bind_of_error next' h.symm]; rfl
      | ok a =>
          rw [bind_of_ok next hm, bind_of_ok next' h.symm]
          exact hnext a s' hm
  | blocked s' =>
      rw [hm] at h
      rw [bind_of_blocked next hm, bind_of_blocked next' h.symm]
      rfl

theorem Shows.bind {m : Call ε σ α} {m' : Call ε τ α} {next : α -> Call ε σ β}
    {next' : α -> Call ε τ β} (h : Shows f m m')
    (hnext : forall a, Shows f (next a) (next' a)) :
    Shows f (m >>= next) (m' >>= next') :=
  fun s => (h s).bind fun a s' _ => hnext a s'

theorem ShowsAt.get_bind {next : σ -> Call ε σ β} {next' : τ -> Call ε τ β} {s : σ}
    (h : ShowsAt f (next s) (next' (f s)) s) :
    ShowsAt f (Call.get >>= next) (Call.get >>= next') s :=
  h

theorem Shows.get_bind {next : σ -> Call ε σ β} {next' : τ -> Call ε τ β}
    (h : forall s, Shows f (next s) (next' (f s))) :
    Shows f (Call.get >>= next) (Call.get >>= next') :=
  fun s => ShowsAt.get_bind (h s s)

theorem Shows.modify_bind {g : σ -> σ} {g' : τ -> τ} {next : Unit -> Call ε σ β}
    {next' : Unit -> Call ε τ β} (h : forall s, f (g s) = g' (f s))
    (hnext : Shows f (next ()) (next' ())) :
    Shows f (Call.modify g >>= next) (Call.modify g' >>= next') :=
  Shows.bind (Shows.modify h) fun _ => hnext

theorem Shows.attempt {m : Call ε σ α} {m' : Call ε τ α} (h : Shows f m m') :
    Shows f (Call.attempt m) (Call.attempt m') := by
  intro s
  have hs := h s
  unfold ShowsAt at hs ⊢
  cases hm : m s with
  | returned r s' =>
      rw [hm] at hs
      rw [attempt_of_returned hm, attempt_of_returned hs.symm]
      rfl
  | blocked s' =>
      rw [hm] at hs
      rw [attempt_of_blocked hm, attempt_of_blocked hs.symm]
      rfl

theorem Shows.when {c : Prop} [Decidable c] {m : Call ε σ Unit} {m' : Call ε τ Unit}
    (h : Shows f m m') : Shows f (Call.when c m) (Call.when c m') := by
  unfold Call.when
  split
  · exact h
  · exact Shows.pure ()

theorem Shows.loop {body : Call ε σ (Option α)} {body' : Call ε τ (Option α)}
    (h : Shows f body body') (fuel : Nat) :
    Shows f (Call.loop body fuel) (Call.loop body' fuel) := by
  induction fuel with
  | zero => exact Shows.block
  | succ fuel ih =>
      apply Shows.bind h
      intro result
      cases result with
      | none => exact ih
      | some a => exact Shows.pure a

theorem Shows.loop_fuel {body : Call ε σ (Option α)} {body' : Call ε τ (Option α)}
    (h : Shows f body body') {size : τ -> Nat}
    (hsize : forall t t', body' t = .returned (.ok none) t' -> size t' < size t)
    {fuel fuel' : Nat} {s : σ} (hfuel : size (f s) < fuel)
    (hfuel' : size (f s) < fuel') :
    ShowsAt f (Call.loop body fuel) (Call.loop body' fuel') s := by
  unfold ShowsAt
  rw [<- Call.loop_fuel hsize hfuel hfuel']
  exact h.loop fuel s

theorem Shows.zoom {σ' τ' : Type} {part : σ -> σ'} {update : σ -> σ' -> σ}
    {part' : τ -> τ'} {update' : τ -> τ' -> τ} {g : σ' -> τ'}
    {m : Call ε σ' α} {m' : Call ε τ' α} (h : Shows g m m')
    (hpart : forall s, part' (f s) = g (part s))
    (hupdate : forall s t, f (update s t) = update' (f s) (g t)) :
    Shows f (Call.zoom part update m) (Call.zoom part' update' m') := by
  intro s
  have hs := h (part s)
  unfold ShowsAt at hs ⊢
  rw [<- hpart] at hs
  cases hm : m (part s) with
  | returned r t =>
      rw [hm] at hs
      rw [zoom_of_returned hm, zoom_of_returned hs.symm]
      exact congrArg _ (hupdate s t)
  | blocked t =>
      rw [hm] at hs
      rw [zoom_of_blocked hm, zoom_of_blocked hs.symm]
      exact congrArg _ (hupdate s t)

end Shows
end Call
end VTRemote
