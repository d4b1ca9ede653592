import Mathlib.Logic.Function.Iterate

/-!
# A service behind two channels

A service takes one request after the other, answers each and may stop.  Behind
two FIFO channels it runs whenever it likes; what its client has received and
will receive is what the service answers when it is given the requests directly.
-/

namespace VTRemote

/-- The answers to a request with the state behind it, `none` if the service has
stopped. -/
structure Service (σ μ ν : Type) where
  serve : σ -> μ -> List ν × Option σ

/-- Requests on their way to a service, answers on their way back. -/
structure Channels (σ μ ν : Type) where
  toServer : List μ
  toClient : List ν
  server : Option σ

namespace Service

variable {σ μ ν : Type} (service : Service σ μ ν)

def answers : Option σ -> List μ -> List ν × Option σ
  | some s, request :: rest =>
      let (replies, server) := service.serve s request
      let (more, server) := answers server rest
      (replies ++ more, server)
  | server, _ => ([], server)

theorem answers_nil (server : Option σ) : service.answers server [] = ([], server) := by
  cases server with
  | none => rfl
  | some s => rfl

theorem answers_none (requests : List μ) :
    service.answers none requests = ([], none) := by
  cases requests with
  | nil => rfl
  | cons request rest => rfl

theorem answers_singleton (s : σ) (request : μ) :
    service.answers (some s) [request] = service.serve s request := by
  show ((service.serve s request).1 ++
    (service.answers (service.serve s request).2 []).1,
    (service.answers (service.serve s request).2 []).2) = _
  rw [answers_nil, List.append_nil]

theorem answers_append (server : Option σ) (front back : List μ) :
    service.answers server (front ++ back) =
      ((service.answers server front).1 ++
          (service.answers (service.answers server front).2 back).1,
        (service.answers (service.answers server front).2 back).2) := by
  induction front generalizing server with
  | nil =>
      rw [List.nil_append, answers_nil]
      rfl
  | cons request front ih =>
      cases server with
      | none =>
          rw [List.cons_append, answers_none, answers_none, answers_none]
          rfl
      | some s =>
          show ((service.serve s request).1 ++
              (service.answers (service.serve s request).2 (front ++ back)).1,
            (service.answers (service.serve s request).2 (front ++ back)).2) = _
          rw [ih, <- List.append_assoc]
          rfl

/-!
## The channels
-/

def turn (c : Channels σ μ ν) : Channels σ μ ν :=
  match c.server, c.toServer with
  | some s, request :: rest =>
      { toServer := rest
        toClient := c.toClient ++ (service.serve s request).1
        server := (service.serve s request).2 }
  | _, _ => c

/-- What the client receives if it sends nothing more, and the state that the
service is left in. -/
def outlook (c : Channels σ μ ν) : List ν × Option σ :=
  (c.toClient ++ (service.answers c.server c.toServer).1,
    (service.answers c.server c.toServer).2)

theorem outlook_turn (c : Channels σ μ ν) :
    service.outlook (service.turn c) = service.outlook c := by
  rcases c with ⟨toServer, toClient, server⟩
  cases server with
  | none => rfl
  | some s =>
      cases toServer with
      | nil => rfl
      | cons request rest =>
          show ((toClient ++ (service.serve s request).1) ++
            (service.answers (service.serve s request).2 rest).1, _) = _
          rw [List.append_assoc]
          rfl

theorem outlook_turns (c : Channels σ μ ν) (n : Nat) :
    service.outlook ((service.turn)^[n] c) = service.outlook c := by
  induction n generalizing c with
  | zero => rfl
  | succ n ih =>
      rw [Function.iterate_succ_apply, ih, outlook_turn]

theorem outlook_send (c : Channels σ μ ν) (request : μ) :
    service.outlook { c with toServer := c.toServer ++ [request] } =
      ((service.outlook c).1 ++
          (service.answers (service.outlook c).2 [request]).1,
        (service.answers (service.outlook c).2 [request]).2) := by
  unfold outlook
  rw [answers_append, List.append_assoc]

theorem outlook_take {c : Channels σ μ ν} {reply : ν} {rest : List ν}
    (h : c.toClient = reply :: rest) :
    service.outlook c =
      (reply :: (service.outlook { c with toClient := rest }).1,
        (service.outlook { c with toClient := rest }).2) := by
  unfold outlook
  rw [h]
  rfl

def Idle (c : Channels σ μ ν) : Prop := c.server = none ∨ c.toServer = []

theorem turn_of_idle {c : Channels σ μ ν} (h : Idle c) : service.turn c = c := by
  rcases c with ⟨toServer, toClient, server⟩
  rcases h with hserver | hrequests
  · cases hserver
    rfl
  · cases hrequests
    cases server with
    | none => rfl
    | some s => rfl

theorem length_turn {c : Channels σ μ ν} (h : ¬Idle c) :
    (service.turn c).toServer.length < c.toServer.length := by
  rcases c with ⟨toServer, toClient, server⟩
  cases server with
  | none => exact absurd (Or.inl rfl) h
  | some s =>
      cases toServer with
      | nil => exact absurd (Or.inr rfl) h
      | cons request rest => exact Nat.lt_succ_self _

theorem outlook_of_idle {c : Channels σ μ ν} (h : Idle c) :
    service.outlook c = (c.toClient, c.server) := by
  unfold outlook
  rcases h with hserver | hrequests
  · rw [hserver, answers_none, List.append_nil]
  · rw [hrequests, answers_nil, List.append_nil]

/-!
## Waiting
-/

/-- The service runs until there is something to receive. -/
def await : Nat -> Channels σ μ ν -> Channels σ μ ν
  | 0, c => c
  | n + 1, c =>
      match c.toClient with
      | [] => await n (service.turn c)
      | _ :: _ => c

theorem outlook_await (c : Channels σ μ ν) (n : Nat) :
    service.outlook (service.await n c) = service.outlook c := by
  induction n generalizing c with
  | zero => rfl
  | succ n ih =>
      unfold await
      split
      · rw [ih, outlook_turn]
      · rfl

theorem await_of_idle {c : Channels σ μ ν} (h : Idle c) (n : Nat) :
    service.await n c = c := by
  induction n with
  | zero => rfl
  | succ n ih =>
      unfold await
      split
      · rw [service.turn_of_idle h, ih]
      · rfl

/-- A service that was waited for has answered, or has nothing more to do. -/
theorem await_idle {c : Channels σ μ ν} {n : Nat} (hn : c.toServer.length ≤ n) :
    (service.await n c).toClient ≠ [] ∨ Idle (service.await n c) := by
  induction n generalizing c with
  | zero =>
      exact Or.inr (Or.inr (List.eq_nil_of_length_eq_zero (Nat.le_zero.mp hn)))
  | succ n ih =>
      by_cases hidle : Idle c
      · rw [service.await_of_idle hidle]
        exact Or.inr hidle
      · unfold await
        split
        · have hlt := service.length_turn hidle
          exact ih (Nat.le_of_lt_succ (Nat.lt_of_lt_of_le hlt hn))
        · rename_i hclient
          rw [hclient]
          exact Or.inl (List.cons_ne_nil _ _)

theorem outlook_of_await {c : Channels σ μ ν} {n : Nat} (hn : c.toServer.length ≤ n)
    (h : (service.await n c).toClient = []) :
    service.outlook c = ([], (service.await n c).server) := by
  rcases service.await_idle hn with hne | hidle
  · exact absurd h hne
  · rw [<- service.outlook_await c n, service.outlook_of_idle hidle, h]

end Service
end VTRemote
