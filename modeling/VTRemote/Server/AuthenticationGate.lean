import VTRemote.Server.HandlerRuns

/-!
# The authentication gate

With a token to expect, nothing but a first HELLO with that token gets past the
handshake.
-/

namespace VTRemote
namespace VTRClientHandler

variable {τ : Type}

/-- The first message is a HELLO with the expected token. -/
def Authenticates (canonical : String -> String) (expectedToken : String)
    (incoming : List IncomingMessage) : Prop :=
  exists payload rest hello,
    incoming = ⟨VTRemoteMsgType.hello.code, payload⟩ :: rest ∧
      HelloRequest.decode payload = .ok hello ∧
      canonical hello.token = canonical expectedToken

/-- A conversation that ended at the gate: one message was read at most, no
session was created, and at most a HELLO_ACK with a status other than zero was
sent. -/
structure TurnedAway (s : VTRClientHandler τ) : Prop where
  session : s.codecSession = none
  created : .created ∉ s.events
  read : s.events.count .read ≤ 1
  sent : forall type body, .sent type body ∈ s.events ->
    type = .helloAck ∧ exists status rest, body = status :: rest ∧ status ≠ 0
  sent_once : (sentTypes s.events).length ≤ 1

theorem turnedAway_read {s : VTRClientHandler τ} (hsession : s.codecSession = none)
    (hevents : s.events = [.read]) : TurnedAway s where
  session := hsession
  created := by simp [hevents]
  read := by simp [hevents]
  sent := by simp [hevents]
  sent_once := by
    rw [hevents]
    exact Nat.zero_le 1

theorem helloAck_refusal :
    exists rest, (helloAck false).encode = 2 :: rest :=
  ⟨_, rfl⟩

theorem turnedAway_ack {s : VTRClientHandler τ} (hsession : s.codecSession = none)
    (hevents : s.events = [.read, .sent .helloAck (helloAck false).encode]) :
    TurnedAway s where
  session := hsession
  created := by simp [hevents]
  read := by simp [hevents]
  sent := by
    intro type body hmem
    rw [hevents] at hmem
    rcases List.mem_cons.mp hmem with hmem | hmem
    · cases hmem
    · cases List.mem_singleton.mp hmem
      rcases helloAck_refusal with ⟨rest, hrest⟩
      exact ⟨rfl, 2, rest, hrest, by decide⟩
  sent_once := by
    rw [hevents]
    exact Nat.le_refl 1

theorem handshake_turnsAway (canonical : String -> String)
    {expectedToken : String} (htoken : expectedToken ≠ "")
    {incoming : List IncomingMessage}
    (hfirst : ¬ Authenticates canonical expectedToken incoming)
    (sendResults : List (Except VTRemotedError Unit)) :
    exists error s, handshake canonical expectedToken
        (start incoming sendResults : VTRClientHandler τ) =
          .returned (.error (.thrown error)) s ∧ TurnedAway s := by
  cases incoming with
  | nil => exact ⟨_, _, rfl, turnedAway_read rfl rfl⟩
  | cons message rest =>
      have hread : readMessage (start (message :: rest) sendResults :
          VTRClientHandler τ) = .returned (.ok message)
            { (start rest sendResults : VTRClientHandler τ) with
              events := [.read] } := rfl
      unfold handshake countIn
      rw [Call.bind_of_ok _ hread, Call.modify_bind]
      by_cases htype : message.type = VTRemoteMsgType.hello.code
      · rw [if_neg (not_not_intro htype)]
        cases hdecode : HelloRequest.decode message.body with
        | error e =>
            cases e with
            | trapped => exact absurd hdecode (HelloRequest.decode_ne_trapped _)
            | thrown error => exact ⟨error, _, rfl, turnedAway_read rfl rfl⟩
        | ok hello =>
            have hauthed : authed canonical expectedToken hello = false := by
              unfold authed
              rw [Bool.or_eq_false_iff]
              constructor
              · rw [Bool.eq_false_iff]
                intro hempty
                exact htoken (String.isEmpty_iff.mp hempty)
              · rw [Bool.eq_false_iff]
                intro hequal
                exact hfirst ⟨message.body, rest, hello, by rw [<- htype],
                  hdecode, eq_of_beq hequal⟩
            have hthrow : forall s : VTRClientHandler τ,
                orThrow (.ok hello) s = .returned (.ok hello) s := fun _ => rfl
            rw [Call.bind_of_ok _ (hthrow _), Call.modify_bind]
            simp only [hauthed]
            cases sendResults with
            | nil => exact ⟨_, _, rfl, turnedAway_ack rfl rfl⟩
            | cons result results =>
                cases result with
                | ok _ => exact ⟨_, _, rfl, turnedAway_ack rfl rfl⟩
                | error e => exact ⟨_, _, rfl, turnedAway_ack rfl rfl⟩
      · rw [if_pos htype]
        exact ⟨_, _, rfl, turnedAway_read rfl rfl⟩

/-- Whatever arrives, with a token to expect and no HELLO that authenticates in
front, a run creates no session, reads no second message, and sends nothing but
a HELLO_ACK with a status other than zero. -/
theorem run_turnsAway (canonical : String -> String) {expectedToken : String}
    (htoken : expectedToken ≠ "") (session : CodecSession τ)
    {incoming : List IncomingMessage}
    (hfirst : ¬ Authenticates canonical expectedToken incoming)
    (sendResults : List (Except VTRemotedError Unit)) :
    exists s, run canonical expectedToken session (start incoming sendResults) =
        .returned (.ok ()) s ∧ TurnedAway s := by
  rcases @handshake_turnsAway τ canonical expectedToken htoken incoming hfirst
    sendResults with ⟨error, s, hhandshake, hturned⟩
  have hconversation : conversation canonical expectedToken session
      (start incoming sendResults) = .returned (.error (.thrown error)) s :=
    Call.bind_of_error _ hhandshake
  refine ⟨s, ?_, hturned⟩
  unfold run
  rw [Call.bind_of_ok _ (Call.attempt_of_returned hconversation)]
  unfold shutdownSession
  simp only [Call.get_bind, hturned.session]
  rfl

theorem run_turnsAway_malformed :
    exists s, run id "secret" echoSession (start [⟨1, [0, 9]⟩, ⟨3, []⟩] []) =
        .returned (.ok ()) s ∧ TurnedAway s := by
  apply run_turnsAway id (by decide) echoSession
  intro h
  rcases h with ⟨payload, rest, hello, hincoming, hdecode, _⟩
  have hshort : HelloRequest.decode [0, 9] = .error unexpectedEOF := rfl
  cases hincoming
  rw [hshort] at hdecode
  cases hdecode

end VTRClientHandler
end VTRemote
