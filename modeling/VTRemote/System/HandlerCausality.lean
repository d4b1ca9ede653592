import VTRemote.Library.Feeding
import VTRemote.Server.HandlerRuns
import VTRemote.System.Channels

/-!
# What the handler sends depends on what it has read

A handler that is given more messages sends what it sent before, and then more.
A client that waits for an answer so gets it whatever it sends afterwards.
-/

namespace VTRemote

def HandlerEvent.message : HandlerEvent -> Option ChannelMessage
  | sent type body => some ⟨type, body⟩
  | _ => none

def sentMessages (events : List HandlerEvent) : List ChannelMessage :=
  events.filterMap HandlerEvent.message

theorem sentMessages_append (front back : List HandlerEvent) :
    sentMessages (front ++ back) = sentMessages front ++ sentMessages back :=
  List.filterMap_append

theorem sentMessages_record {event : HandlerEvent} (hevent : event.message = none)
    (events : List HandlerEvent) :
    sentMessages (events ++ [event]) = sentMessages events := by
  rw [sentMessages_append]
  unfold sentMessages
  rw [List.filterMap_cons_none hevent]
  exact List.append_nil _

namespace VTRClientHandler

variable {τ : Type}

def feed (more : List IncomingMessage) (s : VTRClientHandler τ) : VTRClientHandler τ :=
  { s with incoming := s.incoming ++ more }

def SendsOn (s s' : VTRClientHandler τ) : Prop :=
  sentMessages s.events <+: sentMessages s'.events

instance : IsPreorder (VTRClientHandler τ) SendsOn where
  refl _ := List.prefix_refl _
  trans _ _ _ h1 h2 := h1.trans h2

variable {more : List IncomingMessage}

/-- The call does the same when more is to come. -/
def Causal {α : Type} (more : List IncomingMessage) (m : HandlerCall τ α) : Prop :=
  Call.Feeds (feed more) SendsOn m

theorem record_sendsOn (event : HandlerEvent) (s : VTRClientHandler τ) :
    SendsOn s { s with events := s.events ++ [event] } := by
  unfold SendsOn
  rw [sentMessages_append]
  exact List.prefix_append _ _

theorem record_causal (event : HandlerEvent) :
    Causal more (record event : HandlerCall τ Unit) :=
  Call.Feeds.modify (record_sendsOn event) fun _ => rfl

theorem modify_causal {f : VTRClientHandler τ -> VTRClientHandler τ}
    (hevents : forall s, (f s).events = s.events)
    (hfeed : forall s, feed more (f s) = f (feed more s)) :
    Causal more (Call.modify f : HandlerCall τ Unit) := by
  apply Call.Feeds.modify _ hfeed
  intro s
  exact ⟨[], by rw [List.append_nil, hevents]⟩

theorem countIn_causal (body : List UInt8) :
    Causal more (countIn body : HandlerCall τ Unit) :=
  modify_causal (fun _ => rfl) fun _ => rfl

theorem countOut_causal (body : List UInt8) :
    Causal more (countOut body : HandlerCall τ Unit) :=
  modify_causal (fun _ => rfl) fun _ => rfl

theorem orThrow_causal {α : Type} (result : Except Failure α) :
    Causal more (orThrow result : HandlerCall τ α) := by
  cases result with
  | ok a => exact Call.Feeds.pure a
  | error e => exact Call.Feeds.fail e

theorem sendResult_causal (type : VTRemoteMsgType) (body : List UInt8) :
    Causal more (sendResult type body :
      HandlerCall τ (Except VTRemotedError Unit)) := by
  apply Call.Feeds.bind (record_causal _)
  intro _
  refine Call.Feeds.get_bind (fun s => ?_) fun _ => rfl
  apply Call.Feeds.bind
  · exact modify_causal (fun _ => rfl) fun _ => rfl
  intro _
  exact Call.Feeds.pure _

theorem send_causal (type : VTRemoteMsgType) (body : List UInt8) :
    Causal more (send type body : HandlerCall τ Unit) := by
  apply Call.Feeds.bind (sendResult_causal type body)
  intro result
  cases result with
  | ok _ => exact Call.Feeds.pure ()
  | error e => exact Call.Feeds.fail _

theorem perform_causal {α : Type} (call : SessionCall τ α) :
    Causal more (perform call) := by
  induction call with
  | finish result session =>
      apply Call.Feeds.bind
      · exact modify_causal (fun _ => rfl) fun _ => rfl
      intro _
      exact orThrow_causal result
  | send type bodyParts next ih =>
      apply Call.Feeds.bind (countOut_causal _)
      intro _
      apply Call.Feeds.bind (sendResult_causal _ _)
      intro result
      exact ih result

theorem callback_causal {α : Type} (event : HandlerEvent) (call : τ -> SessionCall τ α) :
    Causal more (callback event call) := by
  refine Call.Feeds.get_bind (fun s => ?_) fun _ => rfl
  cases s.codecSession with
  | none => exact Call.Feeds.fail _
  | some session =>
      apply Call.Feeds.bind (record_causal event)
      intro _
      exact perform_causal _

theorem readMessage_causal : Causal more (readMessage : HandlerCall τ IncomingMessage) := by
  have hmoves : Call.Moves SendsOn (readMessage : HandlerCall τ IncomingMessage) := by
    apply Call.Moves.bind (@record_causal τ more .read).moves
    intro _
    apply Call.Moves.bind Call.Moves.get
    intro s
    cases s.incoming with
    | nil => exact Call.Moves.fail _
    | cons message rest =>
        apply Call.Moves.bind
        · exact Call.Moves.modify fun s => List.prefix_refl _
        intro _
        exact Call.Moves.pure message
  refine ⟨hmoves, fun s => ?_⟩
  rcases s with ⟨incoming, sendResults, codec, configuration, codecSession, stats, events⟩
  cases incoming with
  | cons message rest => exact Or.inl rfl
  | nil =>
      refine Or.inr ⟨_, _, rfl, ?_⟩
      cases more with
      | nil => exact List.prefix_refl _
      | cons message rest => exact List.prefix_refl _

section Conversation

variable (canonical : String -> String) (expectedToken : String)
  (session : CodecSession τ)

theorem handshake_causal :
    Causal more (handshake canonical expectedToken : HandlerCall τ Unit) := by
  apply Call.Feeds.bind readMessage_causal
  intro message
  apply Call.Feeds.bind (countIn_causal _)
  intro _
  split
  · exact Call.Feeds.fail _
  · apply Call.Feeds.bind (orThrow_causal _)
    intro hello
    apply Call.Feeds.bind
    · exact modify_causal (fun _ => rfl) fun _ => rfl
    intro _
    apply Call.Feeds.bind (countOut_causal _)
    intro _
    apply Call.Feeds.bind (send_causal _ _)
    intro _
    split
    · exact Call.Feeds.pure ()
    · exact Call.Feeds.fail _

theorem configure_causal : Causal more (configure canonical session) := by
  apply Call.Feeds.bind readMessage_causal
  intro message
  apply Call.Feeds.bind (countIn_causal _)
  intro _
  split
  · exact Call.Feeds.fail _
  · apply Call.Feeds.bind (orThrow_causal _)
    intro request
    refine Call.Feeds.get_bind (fun s => ?_) fun _ => rfl
    show Causal more (if _ then _ else _)
    split
    · apply Call.Feeds.bind (countOut_causal _)
      intro _
      apply Call.Feeds.bind (send_causal _ _)
      intro _
      exact Call.Feeds.fail _
    · apply Call.Feeds.bind
      · apply Call.Feeds.bind (record_causal _)
        intro _
        exact modify_causal (fun _ => rfl) fun _ => rfl
      intro _
      apply Call.Feeds.bind (callback_causal _ _)
      intro extradata
      apply Call.Feeds.bind (countOut_causal _)
      intro _
      exact send_causal _ _

theorem mainRound_causal : Causal more (mainRound session) := by
  apply Call.Feeds.bind readMessage_causal
  intro message
  apply Call.Feeds.bind (countIn_causal _)
  intro _
  unfold mainMessage
  split
  · apply Call.Feeds.bind (callback_causal _ _)
    intro _
    exact Call.Feeds.pure _
  · apply Call.Feeds.bind (callback_causal _ _)
    intro _
    exact Call.Feeds.pure _
  · apply Call.Feeds.bind (callback_causal _ _)
    intro _
    apply Call.Feeds.bind (record_causal _)
    intro _
    apply Call.Feeds.bind (send_causal _ _)
    intro _
    exact Call.Feeds.pure _
  · apply Call.Feeds.bind (send_causal _ _)
    intro _
    exact Call.Feeds.pure _
  · exact Call.Feeds.pure _

/-- The bound of the loop grows with the messages. -/
theorem mainLoop_causal : Causal more (mainLoop session) := by
  have hround : Causal more (mainRound session) := mainRound_causal session
  refine ⟨?_, fun s => ?_⟩
  · apply Call.Moves.bind Call.Moves.get
    intro s
    split
    · exact hround.moves.loop _
    · exact Call.Moves.fail _
  · unfold mainLoop Call.FedAt
    rw [Call.get_bind, Call.get_bind]
    rcases s with
      ⟨incoming, sendResults, codec, configuration, codecSession, stats, events⟩
    cases configuration with
    | none => exact Or.inl rfl
    | some _ =>
        cases codecSession with
        | none => exact Or.inl rfl
        | some _ =>
            exact Call.FedAt.loop hround (fun s s' h => mainRound_takes h)
              (Nat.lt_succ_self _) (Nat.lt_succ_self _)

theorem conversation_causal : Causal more (conversation canonical expectedToken session) := by
  apply Call.Feeds.bind (handshake_causal canonical expectedToken)
  intro _
  apply Call.Feeds.bind (configure_causal canonical session)
  intro _
  exact mainLoop_causal session

/-!
## Runs
-/

theorem run_events {β : Type} {g : List HandlerEvent -> β}
    (hg : forall events, g (events ++ [.shutdown]) = g events) (s : VTRClientHandler τ) :
    g (run canonical expectedToken session s).state.events =
      g (conversation canonical expectedToken session s).state.events := by
  have hshutdown : forall s : VTRClientHandler τ,
      g (shutdownSession session s).state.events = g s.events := by
    intro s
    unfold shutdownSession
    rw [Call.get_bind]
    cases s.codecSession with
    | none => rfl
    | some t => exact hg s.events
  unfold run
  cases hm : conversation canonical expectedToken session s with
  | blocked s' => rw [Call.bind_of_blocked _ (Call.attempt_of_blocked hm)]
  | returned result s' =>
      rw [Call.bind_of_ok _ (Call.attempt_of_returned hm)]
      cases result with
      | ok _ => exact hshutdown s'
      | error e =>
          cases e with
          | trapped => rfl
          | thrown error => exact hshutdown s'

/-- Whatever comes later, what the handler sends to the first messages is sent. -/
theorem run_causal (canonical : String -> String) (expectedToken : String)
    (session : CodecSession τ) (incoming more : List IncomingMessage)
    (sendResults : List (Except VTRemotedError Unit)) :
    sentMessages (run canonical expectedToken session
        (start incoming sendResults)).state.events <+:
      sentMessages (run canonical expectedToken session
        (start (incoming ++ more) sendResults)).state.events := by
  have hsent := fun s => run_events (g := sentMessages) canonical expectedToken session
    (sentMessages_record rfl) s
  rw [hsent, hsent]
  rcases (conversation_causal canonical expectedToken session).fed
    (start incoming sendResults) with himage | ⟨e, s', hfailed, hway⟩
  · have hstate := congrArg Outcome.state himage
    rw [Outcome.state_image] at hstate
    have hsame := congrArg (fun s => sentMessages s.events) hstate
    exact ⟨[], (List.append_nil _).trans hsame⟩
  · rw [hfailed]
    exact hway

end Conversation
end VTRClientHandler
end VTRemote
