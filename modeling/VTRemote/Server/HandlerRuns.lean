import VTRemote.Server.Conversation

/-!
# The handler keeps to the conversation

Every function of the handler takes the conversation from one phase to another,
or throws in a phase in which it can be left.
-/

namespace VTRemote

variable {τ : Type}

/-!
## Sessions
-/

inductive SessionCall.Sends {α : Type} (allowed : VTRemoteMsgType -> Prop) :
    SessionCall τ α -> Prop where
  | finish {result : Except Failure α} (session : τ)
      (hresult : result ≠ .error .trapped) :
      Sends allowed (.finish result session)
  | send {type : VTRemoteMsgType} (bodyParts : List (List UInt8))
      {next : Except VTRemotedError Unit -> SessionCall τ α}
      (htype : allowed type) (hnext : forall result, Sends allowed (next result)) :
      Sends allowed (.send type bodyParts next)

/-- A session may throw anywhere.  It sends PACKET and FRAME only, and not while
it is configured. -/
structure CodecSession.Regular (session : CodecSession τ) : Prop where
  configure : forall config t,
    (session.configure config t).Sends fun _ => False
  handleFrameMessage : forall body t,
    (session.handleFrameMessage body t).Sends Sample
  handlePacketMessage : forall body t,
    (session.handlePacketMessage body t).Sends Sample
  flush : forall t, (session.flush t).Sends Sample

namespace VTRClientHandler

/-!
## Phases of the handler
-/

structure At (phase : Phase) (s : VTRClientHandler τ) : Prop where
  course : Phase.Course .hello s.events phase
  session : s.codecSession.isSome = phase.hasSession
  configuration : s.configuration.isSome = phase.hasSession

def Arrives {α : Type} (phase : Phase) :
    Except Failure α -> VTRClientHandler τ -> Prop
  | .ok _, s => At phase s
  | .error e, s => e ≠ .trapped ∧
      exists left, left ≠ .created ∧ left ≠ .ended ∧ At left s

def Goes {α : Type} (first last : Phase) (m : HandlerCall τ α) : Prop :=
  forall s, At first s -> (m s).Ends (Arrives last) (fun _ => False)

theorem Goes.pure {α : Type} (phase : Phase) (a : α) :
    Goes phase phase (Pure.pure a : HandlerCall τ α) :=
  fun _ h => h

theorem Goes.get (phase : Phase) :
    Goes phase phase (Call.get : HandlerCall τ (VTRClientHandler τ)) :=
  fun _ h => h

theorem Goes.bind {α β : Type} {first middle last : Phase}
    {m : HandlerCall τ α} {next : α -> HandlerCall τ β} (h : Goes first middle m)
    (hnext : forall a, Goes middle last (next a)) :
    Goes first last (m >>= next) := by
  intro s hs
  apply Call.ends_bind (h s hs)
  · exact fun _ _ herror => herror
  · exact fun a s' hs' => hnext a s' hs'

theorem Goes.fail {α : Type} {first last : Phase} {e : Failure}
    (htrap : e ≠ .trapped) (hcreated : first ≠ .created) (hended : first ≠ .ended) :
    Goes first last (Call.fail e : HandlerCall τ α) :=
  fun _ h => ⟨htrap, first, hcreated, hended, h⟩

theorem Goes.modify {phase : Phase}
    {f : VTRClientHandler τ -> VTRClientHandler τ}
    (hevents : forall s, (f s).events = s.events)
    (hsession : forall s, (f s).codecSession.isSome = s.codecSession.isSome)
    (hconfiguration : forall s,
      (f s).configuration.isSome = s.configuration.isSome) :
    Goes phase phase (Call.modify f : HandlerCall τ Unit) := by
  intro s h
  refine ⟨?_, ?_, ?_⟩
  · rw [hevents s]
    exact h.course
  · exact (hsession s).trans h.session
  · exact (hconfiguration s).trans h.configuration

theorem Goes.record {phase phase' : Phase} {event : HandlerEvent}
    (hstep : Phase.Step phase event phase')
    (hsession : phase'.hasSession = phase.hasSession) :
    Goes phase phase' (record event : HandlerCall τ Unit) := by
  intro s h
  refine ⟨h.course.snoc hstep, ?_, ?_⟩
  · exact h.session.trans hsession.symm
  · exact h.configuration.trans hsession.symm

theorem Goes.orThrow {α : Type} {phase : Phase} {result : Except Failure α}
    (htrap : result ≠ .error .trapped) (hcreated : phase ≠ .created)
    (hended : phase ≠ .ended) :
    Goes phase phase (orThrow result : HandlerCall τ α) := by
  cases result with
  | ok a => exact Goes.pure phase a
  | error e =>
      apply Goes.fail _ hcreated hended
      intro he
      rw [he] at htrap
      exact htrap rfl

/-!
## Reading and sending
-/

theorem readMessage_goes {phase : Phase} (hcreated : phase ≠ .created)
    (hended : phase ≠ .ended) :
    Goes phase phase (readMessage : HandlerCall τ IncomingMessage) := by
  apply Goes.bind (Goes.record (.read hended) rfl)
  intro _
  apply Goes.bind (Goes.get phase)
  intro s
  cases s.incoming with
  | nil => exact Goes.fail (by simp) hcreated hended
  | cons message rest =>
      apply Goes.bind
      · exact Goes.modify (fun _ => rfl) (fun _ => rfl) (fun _ => rfl)
      intro _
      exact Goes.pure phase message

theorem countIn_goes (phase : Phase) (body : List UInt8) :
    Goes phase phase (countIn body : HandlerCall τ Unit) :=
  Goes.modify (fun _ => rfl) (fun _ => rfl) (fun _ => rfl)

theorem countOut_goes (phase : Phase) (body : List UInt8) :
    Goes phase phase (countOut body : HandlerCall τ Unit) :=
  Goes.modify (fun _ => rfl) (fun _ => rfl) (fun _ => rfl)

theorem sendResult_goes {phase phase' : Phase} {type : VTRemoteMsgType}
    {body : List UInt8} (hstep : Phase.Step phase (.sent type body) phase')
    (hsession : phase'.hasSession = phase.hasSession) :
    Goes phase phase'
      (sendResult type body : HandlerCall τ (Except VTRemotedError Unit)) := by
  apply Goes.bind (Goes.record hstep hsession)
  intro _
  apply Goes.bind (Goes.get phase')
  intro s
  apply Goes.bind
  · exact Goes.modify (fun _ => rfl) (fun _ => rfl) (fun _ => rfl)
  intro _
  exact Goes.pure phase' _

theorem send_goes {phase phase' : Phase} {type : VTRemoteMsgType}
    {body : List UInt8} (hstep : Phase.Step phase (.sent type body) phase')
    (hsession : phase'.hasSession = phase.hasSession)
    (hcreated : phase' ≠ .created) (hended : phase' ≠ .ended) :
    Goes phase phase' (send type body : HandlerCall τ Unit) := by
  apply Goes.bind (sendResult_goes hstep hsession)
  intro result
  cases result with
  | ok _ => exact Goes.pure phase' ()
  | error e => exact Goes.fail (by simp) hcreated hended

/-!
## Callbacks
-/

theorem perform_goes {α : Type} {phase : Phase}
    {allowed : VTRemoteMsgType -> Prop} {call : SessionCall τ α}
    (h : call.Sends allowed) (hsession : phase.hasSession = true)
    (hcreated : phase ≠ .created) (hended : phase ≠ .ended)
    (hallowed : forall {type} body, allowed type ->
      Phase.Step phase (.sent type body) phase) :
    Goes phase phase (perform call) := by
  induction h with
  | finish session hresult =>
      apply Goes.bind
      · intro s hs
        refine ⟨hs.course, ?_, hs.configuration⟩
        exact hsession.symm
      intro _
      exact Goes.orThrow hresult hcreated hended
  | send bodyParts htype _ ih =>
      apply Goes.bind (countOut_goes phase _)
      intro _
      apply Goes.bind (sendResult_goes (hallowed _ htype) rfl)
      intro result
      exact ih result

theorem callback_goes {α : Type} {phase phase' : Phase} {event : HandlerEvent}
    {allowed : VTRemoteMsgType -> Prop} {call : τ -> SessionCall τ α}
    (h : forall t, (call t).Sends allowed)
    (hstep : Phase.Step phase event phase')
    (hsession : phase.hasSession = true) (hsession' : phase'.hasSession = true)
    (hcreated : phase' ≠ .created) (hended : phase' ≠ .ended)
    (hallowed : forall {type} body, allowed type ->
      Phase.Step phase' (.sent type body) phase') :
    Goes phase phase' (callback event call) := by
  intro s hs
  have hsome := hs.session
  rw [hsession] at hsome
  rcases Option.isSome_iff_exists.mp hsome with ⟨t, ht⟩
  unfold callback
  rw [Call.get_bind, ht]
  apply Goes.bind _ _ s hs
  · exact phase'
  · exact Goes.record hstep (hsession'.trans hsession.symm)
  · intro _
    exact perform_goes (h t) hsession' hcreated hended hallowed

/-!
## The three parts of a conversation
-/

variable (canonical : String -> String) (expectedToken : String)

theorem handshake_goes :
    Goes .hello .greeted
      (handshake canonical expectedToken : HandlerCall τ Unit) := by
  apply Goes.bind (readMessage_goes (by simp) (by simp))
  intro message
  apply Goes.bind (countIn_goes _ message.body)
  intro _
  split
  · exact Goes.fail (by simp) (by simp) (by simp)
  · apply Goes.bind
    · exact Goes.orThrow (HelloRequest.decode_ne_trapped _) (by simp) (by simp)
    intro hello
    apply Goes.bind
    · exact Goes.modify (fun _ => rfl) (fun _ => rfl) (fun _ => rfl)
    intro _
    apply Goes.bind (countOut_goes _ _)
    intro _
    apply Goes.bind (send_goes (.greet _) rfl (by simp) (by simp))
    intro _
    split
    · exact Goes.pure _ ()
    · exact Goes.fail (by simp) (by simp) (by simp)

variable {session : CodecSession τ}

theorem createSession_goes (config : ClientConfiguration) :
    Goes .greeted .created (createSession session config) :=
  fun _ h => ⟨h.course.snoc .create, rfl, rfl⟩

theorem configure_goes (hsession : session.Regular) :
    Goes .greeted .serving (configure canonical session) := by
  apply Goes.bind (readMessage_goes (by simp) (by simp))
  intro message
  apply Goes.bind (countIn_goes _ message.body)
  intro _
  split
  · exact Goes.fail (by simp) (by simp) (by simp)
  · apply Goes.bind
    · exact Goes.orThrow (ConfigureRequest.decode_ne_trapped canonical _) (by simp)
        (by simp)
    intro request
    apply Goes.bind (Goes.get _)
    intro s
    show Goes _ _ (if _ then _ else _)
    split
    · apply Goes.bind (countOut_goes _ _)
      intro _
      apply Goes.bind
      · exact send_goes (.refuse _) rfl (by simp) (by simp)
      intro _
      exact Goes.fail (by simp) (by simp) (by simp)
    · apply Goes.bind (createSession_goes _)
      intro _
      apply Goes.bind
      · exact callback_goes (hsession.configure _) .configure rfl rfl (by simp)
          (by simp) (fun _ hsends => hsends.elim)
      intro extradata
      apply Goes.bind (countOut_goes _ _)
      intro _
      exact send_goes (.acknowledge _) rfl (by simp) (by simp)

def Rounds : Except Failure (Option Unit) -> VTRClientHandler τ -> Prop
  | .ok none, s => At .serving s
  | .ok (some _), s => At .finished s
  | .error e, s => Arrives .finished (.error e : Except Failure Unit) s

def EndsRound (phase : Phase) (m : HandlerCall τ (Option Unit)) : Prop :=
  forall s, At phase s -> (m s).Ends Rounds (fun _ => False)

theorem EndsRound.bind {α : Type} {first middle : Phase} {m : HandlerCall τ α}
    {next : α -> HandlerCall τ (Option Unit)} (h : Goes first middle m)
    (hnext : forall a, EndsRound middle (next a)) :
    EndsRound first (m >>= next) := by
  intro s hs
  apply Call.ends_bind (h s hs)
  · exact fun _ _ herror => herror
  · exact fun a s' hs' => hnext a s' hs'

theorem EndsRound.next :
    EndsRound .serving (pure none : HandlerCall τ (Option Unit)) :=
  fun _ h => h

theorem EndsRound.last :
    EndsRound .finished (pure (some ()) : HandlerCall τ (Option Unit)) :=
  fun _ h => h

theorem mainMessage_endsRound (hsession : session.Regular)
    (message : IncomingMessage) :
    EndsRound .serving (mainMessage session message) := by
  unfold mainMessage
  split
  · apply EndsRound.bind
    · exact callback_goes (hsession.handleFrameMessage _) .frameMessage rfl rfl
        (by simp) (by simp) fun body htype => .reply body htype.reply
    intro _
    exact EndsRound.next
  · apply EndsRound.bind
    · exact callback_goes (hsession.handlePacketMessage _) .packetMessage rfl rfl
        (by simp) (by simp) fun body htype => .reply body htype.reply
    intro _
    exact EndsRound.next
  · apply EndsRound.bind
    · exact callback_goes hsession.flush .flush rfl rfl (by simp) (by simp)
        fun body htype => .flushReply body htype
    intro _
    apply EndsRound.bind (Goes.record .flushed rfl)
    intro _
    apply EndsRound.bind (send_goes (.done _) rfl (by simp) (by simp))
    intro _
    exact EndsRound.last
  · apply EndsRound.bind
    · exact send_goes (.reply _ (Or.inr (Or.inr rfl))) rfl (by simp) (by simp)
    intro _
    exact EndsRound.next
  · exact EndsRound.next

theorem mainRound_endsRound (hsession : session.Regular) :
    EndsRound .serving (mainRound session) := by
  apply EndsRound.bind (readMessage_goes (by simp) (by simp))
  intro message
  apply EndsRound.bind (countIn_goes _ message.body)
  intro _
  exact mainMessage_endsRound hsession message

/-!
## The loop
-/

def TakesMessages (s s' : VTRClientHandler τ) : Prop :=
  s'.incoming.length ≤ s.incoming.length

instance : IsPreorder (VTRClientHandler τ) TakesMessages where
  refl _ := Nat.le_refl _
  trans _ _ _ h1 h2 := Nat.le_trans h2 h1

theorem record_takes (event : HandlerEvent) :
    Call.Moves TakesMessages (record event : HandlerCall τ Unit) :=
  Call.Moves.modify fun _ => Nat.le_refl _

theorem countOut_takes (body : List UInt8) :
    Call.Moves TakesMessages (countOut body : HandlerCall τ Unit) :=
  Call.Moves.modify fun _ => Nat.le_refl _

theorem sendResult_takes (type : VTRemoteMsgType) (body : List UInt8) :
    Call.Moves TakesMessages
      (sendResult type body : HandlerCall τ (Except VTRemotedError Unit)) := by
  apply Call.Moves.bind (record_takes _)
  intro _
  apply Call.Moves.bind Call.Moves.get
  intro s
  apply Call.Moves.bind
  · exact Call.Moves.modify fun _ => Nat.le_refl _
  intro _
  exact Call.Moves.pure _

theorem send_takes (type : VTRemoteMsgType) (body : List UInt8) :
    Call.Moves TakesMessages (send type body : HandlerCall τ Unit) := by
  apply Call.Moves.bind (sendResult_takes type body)
  intro result
  cases result with
  | ok _ => exact Call.Moves.pure ()
  | error e => exact Call.Moves.fail _

theorem perform_takes {α : Type} (call : SessionCall τ α) :
    Call.Moves TakesMessages (perform call) := by
  induction call with
  | finish result session =>
      apply Call.Moves.bind
      · exact Call.Moves.modify fun _ => Nat.le_refl _
      intro _
      cases result with
      | ok a => exact Call.Moves.pure a
      | error e => exact Call.Moves.fail e
  | send type bodyParts next ih =>
      apply Call.Moves.bind (countOut_takes _)
      intro _
      apply Call.Moves.bind (sendResult_takes _ _)
      intro result
      exact ih result

theorem callback_takes {α : Type} (event : HandlerEvent)
    (call : τ -> SessionCall τ α) :
    Call.Moves TakesMessages (callback event call) := by
  apply Call.Moves.bind Call.Moves.get
  intro s
  cases s.codecSession with
  | none => exact Call.Moves.fail _
  | some session =>
      apply Call.Moves.bind (record_takes event)
      intro _
      exact perform_takes _

theorem mainMessage_takes (message : IncomingMessage) :
    Call.Moves TakesMessages (mainMessage session message) := by
  unfold mainMessage
  split
  · apply Call.Moves.bind (callback_takes _ _)
    intro _
    exact Call.Moves.pure _
  · apply Call.Moves.bind (callback_takes _ _)
    intro _
    exact Call.Moves.pure _
  · apply Call.Moves.bind (callback_takes _ _)
    intro _
    apply Call.Moves.bind (record_takes _)
    intro _
    apply Call.Moves.bind (send_takes _ _)
    intro _
    exact Call.Moves.pure _
  · apply Call.Moves.bind (send_takes _ _)
    intro _
    exact Call.Moves.pure _
  · exact Call.Moves.pure _

theorem mainRound_takes {s s' : VTRClientHandler τ} {result : Option Unit}
    (h : mainRound session s = .returned (.ok result) s') :
    s'.incoming.length < s.incoming.length := by
  rcases Call.bind_eq_ok h with ⟨message, s1, hread, hnext⟩
  have hlt : s1.incoming.length < s.incoming.length := by
    unfold readMessage record at hread
    rw [Call.modify_bind, Call.get_bind] at hread
    cases hin : s.incoming with
    | nil =>
        simp only [hin] at hread
        cases hread
    | cons first rest =>
        simp only [hin] at hread
        cases hread
        exact Nat.lt_succ_self _
  rcases Call.bind_eq_ok hnext with ⟨_, s2, hcount, hmain⟩
  cases hcount
  have hmoves := (mainMessage_takes message).of_returned hmain
  exact Nat.lt_of_le_of_lt hmoves hlt

theorem mainLoop_goes (hsession : session.Regular) :
    Goes .serving .finished (mainLoop session) := by
  intro s h
  rcases Option.isSome_iff_exists.mp h.session with ⟨t, ht⟩
  rcases Option.isSome_iff_exists.mp h.configuration with ⟨config, hconfig⟩
  unfold mainLoop
  rw [Call.get_bind, hconfig, ht]
  apply Call.ends_loop_of_lt (At .serving) (fun _ _ => mainRound_takes) _ h
    (Nat.lt_succ_self _)
  intro s1 hs1
  apply (mainRound_endsRound hsession s1 hs1).mono
  · intro r s' hr
    cases r with
    | error e => exact hr
    | ok result =>
        cases result with
        | none => exact hr
        | some a => exact hr
  · exact fun _ h => h

/-- A conversation ends with DONE, or something is thrown. -/
theorem conversation_goes (hsession : session.Regular) :
    Goes .hello .finished (conversation canonical expectedToken session) := by
  apply Goes.bind (handshake_goes canonical expectedToken)
  intro _
  apply Goes.bind (configure_goes canonical hsession)
  intro _
  exact mainLoop_goes hsession

structure Ended (s : VTRClientHandler τ) : Prop where
  course : exists phase, Phase.Course .hello s.events phase ∧
    phase.hasSession = phase.isOver

theorem shutdownSession_ends {phase : Phase} {s : VTRClientHandler τ}
    (h : At phase s) (hcreated : phase ≠ .created) (hended : phase ≠ .ended) :
    (shutdownSession session s).Ends (fun r s' => r = .ok () ∧ Ended s')
      (fun _ => False) := by
  have hsession := h.session
  unfold shutdownSession
  rw [Call.get_bind]
  cases hsome : s.codecSession with
  | none =>
      rw [hsome] at hsession
      refine ⟨rfl, phase, h.course, ?_⟩
      cases phase with
      | ended => exact absurd rfl hended
      | hello | greeted | refused | created | configured | serving | flushing
      | flushed | finished => exact hsession.symm
  | some t =>
      rw [hsome] at hsession
      have hlive : phase.live = true := by
        cases phase with
        | created => exact absurd rfl hcreated
        | ended => exact absurd rfl hended
        | hello | greeted | refused => cases hsession
        | configured | serving | flushing | flushed | finished => rfl
      exact ⟨rfl, .ended, h.course.snoc (.shutdown hlive), rfl⟩

theorem run_ends (hsession : session.Regular)
    (incoming : List IncomingMessage)
    (sendResults : List (Except VTRemotedError Unit)) :
    (run canonical expectedToken session (start incoming sendResults)).Ends
      (fun r s' => r = .ok () ∧ Ended s') (fun _ => False) := by
  have hstart : At .hello (start incoming sendResults : VTRClientHandler τ) :=
    ⟨Phase.Course.nil, rfl, rfl⟩
  apply Call.ends_attempt_bind
    (conversation_goes canonical expectedToken hsession _ hstart)
  intro r s' hr
  cases r with
  | ok _ => exact shutdownSession_ends hr (by simp) (by simp)
  | error e =>
      rcases hr with ⟨htrap, phase, hcreated, hended, hat⟩
      cases e with
      | trapped => exact absurd rfl htrap
      | thrown error => exact shutdownSession_ends hat hcreated hended

/-!
## The order of a conversation
-/

/-- What is sent is a conversation, in which DONE comes once at most, behind a flush
and as the last message.  The session is made and configured once at most, before
it gets a FRAME or a PACKET, and shut down as often as it is made. -/
structure Orderly (events : List HandlerEvent) : Prop where
  conversational : Conversational (sentTypes events)
  done_once : (sentTypes events).count .done ≤ 1
  done_last : forall before body behind,
    events = before ++ .sent .done body :: behind ->
      .flushed ∈ before ∧ forall event, event ∈ behind -> event.sentType = none
  configure_once : events.count .configure ≤ 1
  configure_first : forall before event behind,
    events = before ++ event :: behind ->
      event = .frameMessage ∨ event = .packetMessage ->
        before.count .configure = 1
  created_once : events.count .created ≤ 1
  shutdown_once : events.count .shutdown = events.count .created

theorem Ended.orderly {s : VTRClientHandler τ} (h : Ended s) :
    Orderly s.events := by
  rcases h.course with ⟨phase, hcourse, hended⟩
  exact
    { conversational := hcourse.sent.conversational
      done_once := hcourse.sent.conversational.done_once
      done_last := by
        intro before body behind hevents
        rw [hevents] at hcourse
        exact hcourse.done
      configure_once := by
        rw [hcourse.configure]
        exact Bool.toNat_le _
      configure_first := by
        intro before event behind hevents hevent
        rw [hevents] at hcourse
        exact hcourse.handles hevent
      created_once := by
        rw [hcourse.created]
        exact Bool.toNat_le _
      shutdown_once := by rw [hcourse.shutdown, hcourse.created, hended] }

/-- On every sequence of messages and with every session that sends PACKET and
FRAME from its callbacks only, and that may throw anywhere, a run returns, and
its events are in order. -/
theorem run_orderly (canonical : String -> String) (expectedToken : String)
    {session : CodecSession τ} (hsession : session.Regular)
    (incoming : List IncomingMessage)
    (sendResults : List (Except VTRemotedError Unit)) :
    exists s, run canonical expectedToken session (start incoming sendResults) =
        .returned (.ok ()) s ∧ Orderly s.events := by
  have hends := run_ends canonical expectedToken hsession incoming sendResults
  cases hrun : run canonical expectedToken session
      (start incoming sendResults) with
  | blocked s =>
      rw [hrun] at hends
      exact hends.elim
  | returned r s =>
      rw [hrun] at hends
      rcases hends with ⟨rfl, hended⟩
      exact ⟨s, rfl, hended.orderly⟩

/-- A session that answers every FRAME with an empty PACKET. -/
def echoSession : CodecSession Unit where
  make := ()
  configure _ t := .finish (.ok []) t
  handleFrameMessage _ t := .send .packet [] fun _ => .finish (.ok ()) t
  handlePacketMessage _ t := .finish (.ok ()) t
  flush t := .finish (.ok ()) t
  shutdown t := t

theorem echoSession_regular : echoSession.Regular where
  configure _ _ := .finish _ (by simp)
  handleFrameMessage _ _ :=
    .send [] (Or.inl rfl) fun _ => .finish _ (by simp)
  handlePacketMessage _ _ := .finish _ (by simp)
  flush _ := .finish _ (by simp)

/-- A HELLO, a CONFIGURE for frames of two by two samples, two FRAMEs and a FLUSH. -/
def echoed : List IncomingMessage :=
  [⟨1, [0, 0, 0, 4, 104, 50, 54, 52, 0, 0, 0, 0]⟩,
    ⟨3, [0, 0, 0, 2, 0, 0, 0, 2, 1, 0, 0, 0, 1, 0, 0, 0, 25, 0, 0, 0, 25, 0, 0, 0, 1]⟩,
    ⟨5, []⟩, ⟨5, []⟩, ⟨7, []⟩]

theorem run_orderly_echo :
    exists s, run id "" echoSession (start echoed []) = .returned (.ok ()) s ∧
      Orderly s.events ∧
      sentTypes s.events = [.helloAck, .configureAck, .packet, .packet, .done] := by
  rcases run_orderly id "" echoSession_regular echoed [] with ⟨s, hrun, horderly⟩
  have hsent : sentTypes (run id "" echoSession (start echoed [])).state.events =
      [.helloAck, .configureAck, .packet, .packet, .done] := by
    decide +kernel
  rw [hrun] at hsent
  exact ⟨s, hrun, horderly, hsent⟩

end VTRClientHandler
end VTRemote
