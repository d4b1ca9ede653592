import Mathlib.Logic.Relation
import VTRemote.Server.HandlerRuns

/-!
# The byte counters of a client

The counters against the messages that a run reads and sends.  The main loop
sends PONG and DONE beside its counter, so the bytes that were sent can only be
more than those that were counted.
-/

namespace VTRemote

/-!
## What was read and sent
-/

def bytesRead (messages : List IncomingMessage) : Nat :=
  (messages.map fun message => messageSize message.body).sum

def HandlerEvent.sentBytes : HandlerEvent -> Nat
  | .sent _ body => messageSize body
  | _ => 0

/-- A send that throws is among the events, and was counted before it. -/
def bytesSent (events : List HandlerEvent) : Nat :=
  (events.map HandlerEvent.sentBytes).sum

theorem bytesRead_append (messages messages' : List IncomingMessage) :
    bytesRead (messages ++ messages') = bytesRead messages + bytesRead messages' := by
  unfold bytesRead
  rw [List.map_append, List.sum_append_nat]

theorem bytesSent_snoc (events : List HandlerEvent) (event : HandlerEvent) :
    bytesSent (events ++ [event]) = bytesSent events + event.sentBytes := by
  unfold bytesSent
  rw [List.map_append, List.sum_append_nat]
  exact congrArg _ (Nat.add_zero _)

def SessionCall.outcome {τ α : Type} : SessionCall τ α ->
    List (Except VTRemotedError Unit) -> Except Failure α
  | .finish result _, _ => result
  | .send _ _ next, results => (next (results.headD (.ok ()))).outcome results.tail

namespace VTRClientHandler

variable {τ : Type}

/-- The counters hold what was read of the messages, and what was sent. -/
structure Accounts (incoming : List IncomingMessage)
    (s : VTRClientHandler τ) : Prop where
  bytesIn : exists read, incoming = read ++ s.incoming ∧
    s.stats.bytesIn = bytesRead read
  bytesOut : s.stats.bytesOut = bytesSent s.events

/-- Between two states the messages were counted as they were read, and of the
bytes that were sent so many were not counted. -/
structure Books (missed : Nat) (s s' : VTRClientHandler τ) : Prop where
  bytesIn : exists read, s.incoming = read ++ s'.incoming ∧
    s'.stats.bytesIn = s.stats.bytesIn + bytesRead read
  bytesOut : bytesSent s'.events + s.stats.bytesOut =
    bytesSent s.events + s'.stats.bytesOut + missed

theorem Books.refl (s : VTRClientHandler τ) : Books 0 s s :=
  ⟨⟨[], rfl, rfl⟩, rfl⟩

theorem Books.trans {missed missed' : Nat} {s s1 s2 : VTRClientHandler τ}
    (h : Books missed s s1) (h' : Books missed' s1 s2) :
    Books (missed + missed') s s2 := by
  rcases h.bytesIn with ⟨read, hincoming, hin⟩
  rcases h'.bytesIn with ⟨read', hincoming', hin'⟩
  constructor
  · refine ⟨read ++ read', ?_, ?_⟩
    · rw [hincoming, hincoming', List.append_assoc]
    · rw [hin', hin, bytesRead_append, Nat.add_assoc]
  · have hout := h.bytesOut
    have hout' := h'.bytesOut
    omega

theorem Books.after {missed : Nat} {s s1 s2 : VTRClientHandler τ}
    (h : Books 0 s s1) (h' : Books missed s1 s2) : Books missed s s2 := by
  have hboth := h.trans h'
  rw [Nat.zero_add] at hboth
  exact hboth

instance : IsPreorder (VTRClientHandler τ) (Books 0) where
  refl := Books.refl
  trans _ _ _ h h' := h.trans h'

theorem Books.of_eq {s s' : VTRClientHandler τ} (hincoming : s'.incoming = s.incoming)
    (hstats : s'.stats = s.stats) (hevents : bytesSent s'.events = bytesSent s.events) :
    Books 0 s s' := by
  constructor
  · refine ⟨[], hincoming.symm, ?_⟩
    rw [hstats]
    rfl
  · rw [hstats, hevents]
    rfl

/-- From the start, the counters are right when nothing was missed. -/
theorem Books.accounts_iff {missed : Nat} {incoming : List IncomingMessage}
    {sendResults : List (Except VTRemotedError Unit)} {s : VTRClientHandler τ}
    (h : Books missed (start incoming sendResults) s) :
    Accounts incoming s <-> missed = 0 := by
  have hout : bytesSent s.events + 0 = 0 + s.stats.bytesOut + missed := h.bytesOut
  constructor
  · intro haccounts
    have heq := haccounts.bytesOut
    omega
  · intro hmissed
    constructor
    · rcases h.bytesIn with ⟨read, hincoming, hin⟩
      exact ⟨read, hincoming, hin.trans (Nat.zero_add _)⟩
    · omega

/-!
## Single steps
-/

def received (s : VTRClientHandler τ) (message : IncomingMessage)
    (rest : List IncomingMessage) : VTRClientHandler τ :=
  { s with
    incoming := rest
    stats := { s.stats with bytesIn := s.stats.bytesIn + messageSize message.body }
    events := s.events ++ [.read] }

theorem readMessage_of_nil {s : VTRClientHandler τ} (hin : s.incoming = []) :
    readMessage s = .returned (.error (.thrown (.ioError 0 "poll timed out")))
      { s with events := s.events ++ [.read] } := by
  unfold readMessage record
  rw [Call.modify_bind, Call.get_bind]
  simp only [hin]
  rfl

theorem readMessage_of_cons {s : VTRClientHandler τ} {message : IncomingMessage}
    {rest : List IncomingMessage} (hin : s.incoming = message :: rest) :
    readMessage s = .returned (.ok message)
      { s with incoming := rest, events := s.events ++ [.read] } := by
  unfold readMessage record
  rw [Call.modify_bind, Call.get_bind]
  simp only [hin]
  rfl

theorem received_of_cons {α : Type} (next : IncomingMessage -> HandlerCall τ α)
    {s : VTRClientHandler τ} {message : IncomingMessage}
    {rest : List IncomingMessage} (hin : s.incoming = message :: rest) :
    (readMessage >>= fun message => countIn message.body >>= fun _ =>
      next message) s = next message (s.received message rest) := by
  rw [Call.bind_of_ok _ (readMessage_of_cons hin)]
  rfl

theorem received_books {s : VTRClientHandler τ} {message : IncomingMessage}
    {rest : List IncomingMessage} (hin : s.incoming = message :: rest) :
    Books 0 s (s.received message rest) := by
  constructor
  · refine ⟨[message], hin, ?_⟩
    exact congrArg _ (Nat.add_zero _).symm
  · show bytesSent (s.events ++ [_]) + _ = _
    rw [bytesSent_snoc]
    rfl

theorem record_books {event : HandlerEvent} (hevent : event.sentBytes = 0) :
    Call.Moves (Books 0) (record event : HandlerCall τ Unit) := by
  apply Call.Moves.modify
  intro s
  apply Books.of_eq
  · rfl
  · rfl
  · rw [bytesSent_snoc, hevent]
    rfl

theorem orThrow_books {α : Type} (result : Except Failure α) :
    Call.Moves (Books 0) (orThrow result : HandlerCall τ α) := by
  cases result with
  | ok a => exact Call.Moves.pure a
  | error e => exact Call.Moves.fail e

theorem Books.bind {α β : Type} {missed : Nat} {m : HandlerCall τ α}
    {next : α -> HandlerCall τ β} (h : Call.Moves (Books missed) m)
    (hnext : forall a, Call.Moves (Books 0) (next a)) :
    Call.Moves (Books missed) (m >>= next) := by
  intro s
  apply Call.ends_bind (h s)
  · exact fun _ _ hm => hm
  · intro a s' hm
    exact (hnext a s').mono (fun _ _ h' => hm.trans h') (fun _ h' => hm.trans h')

theorem sendResult_books (type : VTRemoteMsgType) (body : List UInt8) :
    Call.Moves (Books (messageSize body))
      (sendResult type body : HandlerCall τ (Except VTRemotedError Unit)) := by
  apply Books.bind
  · apply Call.Moves.modify
    intro s
    constructor
    · exact ⟨[], rfl, rfl⟩
    · show bytesSent (s.events ++ [_]) + _ = _
      rw [bytesSent_snoc]
      exact Nat.add_right_comm _ _ _
  intro _
  apply Call.Moves.bind Call.Moves.get
  intro s
  apply Call.Moves.bind
  · exact Call.Moves.modify fun _ => Books.of_eq rfl rfl rfl
  intro _
  exact Call.Moves.pure _

theorem send_books (type : VTRemoteMsgType) (body : List UInt8) :
    Call.Moves (Books (messageSize body))
      (send type body : HandlerCall τ Unit) := by
  apply Books.bind (sendResult_books type body)
  intro result
  cases result with
  | ok _ => exact Call.Moves.pure ()
  | error e => exact Call.Moves.fail _

theorem countOut_books {α : Type} {body : List UInt8} {m : HandlerCall τ α}
    (h : Call.Moves (Books (messageSize body)) m) :
    Call.Moves (Books 0) (countOut body >>= fun _ => m) := by
  apply Call.Moves.of_state
  intro s
  unfold countOut
  rw [Call.modify_bind]
  have hm := h.state { s with stats :=
    { s.stats with bytesOut := s.stats.bytesOut + messageSize body } }
  constructor
  · exact hm.bytesIn
  · have hout : bytesSent _ + (s.stats.bytesOut + messageSize body) =
        bytesSent s.events + _ + messageSize body := hm.bytesOut
    exact Nat.add_right_cancel ((Nat.add_assoc _ _ _).trans hout)

theorem readMessage_books {α : Type} {next : IncomingMessage -> HandlerCall τ α}
    (h : forall message, Call.Moves (Books 0) (next message)) :
    Call.Moves (Books 0) (readMessage >>= fun message =>
      countIn message.body >>= fun _ => next message) := by
  apply Call.Moves.of_state
  intro s
  cases hin : s.incoming with
  | nil =>
      rw [Call.bind_of_error _ (readMessage_of_nil hin)]
      exact (record_books rfl).state s
  | cons message rest =>
      rw [received_of_cons next hin]
      exact (received_books hin).trans ((h message).state _)

/-!
## Callbacks
-/

/-- A callback ends as the session's call comes out, and every message that it
sends is counted. -/
theorem perform_books {α : Type} (call : SessionCall τ α)
    (s : VTRClientHandler τ) :
    exists s', perform call s = .returned (call.outcome s.sendResults) s' ∧
      Books 0 s s' := by
  induction call generalizing s with
  | finish result t =>
      refine ⟨{ s with codecSession := some t }, ?_, Books.of_eq rfl rfl rfl⟩
      cases result with
      | ok a => rfl
      | error e => rfl
  | send type bodyParts next ih =>
      let body := bodyParts.flatten
      let sent : VTRClientHandler τ := { s with
        sendResults := s.sendResults.tail
        stats := { s.stats with bytesOut := s.stats.bytesOut + messageSize body }
        events := s.events ++ [.sent type body] }
      have hsent : Books 0 s sent := by
        constructor
        · exact ⟨[], rfl, rfl⟩
        · show bytesSent (s.events ++ [_]) + _ = _ + (_ + messageSize body)
          rw [bytesSent_snoc]
          exact (Nat.add_right_comm _ _ _).trans (Nat.add_assoc _ _ _)
      rcases ih (s.sendResults.headD (.ok ())) sent with ⟨s', hperform, hbooks⟩
      exact ⟨s', hperform, hsent.trans hbooks⟩

theorem callback_books {α : Type} {event : HandlerEvent}
    (hevent : event.sentBytes = 0) (call : τ -> SessionCall τ α) :
    Call.Moves (Books 0) (callback event call) := by
  apply Call.Moves.bind Call.Moves.get
  intro s
  cases s.codecSession with
  | none => exact Call.Moves.fail _
  | some t =>
      apply Call.Moves.bind (record_books hevent)
      intro _
      apply Call.Moves.of_state
      intro s'
      rcases perform_books (call t) s' with ⟨s1, hperform, hbooks⟩
      rw [hperform]
      exact hbooks

/-!
## Handshake and configuration
-/

variable (canonical : String -> String) (expectedToken : String)

theorem handshake_books :
    Call.Moves (Books 0)
      (handshake canonical expectedToken : HandlerCall τ Unit) := by
  apply readMessage_books
  intro message
  split
  · exact Call.Moves.fail _
  · apply Call.Moves.bind (orThrow_books _)
    intro hello
    apply Call.Moves.bind
    · exact Call.Moves.modify fun _ => Books.of_eq rfl rfl rfl
    intro _
    apply countOut_books
    apply Books.bind (send_books _ _)
    intro _
    split
    · exact Call.Moves.pure ()
    · exact Call.Moves.fail _

variable (session : CodecSession τ)

theorem createSession_books (config : ClientConfiguration) :
    Call.Moves (Books 0) (createSession session config) := by
  apply Call.Moves.bind (record_books rfl)
  intro _
  exact Call.Moves.modify fun _ => Books.of_eq rfl rfl rfl

theorem configure_books :
    Call.Moves (Books 0) (configure canonical session) := by
  apply readMessage_books
  intro message
  split
  · exact Call.Moves.fail _
  · apply Call.Moves.bind (orThrow_books _)
    intro request
    apply Call.Moves.bind Call.Moves.get
    intro s
    show Call.Moves _ (if _ then _ else _)
    split
    · apply countOut_books
      apply Books.bind (send_books _ _)
      intro _
      exact Call.Moves.fail _
    · apply Call.Moves.bind (createSession_books session _)
      intro _
      apply Call.Moves.bind (callback_books rfl _)
      intro extradata
      apply countOut_books
      exact send_books _ _

/-!
## The main loop
-/

/-- The handler answers the message itself: a PING, or a FLUSH that the session
carries out. -/
inductive Answers (message : IncomingMessage) (s : VTRClientHandler τ) : Prop where
  | pong (htype : VTRemoteMsgType.ofCode message.type = some .ping)
  | done (htype : VTRemoteMsgType.ofCode message.type = some .flush) {t : τ}
      (hsession : s.codecSession = some t)
      (hflush : (session.flush t).outcome s.sendResults = .ok ())

/-- The loop is about to read a message that the handler answers itself. -/
def Replies (s : VTRClientHandler τ) : Prop :=
  exists message rest, s.incoming = message :: rest ∧ Answers session message s

variable {session}

theorem Answers.of_same {message : IncomingMessage} {s s' : VTRClientHandler τ}
    (hcodec : s'.codecSession = s.codecSession)
    (hresults : s'.sendResults = s.sendResults)
    (h : Answers session message s) : Answers session message s' := by
  cases h with
  | pong htype => exact .pong htype
  | done htype hsession hflush =>
      rw [← hcodec] at hsession
      rw [← hresults] at hflush
      exact .done htype hsession hflush

theorem Answers.received {message : IncomingMessage} {s : VTRClientHandler τ}
    {first : IncomingMessage} {rest : List IncomingMessage} :
    Answers session message (s.received first rest) <->
      Answers session message s :=
  ⟨.of_same rfl rfl, .of_same rfl rfl⟩

theorem callback_of_some {α : Type} {event : HandlerEvent}
    (hevent : event.sentBytes = 0) (call : τ -> SessionCall τ α)
    {s : VTRClientHandler τ} {t : τ} (ht : s.codecSession = some t) :
    exists s', callback event call s =
        .returned ((call t).outcome s.sendResults) s' ∧ Books 0 s s' := by
  rcases perform_books (call t) { s with events := s.events ++ [event] } with
    ⟨s', hperform, hbooks⟩
  refine ⟨s', ?_, ((record_books hevent).state s).trans hbooks⟩
  unfold callback
  rw [Call.get_bind, ht]
  exact hperform

theorem reply_books {α : Type} (type : VTRemoteMsgType) (a : α) :
    Call.Moves (Books vtremoteHeaderSize)
      (send type [] >>= fun _ => pure a : HandlerCall τ α) := by
  have hsend : Call.Moves (Books (messageSize [])) (send type [] : HandlerCall τ Unit) :=
    send_books type []
  apply Books.bind hsend
  intro _
  exact Call.Moves.pure a

theorem mainMessage_of_answers {message : IncomingMessage}
    {s : VTRClientHandler τ} (h : Answers session message s) :
    Books vtremoteHeaderSize s (mainMessage session message s).state := by
  unfold mainMessage
  cases h with
  | pong htype =>
      rw [htype]
      exact (reply_books .pong none).state s
  | done htype hsession hflush =>
      rw [htype]
      have hcall := callback_of_some (rfl : HandlerEvent.flush.sentBytes = 0)
        session.flush hsession
      rw [hflush] at hcall
      rcases hcall with ⟨s', hcallback, hbooks⟩
      dsimp only
      rw [Call.bind_of_ok _ hcallback]
      have hrecord := (record_books rfl : Call.Moves (Books 0)
        (record .flushed : HandlerCall τ Unit)).state s'
      exact hbooks.after (hrecord.after ((reply_books .done (some ())).state _))

theorem callback_round {event : HandlerEvent} (hevent : event.sentBytes = 0)
    (call : τ -> SessionCall τ Unit) :
    Call.Moves (Books 0) (callback event call >>= fun _ => pure none :
      HandlerCall τ (Option Unit)) := by
  apply Call.Moves.bind (callback_books hevent call)
  intro _
  exact Call.Moves.pure none

theorem mainMessage_books {message : IncomingMessage}
    (hping : VTRemoteMsgType.ofCode message.type ≠ some .ping)
    (hflush : VTRemoteMsgType.ofCode message.type ≠ some .flush) :
    Call.Moves (Books 0) (mainMessage session message) := by
  unfold mainMessage
  split
  · exact callback_round rfl _
  · exact callback_round rfl _
  · rename_i htype
    exact absurd htype hflush
  · rename_i htype
    exact absurd htype hping
  · exact Call.Moves.pure none

theorem mainMessage_of_not_answers {message : IncomingMessage}
    {s : VTRClientHandler τ} (h : ¬ Answers session message s) :
    Books 0 s (mainMessage session message s).state := by
  have hping : VTRemoteMsgType.ofCode message.type ≠ some .ping :=
    fun htype => h (.pong htype)
  by_cases htype : VTRemoteMsgType.ofCode message.type = some .flush
  · unfold mainMessage
    rw [htype]
    dsimp only
    cases ht : s.codecSession with
    | none =>
        have hcallback : callback .flush session.flush s =
            violation "missing configuration" s := by
          unfold callback
          rw [Call.get_bind, ht]
        rw [Call.bind_of_error _ hcallback]
        exact Books.refl s
    | some t =>
        rcases callback_of_some (rfl : HandlerEvent.flush.sentBytes = 0)
          session.flush ht with ⟨s', hcallback, hbooks⟩
        cases houtcome : (session.flush t).outcome s.sendResults with
        | ok _ => exact absurd (.done htype ht houtcome) h
        | error e =>
            rw [houtcome] at hcallback
            rw [Call.bind_of_error _ hcallback]
            exact hbooks
  · exact (mainMessage_books hping htype).state s

theorem mainRound_of_replies {s : VTRClientHandler τ} (h : Replies session s) :
    Books vtremoteHeaderSize s (mainRound session s).state := by
  rcases h with ⟨message, rest, hincoming, hanswers⟩
  unfold mainRound
  rw [received_of_cons _ hincoming]
  exact (received_books hincoming).after
    (mainMessage_of_answers (Answers.received.mpr hanswers))

theorem mainRound_of_not_replies {s : VTRClientHandler τ}
    (h : ¬ Replies session s) : Books 0 s (mainRound session s).state := by
  unfold mainRound
  cases hin : s.incoming with
  | nil =>
      rw [Call.bind_of_error _ (readMessage_of_nil hin)]
      exact (record_books rfl).state s
  | cons message rest =>
      rw [received_of_cons _ hin]
      apply (received_books hin).after
      apply mainMessage_of_not_answers
      intro hanswers
      exact h ⟨message, rest, hin, Answers.received.mp hanswers⟩

def FallsShort (s s' : VTRClientHandler τ) : Prop := exists missed, Books missed s s'

instance : IsPreorder (VTRClientHandler τ) FallsShort where
  refl s := ⟨0, Books.refl s⟩
  trans _ _ _ h h' := by
    rcases h with ⟨missed, h⟩
    rcases h' with ⟨missed', h'⟩
    exact ⟨missed + missed', h.trans h'⟩

theorem mainRound_fallsShort : Call.Moves FallsShort (mainRound session) := by
  apply Call.Moves.of_state
  intro s
  by_cases h : Replies session s
  · exact ⟨_, mainRound_of_replies h⟩
  · exact ⟨_, mainRound_of_not_replies h⟩

def Loops (session : CodecSession τ) :
    VTRClientHandler τ -> VTRClientHandler τ -> Prop :=
  Relation.ReflTransGen fun s s' => mainRound session s = .returned (.ok none) s'

theorem loop_of_not_replies (fuel : Nat) {s : VTRClientHandler τ}
    (h : forall s', Loops session s s' -> ¬ Replies session s') :
    Books 0 s (Call.loop (mainRound session) fuel s).state := by
  induction fuel generalizing s with
  | zero => exact Books.refl s
  | succ fuel ih =>
      have hround := mainRound_of_not_replies (h s .refl)
      by_cases hnext : exists s1, mainRound session s = .returned (.ok none) s1
      · rcases hnext with ⟨s1, hs1⟩
        rw [hs1] at hround
        rw [Call.loop_of_none fuel hs1]
        apply hround.after
        apply ih
        intro s' hs'
        exact h s' (.head hs1 hs')
      · rw [Call.loop_state_of_last fuel fun s1 hs1 => hnext ⟨s1, hs1⟩]
        exact hround

theorem loop_fallsShort (fuel : Nat) (s : VTRClientHandler τ) :
    FallsShort s (Call.loop (mainRound session) fuel s).state :=
  (Call.Moves.loop mainRound_fallsShort fuel).state s

/-- A reply somewhere in the loop is still missed at its end. -/
theorem loop_of_replies {s last : VTRClientHandler τ} (h : Loops session s last)
    (hreplies : Replies session last) {fuel : Nat} (hfuel : s.incoming.length < fuel) :
    exists missed, missed ≠ 0 ∧
      Books missed s (Call.loop (mainRound session) fuel s).state := by
  induction h using Relation.ReflTransGen.head_induction_on generalizing fuel with
  | refl =>
      cases fuel with
      | zero => cases hfuel
      | succ fuel =>
          have hround := mainRound_of_replies hreplies
          by_cases hnext : exists s1, mainRound session last = .returned (.ok none) s1
          · rcases hnext with ⟨s1, hs1⟩
            rw [hs1] at hround
            rw [Call.loop_of_none fuel hs1]
            rcases loop_fallsShort fuel s1 with ⟨missed, hrest⟩
            exact ⟨_, Nat.ne_of_gt (Nat.add_pos_left (by decide) missed),
              hround.trans hrest⟩
          · rw [Call.loop_state_of_last fuel fun s1 hs1 => hnext ⟨s1, hs1⟩]
            exact ⟨_, by decide, hround⟩
  | head hround _ ih =>
      cases fuel with
      | zero => cases hfuel
      | succ fuel =>
          rename_i s s1 _
          have hlt := mainRound_takes hround
          rcases ih (Nat.lt_of_lt_of_le hlt (Nat.le_of_lt_succ hfuel)) with
            ⟨missed, hmissed, hrest⟩
          rw [Call.loop_of_none fuel hround]
          have hfirst : FallsShort s s1 := mainRound_fallsShort.of_returned hround
          rcases hfirst with ⟨missed', hfirst⟩
          exact ⟨_, Nat.ne_of_gt (Nat.add_pos_right missed'
            (Nat.pos_of_ne_zero hmissed)), hfirst.trans hrest⟩

/-!
## The run
-/

variable (session)

/-- The main loop of a run is about to read its next message. -/
def InLoop (incoming : List IncomingMessage)
    (sendResults : List (Except VTRemotedError Unit))
    (s : VTRClientHandler τ) : Prop :=
  exists greeted entered,
    handshake canonical expectedToken (start incoming sendResults) =
      .returned (.ok ()) greeted ∧
    configure canonical session greeted = .returned (.ok ()) entered ∧
    entered.configuration.isSome ∧ entered.codecSession.isSome ∧
    Loops session entered s

theorem mainLoop_of_configured {s : VTRClientHandler τ}
    (hconfiguration : s.configuration.isSome) (hsession : s.codecSession.isSome) :
    mainLoop session s =
      Call.loop (mainRound session) (s.incoming.length + 1) s := by
  rcases Option.isSome_iff_exists.mp hconfiguration with ⟨config, hconfig⟩
  rcases Option.isSome_iff_exists.mp hsession with ⟨t, ht⟩
  unfold mainLoop
  rw [Call.get_bind, hconfig, ht]

theorem mainLoop_of_not_configured {s : VTRClientHandler τ}
    (h : ¬ (s.configuration.isSome ∧ s.codecSession.isSome)) :
    mainLoop session s = violation "missing configuration" s := by
  unfold mainLoop
  rw [Call.get_bind]
  cases hconfig : s.configuration with
  | none => rfl
  | some config =>
      cases ht : s.codecSession with
      | none => rfl
      | some t =>
          rw [hconfig, ht] at h
          exact absurd ⟨rfl, rfl⟩ h

theorem shutdownSession_books : Call.Moves (Books 0) (shutdownSession session) := by
  apply Call.Moves.bind Call.Moves.get
  intro s
  cases s.codecSession with
  | none => exact Call.Moves.pure ()
  | some t =>
      apply Call.Moves.bind (record_books rfl)
      intro _
      exact Call.Moves.modify fun _ => Books.of_eq rfl rfl rfl

/-- What a run does after its conversation is nothing to the counters. -/
theorem run_books (s : VTRClientHandler τ) :
    Books 0 (conversation canonical expectedToken session s).state
      (run canonical expectedToken session s).state := by
  have hshutdown := fun s' => (shutdownSession_books session).state s'
  unfold run
  cases hm : conversation canonical expectedToken session s with
  | blocked s' =>
      rw [Call.bind_of_blocked _ (Call.attempt_of_blocked hm)]
      exact Books.refl s'
  | returned result s' =>
      rw [Call.bind_of_ok _ (Call.attempt_of_returned hm)]
      cases result with
      | ok _ => exact hshutdown s'
      | error e =>
          cases e with
          | trapped => exact Books.refl s'
          | thrown error => exact hshutdown s'

theorem conversation_of_inLoop {incoming : List IncomingMessage}
    {sendResults : List (Except VTRemotedError Unit)} {s : VTRClientHandler τ}
    (h : InLoop canonical expectedToken session incoming sendResults s)
    (hreplies : Replies session s) :
    exists missed, missed ≠ 0 ∧ Books missed (start incoming sendResults)
      (conversation canonical expectedToken session
        (start incoming sendResults)).state := by
  rcases h with
    ⟨greeted, entered, hhandshake, hconfigure, hconfiguration, hsession, hloops⟩
  have hgreeted := (handshake_books canonical expectedToken).of_returned hhandshake
  have hentered := (configure_books canonical session).of_returned hconfigure
  rcases loop_of_replies hloops hreplies (Nat.lt_succ_self _) with
    ⟨missed, hmissed, hloop⟩
  refine ⟨missed, hmissed, ?_⟩
  unfold conversation
  rw [Call.bind_of_ok _ hhandshake, Call.bind_of_ok _ hconfigure,
    mainLoop_of_configured session hconfiguration hsession]
  exact hgreeted.after (hentered.after hloop)

theorem mainLoop_books {s : VTRClientHandler τ}
    (h : s.configuration.isSome -> s.codecSession.isSome ->
      forall s', Loops session s s' -> ¬ Replies session s') :
    Books 0 s (mainLoop session s).state := by
  by_cases hconfigured : s.configuration.isSome ∧ s.codecSession.isSome
  · rw [mainLoop_of_configured session hconfigured.1 hconfigured.2]
    exact loop_of_not_replies _ (h hconfigured.1 hconfigured.2)
  · rw [mainLoop_of_not_configured session hconfigured]
    exact Books.refl s

theorem conversation_of_not_replies {incoming : List IncomingMessage}
    {sendResults : List (Except VTRemotedError Unit)}
    (h : forall s, InLoop canonical expectedToken session incoming sendResults s ->
      ¬ Replies session s) :
    Books 0 (start incoming sendResults)
      (conversation canonical expectedToken session
        (start incoming sendResults)).state := by
  apply (handshake_books canonical expectedToken).bind_state
  intro _ greeted hhandshake
  apply (configure_books canonical session).bind_state
  intro _ entered hconfigure
  apply mainLoop_books
  intro hconfiguration hsession s hloops
  exact h s
    ⟨greeted, entered, hhandshake, hconfigure, hconfiguration, hsession, hloops⟩

/-- In every run the counters hold what was read and sent exactly when the main
loop never reads a PING, nor a FLUSH that the session carries out. -/
theorem run_accounts_iff (incoming : List IncomingMessage)
    (sendResults : List (Except VTRemotedError Unit)) :
    Accounts incoming (run canonical expectedToken session
        (start incoming sendResults)).state <->
      forall s, InLoop canonical expectedToken session incoming sendResults s ->
        ¬ Replies session s := by
  have hrun := run_books canonical expectedToken session (start incoming sendResults)
  constructor
  · intro haccounts s hs hreplies
    rcases conversation_of_inLoop canonical expectedToken session hs hreplies with
      ⟨missed, hmissed, hbooks⟩
    exact hmissed ((hbooks.trans hrun).accounts_iff.mp haccounts)
  · intro h
    have hbooks := conversation_of_not_replies canonical expectedToken session h
    exact (hbooks.trans hrun).accounts_iff.mpr rfl

/-- A HELLO, a CONFIGURE for frames of two by two samples, and a PING. -/
def pinged : List IncomingMessage :=
  [⟨1, [0, 0, 0, 4, 104, 50, 54, 52, 0, 0, 0, 0]⟩,
    ⟨3, [0, 0, 0, 2, 0, 0, 0, 2, 1, 0, 0, 0, 1, 0, 0, 0, 25, 0, 0, 0, 25, 0, 0, 0, 1]⟩,
    ⟨10, []⟩]

/-- The PONG goes out without being counted. -/
theorem pong_not_counted :
    exists s, run id "" echoSession (start pinged []) = .returned (.ok ()) s ∧
      ¬ Accounts pinged s := by
  have hreturns : (run id "" echoSession (start pinged [])).value.isSome = true := by
    decide +kernel
  have hshort : (run id "" echoSession (start pinged [])).state.stats.bytesOut ≠
      bytesSent (run id "" echoSession (start pinged [])).state.events := by
    decide +kernel
  rcases Outcome.eq_of_value hreturns with ⟨_, hreturned⟩
  exact ⟨_, hreturned, fun h => hshort h.bytesOut⟩

end VTRClientHandler
end VTRemote
