import VTRemote.System.HandlerCausality
import VTRemote.System.LocalSession

/-!
# The handler with a stub session

`VTRClientHandler` over a stub session, from HELLO to the end.  Behind the
acknowledgements it sends what the session answers when it is a service.
-/

namespace VTRemote

/-!
## The stub as a codec session
-/

/-- `sender`: a body whose length does not fit its field traps. -/
def stubSend (type : VTRemoteMsgType) (body : List UInt8) (session : StubCodecSession) :
    SessionCall StubCodecSession Unit :=
  match swiftUInt32 body.length with
  | .error e => .finish (.error e) session
  | .ok _ => .send type [body] fun result =>
      .finish (result.mapError Failure.thrown) session

def stubCallback (type : VTRemoteMsgType) (session : StubCodecSession) :
    Except Failure (StubCodecSession × Option (List UInt8)) ->
      SessionCall StubCodecSession Unit
  | .error e => .finish (.error e) session
  | .ok (session, none) => .finish (.ok ()) session
  | .ok (session, some body) => stubSend type body session

def stubCodecSession (codecs : PlaneCodecs) : CodecSession StubCodecSession where
  make := {}
  configure configuration _ :=
    let (extradata, session) :=
      StubCodecSession.configure configuration.toSessionConfiguration
    .finish (.ok extradata) session
  handleFrameMessage body session :=
    stubCallback .packet session (session.handleFrameMessage codecs body)
  handlePacketMessage body session :=
    stubCallback .frame session (session.handlePacketMessage codecs body)
  flush session := .finish (.ok ()) session
  shutdown session := session

/-!
## Messages
-/

def ChannelMessage.incoming (message : ChannelMessage) : IncomingMessage where
  type := message.type.code
  body := message.body

def readCount (events : List HandlerEvent) : Nat := events.countP (· = .read)

structure Tally (events : List HandlerEvent) (sent : List ChannelMessage)
    (reads : Nat) : Prop where
  sent : sentMessages events = sent
  reads : readCount events = reads

namespace Tally

variable {events : List HandlerEvent} {sent : List ChannelMessage} {reads : Nat}

theorem record (h : Tally events sent reads) {event : HandlerEvent}
    (hmessage : event.message = none) (hread : event ≠ .read) :
    Tally (events ++ [event]) sent reads := by
  refine ⟨(sentMessages_record hmessage events).trans h.sent, ?_⟩
  unfold readCount
  rw [List.countP_append, List.countP_singleton, if_neg (by simp [hread])]
  exact h.reads

theorem read (h : Tally events sent reads) :
    Tally (events ++ [.read]) sent (reads + 1) := by
  refine ⟨(sentMessages_record rfl events).trans h.sent, ?_⟩
  unfold readCount
  rw [List.countP_append]
  exact congrArg (· + 1) h.reads

theorem send (h : Tally events sent reads) (type : VTRemoteMsgType)
    (body : List UInt8) :
    Tally (events ++ [.sent type body]) (sent ++ [⟨type, body⟩]) reads := by
  refine ⟨?_, ?_⟩
  · rw [sentMessages_append, h.sent]
    rfl
  · unfold readCount
    rw [List.countP_append]
    exact h.reads

end Tally

namespace VTRClientHandler

variable {codecs : PlaneCodecs} {session : StubCodecSession}
  {s : VTRClientHandler StubCodecSession}

variable {messages sent rest : List ChannelMessage} {reads : Nat}

structure Serves (session : StubCodecSession) (messages sent : List ChannelMessage)
    (reads : Nat) (s : VTRClientHandler StubCodecSession) : Prop where
  incoming : s.incoming = messages.map ChannelMessage.incoming
  session : s.codecSession = some session
  sendResults : s.sendResults = []
  tally : Tally s.events sent reads

def AnswersAs (rest sent : List ChannelMessage) (reads : Nat)
    (answer : List ChannelMessage × Option StubCodecSession)
    (r : Except Failure (Option Unit)) (s' : VTRClientHandler StubCodecSession) : Prop :=
  match answer.2 with
  | some session' => r = .ok none ∧ Serves session' rest (sent ++ answer.1) reads s'
  | none => r ≠ .ok none ∧ Tally s'.events (sent ++ answer.1) reads

theorem sendReply_some (type : VTRemoteMsgType) (body : List UInt8) :
    sendReply type (session, some body) =
      (swiftUInt32 body.length).map fun _ => (session, [⟨type, body⟩]) := by
  unfold sendReply sendMessage
  dsimp only
  cases swiftUInt32 body.length with
  | error e => rfl
  | ok length => rfl

def Completes (messages sent : List ChannelMessage) (reads : Nat)
    (result : Except Failure (StubCodecSession × List ChannelMessage))
    (r : Except Failure Unit) (s' : VTRClientHandler StubCodecSession) : Prop :=
  match result with
  | .ok (session', replies) =>
      r = .ok () ∧ Serves session' messages (sent ++ replies) reads s'
  | .error e => r = .error e ∧ Tally s'.events sent reads

theorem perform_stub {type : VTRemoteMsgType} (hs : Serves session messages sent reads s)
    (result : Except Failure (StubCodecSession × Option (List UInt8))) :
    (perform (stubCallback type session result) s).Ends
      (Completes messages sent reads (result >>= sendReply type)) (fun _ => False) := by
  rcases hs with ⟨hincoming, hsession, hresults, htally⟩
  rcases s with ⟨incoming, sendResults, codec, configuration, codecSession, stats, events⟩
  cases hresults
  cases result with
  | error e => exact ⟨rfl, htally⟩
  | ok answer =>
      rcases answer with ⟨session', body⟩
      cases body with
      | none =>
          refine ⟨rfl, hincoming, rfl, rfl, ?_⟩
          rw [List.append_nil]
          exact htally
      | some body =>
          show (perform (stubSend type body session') _).Ends
            (Completes messages sent reads (sendReply type (session', some body))) _
          rw [sendReply_some]
          unfold stubSend
          cases swiftUInt32 body.length with
          | error e => exact ⟨rfl, htally⟩
          | ok _ =>
              have hbody : [body].flatten = body := List.append_nil body
              refine ⟨rfl, hincoming, rfl, rfl, ?_⟩
              show Tally (events ++ [.sent type [body].flatten]) _ _
              rw [hbody]
              exact htally.send type body

theorem callback_stub {event : HandlerEvent} (hmessage : event.message = none)
    (hread : event ≠ .read) {type : VTRemoteMsgType}
    (hs : Serves session messages sent reads s)
    {call : StubCodecSession -> SessionCall StubCodecSession Unit}
    {result : Except Failure (StubCodecSession × Option (List UInt8))}
    (hcall : call session = stubCallback type session result) :
    (callback event call s).Ends
      (Completes messages sent reads (result >>= sendReply type)) (fun _ => False) := by
  have hrecorded : Serves session messages sent reads
      { s with events := s.events ++ [event] } :=
    ⟨hs.incoming, hs.session, hs.sendResults, hs.tally.record hmessage hread⟩
  unfold callback
  rw [Call.get_bind, hs.session]
  show (perform (call session) _).Ends _ _
  rw [hcall]
  exact perform_stub hrecorded result

theorem answersAs_of_completes {message : ChannelMessage}
    {call : HandlerCall StubCodecSession Unit}
    {result : Except Failure (StubCodecSession × List ChannelMessage)}
    (hcall : (call s).Ends (Completes rest sent reads result) (fun _ => False))
    (hmessage : handleMessage codecs session message = result)
    (htype : message.type ≠ .flush) :
    ((call >>= fun _ => pure none) s).Ends
      (AnswersAs rest sent reads ((stubService codecs).serve session message))
      (fun _ => False) := by
  unfold AnswersAs stubService
  dsimp only
  rw [hmessage]
  apply Call.ends_bind hcall
  · intro e s' h
    cases result with
    | ok answer => cases h.1
    | error e' =>
        refine ⟨fun he => ?_, ?_⟩
        · cases he
        · rw [List.append_nil]
          exact h.2
  · intro _ s' h
    cases result with
    | error e => cases h.1
    | ok answer =>
        dsimp only
        rw [if_pos htype]
        exact ⟨rfl, h.2⟩

theorem mainRound_stub {message : ChannelMessage}
    (hs : Serves session (message :: rest) sent reads s) :
    (mainRound (stubCodecSession codecs) s).Ends
      (AnswersAs rest sent (reads + 1) ((stubService codecs).serve session message))
      (fun _ => False) := by
  rcases hs with ⟨hincoming, hsession, hresults, htally⟩
  rcases s with ⟨incoming, sendResults, codec, configuration, codecSession, stats, events⟩
  cases hincoming
  cases hsession
  cases hresults
  let taken : VTRClientHandler StubCodecSession :=
    { incoming := rest.map ChannelMessage.incoming
      sendResults := []
      codec := codec
      configuration := configuration
      codecSession := some session
      stats := { stats with bytesIn := stats.bytesIn + messageSize message.body }
      events := events ++ [.read] }
  have htaken : Serves session rest sent (reads + 1) taken := ⟨rfl, rfl, rfl, htally.read⟩
  show (mainMessage (stubCodecSession codecs) message.incoming taken).Ends
    (AnswersAs rest sent (reads + 1) ((stubService codecs).serve session message)) _
  have htype : VTRemoteMsgType.ofCode message.incoming.type = some message.type :=
    VTRemoteMsgType.ofCode_code message.type
  unfold mainMessage
  rw [htype]
  rcases message with ⟨type, body⟩
  cases type with
  | frame =>
      exact answersAs_of_completes (callback_stub rfl (by simp) htaken rfl) rfl (by simp)
  | packet =>
      exact answersAs_of_completes (callback_stub rfl (by simp) htaken rfl) rfl (by simp)
  | flush =>
      refine ⟨fun h => ?_, ?_⟩
      · cases h
      · exact ((htally.read.record rfl (by simp)).record rfl (by simp)).send .done []
  | ping => exact ⟨rfl, rfl, rfl, rfl, htally.read.send .pong []⟩
  | _ =>
      refine ⟨rfl, rfl, rfl, rfl, ?_⟩
      show Tally _ (sent ++ []) _
      rw [List.append_nil]
      exact htally.read

/-- The handler has sent these messages.  It has come to wait for more than these
many, or it has ended. -/
structure Leaves (sent : List ChannelMessage) (limit : Nat) (waiting : Bool)
    (events : List HandlerEvent) : Prop where
  sent : sentMessages events = sent
  waits : waiting = true -> readCount events = limit + 1
  ends : waiting = false -> readCount events ≤ limit

theorem Leaves.of_tally {events : List HandlerEvent} (h : Tally events sent reads)
    {limit : Nat} (hlimit : reads ≤ limit) : Leaves sent limit false events where
  sent := h.sent
  waits := fun hfalse => by cases hfalse
  ends := fun _ => h.reads.trans_le hlimit

theorem Leaves.of_starved {events : List HandlerEvent} {limit : Nat}
    (h : Tally events sent (limit + 1)) : Leaves sent limit true events where
  sent := h.sent
  waits := fun _ => h.reads
  ends := fun hfalse => by cases hfalse

theorem Leaves.reads_iff {events : List HandlerEvent} {limit n : Nat} {waiting : Bool}
    (h : Leaves sent limit waiting events) (hlimit : limit ≤ n)
    (hwaiting : waiting = true -> limit = n) :
    readCount events = n + 1 <-> waiting = true := by
  cases hw : waiting with
  | true => exact iff_of_true ((h.waits hw).trans (by rw [hwaiting hw])) rfl
  | false =>
      have hle := h.ends hw
      exact iff_of_false (by omega) (by simp)

/-- The rounds do with the messages what the service does. -/
theorem rounds_stub (hs : Serves session messages sent reads s) {fuel : Nat}
    (hfuel : messages.length < fuel) :
    (Call.loop (mainRound (stubCodecSession codecs)) fuel s).Ends (fun _ s' =>
        Leaves (sent ++ ((stubService codecs).answers (some session) messages).1)
          (reads + messages.length)
          ((stubService codecs).answers (some session) messages).2.isSome s'.events)
      (fun _ => False) := by
  induction messages generalizing session sent reads s fuel with
  | nil =>
      cases fuel with
      | zero => cases hfuel
      | succ fuel =>
          rcases hs with ⟨hincoming, hsession, hresults, htally⟩
          rcases s with ⟨incoming, sendResults, codec, configuration, codecSession, stats,
            events⟩
          cases hincoming
          rw [Service.answers_nil, List.append_nil]
          exact Leaves.of_starved htally.read
  | cons message rest ih =>
      cases fuel with
      | zero => cases hfuel
      | succ fuel =>
          have hround : (mainRound (stubCodecSession codecs) s).Ends
              (AnswersAs rest sent (reads + 1)
                ((stubService codecs).serve session message)) (fun _ => False) :=
            mainRound_stub hs
          unfold Service.answers
          generalize (stubService codecs).serve session message = answer at hround ⊢
          rcases answer with ⟨replies, server⟩
          cases server with
          | none =>
              have hlimit : reads + 1 ≤ reads + (message :: rest).length := by
                rw [List.length_cons]
                omega
              dsimp only
              rw [Service.answers_none, List.append_nil]
              apply Call.ends_bind hround
              · intro e s' h
                exact Leaves.of_tally h.2 hlimit
              · intro result s' h
                cases result with
                | none => exact absurd rfl h.1
                | some _ => exact Leaves.of_tally h.2 hlimit
          | some session' =>
              apply Call.ends_bind hround
              · intro e s' h
                cases h.1
              · intro result s' h
                cases h.1
                have hrest := ih h.2 (Nat.lt_of_succ_lt_succ hfuel)
                rw [List.append_assoc, Nat.add_assoc, Nat.add_comm 1] at hrest
                exact hrest

theorem mainLoop_stub (hs : Serves session messages sent reads s)
    (hconfiguration : s.configuration.isSome = true) :
    (mainLoop (stubCodecSession codecs) s).Ends (fun _ s' =>
        Leaves (sent ++ ((stubService codecs).answers (some session) messages).1)
          (reads + messages.length)
          ((stubService codecs).answers (some session) messages).2.isSome s'.events)
      (fun _ => False) := by
  rcases Option.isSome_iff_exists.mp hconfiguration with ⟨configuration, hsome⟩
  unfold mainLoop
  rw [Call.get_bind, hsome, hs.session]
  apply rounds_stub hs
  rw [hs.incoming, List.length_map]
  exact Nat.lt_succ_self _

/-!
## HELLO and CONFIGURE
-/

section Opening

variable (canonical : String -> String) (expectedToken : String)

structure Greets (codec : VideoCodec) (messages sent : List ChannelMessage)
    (reads : Nat) (s : VTRClientHandler StubCodecSession) : Prop where
  incoming : s.incoming = messages.map ChannelMessage.incoming
  codec : s.codec = codec
  sendResults : s.sendResults = []
  tally : Tally s.events sent reads

theorem start_greets (messages : List ChannelMessage) :
    Greets .h264 messages [] 0 (start (messages.map ChannelMessage.incoming) []) :=
  ⟨rfl, rfl, rfl, rfl, rfl⟩

variable {codec : VideoCodec}

def GreetsWith {α : Type} (a : α) (codec : VideoCodec)
    (messages sent : List ChannelMessage) (reads : Nat) (r : Except Failure α)
    (s : VTRClientHandler StubCodecSession) : Prop :=
  r = .ok a ∧ Greets codec messages sent reads s

def Throws {α : Type} (sent : List ChannelMessage) (reads : Nat) (r : Except Failure α)
    (s : VTRClientHandler StubCodecSession) : Prop :=
  r.isOk = false ∧ Tally s.events sent reads

theorem readMessage_greets {message : ChannelMessage}
    (hs : Greets codec (message :: messages) sent reads s) :
    (readMessage s).Ends
      (GreetsWith message.incoming codec messages sent (reads + 1)) (fun _ => False) := by
  rcases hs with ⟨hincoming, hcodec, hresults, htally⟩
  rcases s with ⟨incoming, sendResults, codec, configuration, codecSession, stats, events⟩
  cases hincoming
  exact ⟨rfl, rfl, hcodec, hresults, htally.read⟩

theorem readMessage_starved (hs : Greets codec [] sent reads s) :
    (readMessage s).Ends (Throws sent (reads + 1)) (fun _ => False) := by
  rcases hs with ⟨hincoming, hcodec, hresults, htally⟩
  rcases s with ⟨incoming, sendResults, codec, configuration, codecSession, stats, events⟩
  cases hincoming
  exact ⟨rfl, htally.read⟩

theorem countIn_greets (body : List UInt8) (hs : Greets codec messages sent reads s) :
    (countIn body s).Ends (GreetsWith () codec messages sent reads) (fun _ => False) :=
  ⟨rfl, hs.incoming, hs.codec, hs.sendResults, hs.tally⟩

theorem countOut_greets (body : List UInt8) (hs : Greets codec messages sent reads s) :
    (countOut body s).Ends (GreetsWith () codec messages sent reads) (fun _ => False) :=
  ⟨rfl, hs.incoming, hs.codec, hs.sendResults, hs.tally⟩

theorem send_greets (type : VTRemoteMsgType) (body : List UInt8)
    (hs : Greets codec messages sent reads s) :
    (send type body s).Ends
      (GreetsWith () codec messages (sent ++ [⟨type, body⟩]) reads) (fun _ => False) := by
  rcases hs with ⟨hincoming, hcodec, hresults, htally⟩
  rcases s with ⟨incoming, sendResults, codec, configuration, codecSession, stats, events⟩
  cases hresults
  exact ⟨rfl, hincoming, hcodec, rfl, htally.send type body⟩

theorem orThrow_greets {α : Type} {result : Except Failure α} {a : α}
    (hresult : result = .ok a) (hs : Greets codec messages sent reads s) :
    (orThrow result s).Ends (GreetsWith a codec messages sent reads)
      (fun _ => False) := by
  rw [hresult]
  exact ⟨rfl, hs⟩

theorem setCodec_greets (name : VideoCodec) (hs : Greets codec messages sent reads s) :
    (Call.modify (fun s => { s with codec := name }) s).Ends
      (GreetsWith () name messages sent reads) (fun _ : VTRClientHandler _ => False) :=
  ⟨rfl, hs.incoming, rfl, hs.sendResults, hs.tally⟩

theorem handshake_of_decode {body : List UInt8} {hello : HelloRequest}
    (hs : Greets codec (⟨.hello, body⟩ :: messages) sent reads s)
    (hdecode : HelloRequest.decode body = .ok hello) :
    (handshake canonical expectedToken s).Ends (fun r s' =>
        (r = .ok () <-> authed canonical expectedToken hello = true) ∧
          Greets (VideoCodec.ofName canonical hello.codec) messages
            (sent ++ [⟨.helloAck,
              (helloAck (authed canonical expectedToken hello)).encode⟩]) (reads + 1) s')
      (fun _ => False) := by
  apply Call.ends_bind_value (readMessage_greets hs)
  intro s hs
  apply Call.ends_bind_value (countIn_greets body hs)
  intro s hs
  rw [if_neg (fun h => h rfl)]
  apply Call.ends_bind_value (orThrow_greets hdecode hs)
  intro s hs
  apply Call.ends_bind_value (setCodec_greets _ hs)
  intro s hs
  apply Call.ends_bind_value (countOut_greets _ hs)
  intro s hs
  apply Call.ends_bind_value (send_greets _ _ hs)
  intro s hs
  cases hauthed : authed canonical expectedToken hello with
  | true =>
      rw [hauthed] at hs
      exact ⟨iff_of_true rfl rfl, hs⟩
  | false =>
      rw [hauthed] at hs
      exact ⟨iff_of_false (by simp) (by simp), hs⟩

theorem handshake_of_malformed {body : List UInt8} {e : Failure}
    (hs : Greets codec (⟨.hello, body⟩ :: messages) sent reads s)
    (hdecode : HelloRequest.decode body = .error e) :
    (handshake canonical expectedToken s).Ends (Throws sent (reads + 1))
      (fun _ => False) := by
  apply Call.ends_bind_value (readMessage_greets hs)
  intro s hs
  apply Call.ends_bind_value (countIn_greets body hs)
  intro s hs
  rw [if_neg (fun h => h rfl)]
  show ((orThrow (HelloRequest.decode body) >>= _) s).Ends _ _
  rw [hdecode]
  exact ⟨rfl, hs.tally⟩

/-- The server works without compression, with LZ4 and with Zstd. -/
def SupportedWire (wireCompression : Int) : Prop :=
  wireCompression = 0 ∨ wireCompression = 1 ∨ wireCompression = 2

instance (wireCompression : Int) : Decidable (SupportedWire wireCompression) :=
  inferInstanceAs (Decidable (_ ∨ _))

def stubConfigureAck (pixelFormat : UInt8) : ConfigureAckResponse where
  status := 0
  extradata := []
  pixelFormat := pixelFormat
  warnings := 0

def stubSession (hello : HelloRequest) (request : ConfigureRequest canonical) :
    StubCodecSession :=
  (StubCodecSession.configure (ClientConfiguration.init canonical
    (VideoCodec.ofName canonical hello.codec) request).toSessionConfiguration).2

theorem configure_of_supported {hello : HelloRequest} {body : List UInt8}
    {request : ConfigureRequest canonical}
    (hs : Greets (VideoCodec.ofName canonical hello.codec)
      (⟨.configure, body⟩ :: messages) sent reads s)
    (hdecode : ConfigureRequest.decode canonical body = .ok request)
    (hwire : SupportedWire (wireCompressionOption canonical request.options)) :
    (configure canonical (stubCodecSession codecs) s).Ends (fun r s' => r = .ok () ∧
        Serves (stubSession canonical hello request) messages (sent ++
          [⟨.configureAck, (stubConfigureAck request.pixelFormat).encode⟩])
          (reads + 1) s' ∧
        s'.configuration.isSome = true)
      (fun _ => False) := by
  apply Call.ends_bind_value (readMessage_greets hs)
  intro s hs
  apply Call.ends_bind_value (countIn_greets body hs)
  intro s hs
  rw [if_neg (fun h => h rfl)]
  apply Call.ends_bind_value (orThrow_greets hdecode hs)
  intro s hs
  rw [Call.get_bind]
  have hsupported : ¬ ((ClientConfiguration.init canonical s.codec request).wireCompression
      ≠ 0 ∧ (ClientConfiguration.init canonical s.codec request).wireCompression ≠ 1 ∧
      (ClientConfiguration.init canonical s.codec request).wireCompression ≠ 2) := by
    intro h
    rcases h with ⟨h0, h1, h2⟩
    exact hwire.elim h0 (Or.elim · h1 h2)
  dsimp only
  rw [if_neg hsupported]
  rcases hs with ⟨hincoming, hcodec, hresults, htally⟩
  rcases s with ⟨incoming, sendResults, codec', configuration, codecSession, stats, events⟩
  cases hincoming
  cases hcodec
  cases hresults
  have hcreated : Tally (events ++ [.created]) sent (reads + 1) :=
    htally.record rfl (by simp)
  have hconfigured : Tally (events ++ [.created] ++ [.configure]) sent (reads + 1) :=
    hcreated.record rfl (by simp)
  exact ⟨rfl, ⟨rfl, rfl, rfl, hconfigured.send .configureAck _⟩, rfl⟩

theorem configure_of_unsupported {body : List UInt8}
    {request : ConfigureRequest canonical}
    (hs : Greets codec (⟨.configure, body⟩ :: messages) sent reads s)
    (hdecode : ConfigureRequest.decode canonical body = .ok request)
    (hwire : ¬ SupportedWire (wireCompressionOption canonical request.options)) :
    (configure canonical (stubCodecSession codecs) s).Ends
      (Throws (sent ++ [⟨.error, (unsupportedWireCompression
        (wireCompressionOption canonical request.options)).encode⟩]) (reads + 1))
      (fun _ => False) := by
  apply Call.ends_bind_value (readMessage_greets hs)
  intro s hs
  apply Call.ends_bind_value (countIn_greets body hs)
  intro s hs
  rw [if_neg (fun h => h rfl)]
  apply Call.ends_bind_value (orThrow_greets hdecode hs)
  intro s hs
  rw [Call.get_bind]
  dsimp only
  rw [if_pos ⟨fun h => hwire (Or.inl h), fun h => hwire (Or.inr (Or.inl h)),
    fun h => hwire (Or.inr (Or.inr h))⟩]
  apply Call.ends_bind_value (countOut_greets _ hs)
  intro s hs
  apply Call.ends_bind_value (send_greets _ _ hs)
  intro s hs
  exact ⟨rfl, hs.tally⟩

theorem configure_of_malformed {body : List UInt8} {e : Failure}
    (hs : Greets codec (⟨.configure, body⟩ :: messages) sent reads s)
    (hdecode : ConfigureRequest.decode canonical body = .error e) :
    (configure canonical (stubCodecSession codecs) s).Ends (Throws sent (reads + 1))
      (fun _ => False) := by
  apply Call.ends_bind_value (readMessage_greets hs)
  intro s hs
  apply Call.ends_bind_value (countIn_greets body hs)
  intro s hs
  rw [if_neg (fun h => h rfl)]
  show ((orThrow (ConfigureRequest.decode canonical body) >>= _) s).Ends _ _
  rw [hdecode]
  exact ⟨rfl, hs.tally⟩

theorem configure_starved (hs : Greets codec [] sent reads s) :
    (configure canonical (stubCodecSession codecs) s).Ends (Throws sent (reads + 1))
      (fun _ => False) := by
  apply Call.ends_bind (readMessage_starved hs)
  · intro e s' h
    exact h
  · intro message s' h
    cases h.1

end Opening

/-!
## Runs
-/

section Runs

variable (canonical : String -> String) (expectedToken : String) (codecs : PlaneCodecs)

def runEvents (messages : List ChannelMessage) : List HandlerEvent :=
  (run canonical expectedToken (stubCodecSession codecs)
    (start (messages.map ChannelMessage.incoming) [])).state.events

variable {canonical} {expectedToken} {codecs}

theorem runEvents_leaves {limit : Nat} {waiting : Bool}
    (h : (conversation canonical expectedToken (stubCodecSession codecs)
      (start (messages.map ChannelMessage.incoming) [])).Ends
        (fun _ s' => Leaves sent limit waiting s'.events) (fun _ => False)) :
    Leaves sent limit waiting (runEvents canonical expectedToken codecs messages) := by
  have hsame : forall {β : Type} {g : List HandlerEvent -> β},
      (forall events, g (events ++ [.shutdown]) = g events) ->
      g (runEvents canonical expectedToken codecs messages) =
        g (conversation canonical expectedToken (stubCodecSession codecs)
          (start (messages.map ChannelMessage.incoming) [])).state.events :=
    fun hg => run_events canonical expectedToken (stubCodecSession codecs) hg _
  have hreads := hsame (g := readCount) fun events => by
    unfold readCount
    rw [List.countP_append]
    rfl
  rcases h.returned with ⟨r, s', hreturned, hleaves⟩
  rw [hreturned] at hsame hreads
  refine ⟨(hsame (sentMessages_record rfl)).trans hleaves.sent, ?_, ?_⟩
  · intro hwaiting
    exact hreads.trans (hleaves.waits hwaiting)
  · intro hended
    exact hreads.trans_le (hleaves.ends hended)

section Hello

variable {hello : List UInt8}

theorem runEvents_malformed {e : Failure} (hdecode : HelloRequest.decode hello = .error e)
    (messages : List ChannelMessage) :
    Leaves [] 1 false
      (runEvents canonical expectedToken codecs (⟨.hello, hello⟩ :: messages)) := by
  apply runEvents_leaves
  apply Call.ends_bind (handshake_of_malformed canonical expectedToken
    (start_greets _) hdecode)
  · intro e s' h
    exact Leaves.of_tally h.2 (Nat.le_refl 1)
  · intro _ s' h
    cases h.1

variable {helloRequest : HelloRequest}
  (hdecode : HelloRequest.decode hello = .ok helloRequest)
include hdecode

theorem runEvents_unauthorized
    (hauthed : authed canonical expectedToken helloRequest = false)
    (messages : List ChannelMessage) :
    Leaves [⟨.helloAck, (helloAck false).encode⟩] 1 false
      (runEvents canonical expectedToken codecs (⟨.hello, hello⟩ :: messages)) := by
  apply runEvents_leaves
  apply Call.ends_bind
    (handshake_of_decode canonical expectedToken (start_greets _) hdecode)
  · intro e s' h
    have htally := h.2.tally
    rw [hauthed] at htally
    exact Leaves.of_tally htally (Nat.le_refl 1)
  · intro _ s' h
    have hyes := h.1.mp rfl
    rw [hauthed] at hyes
    cases hyes

variable (hauthed : authed canonical expectedToken helloRequest = true)
include hauthed

theorem runEvents_authorized {limit : Nat} {waiting : Bool}
    (h : forall s : VTRClientHandler StubCodecSession,
      Greets (VideoCodec.ofName canonical helloRequest.codec) messages
        [⟨.helloAck, (helloAck true).encode⟩] 1 s ->
      ((do
          configure canonical (stubCodecSession codecs)
          mainLoop (stubCodecSession codecs)) s).Ends
        (fun _ (s' : VTRClientHandler StubCodecSession) =>
          Leaves sent limit waiting s'.events)
        (fun _ => False)) :
    Leaves sent limit waiting
      (runEvents canonical expectedToken codecs (⟨.hello, hello⟩ :: messages)) := by
  apply runEvents_leaves
  apply Call.ends_bind
    (handshake_of_decode canonical expectedToken (start_greets _) hdecode)
  · intro e s' h
    cases h.1.mpr hauthed
  · intro _ s' hgreeted
    rcases hgreeted with ⟨_, hgreets⟩
    rw [hauthed] at hgreets
    exact h s' hgreets

theorem runEvents_hello :
    Leaves [⟨.helloAck, (helloAck true).encode⟩] 1 true
      (runEvents canonical expectedToken codecs [⟨.hello, hello⟩]) := by
  apply runEvents_authorized hdecode hauthed
  intro s hs
  apply Call.ends_bind (configure_starved canonical hs)
  · intro e s' h
    exact Leaves.of_starved h.2
  · intro _ s' h
    cases h.1

variable {body : List UInt8}

theorem runEvents_unreadable {e : Failure}
    (hrequest : ConfigureRequest.decode canonical body = .error e)
    (messages : List ChannelMessage) :
    Leaves [⟨.helloAck, (helloAck true).encode⟩] 2 false
      (runEvents canonical expectedToken codecs
        (⟨.hello, hello⟩ :: ⟨.configure, body⟩ :: messages)) := by
  apply runEvents_authorized hdecode hauthed
  intro s hs
  apply Call.ends_bind (configure_of_malformed canonical hs hrequest)
  · intro e s' h
    exact Leaves.of_tally h.2 (Nat.le_refl 2)
  · intro _ s' h
    cases h.1

variable {request : ConfigureRequest canonical}
  (hrequest : ConfigureRequest.decode canonical body = .ok request)
include hrequest

theorem runEvents_unsupported
    (hwire : ¬ SupportedWire (wireCompressionOption canonical request.options))
    (messages : List ChannelMessage) :
    Leaves [⟨.helloAck, (helloAck true).encode⟩, ⟨.error, (unsupportedWireCompression
        (wireCompressionOption canonical request.options)).encode⟩] 2 false
      (runEvents canonical expectedToken codecs
        (⟨.hello, hello⟩ :: ⟨.configure, body⟩ :: messages)) := by
  apply runEvents_authorized hdecode hauthed
  intro s hs
  apply Call.ends_bind (configure_of_unsupported canonical hs hrequest hwire)
  · intro e s' h
    exact Leaves.of_tally h.2 (Nat.le_refl 2)
  · intro _ s' h
    cases h.1

theorem runEvents_supported
    (hwire : SupportedWire (wireCompressionOption canonical request.options))
    (messages : List ChannelMessage) :
    let answers := (stubService codecs).answers
      (some (stubSession canonical helloRequest request)) messages
    Leaves (⟨.helloAck, (helloAck true).encode⟩ ::
        ⟨.configureAck, (stubConfigureAck request.pixelFormat).encode⟩ :: answers.1)
      (messages.length + 2) answers.2.isSome
      (runEvents canonical expectedToken codecs
        (⟨.hello, hello⟩ :: ⟨.configure, body⟩ :: messages)) := by
  intro answers
  apply runEvents_authorized hdecode hauthed
  intro s hs
  apply Call.ends_bind_value (configure_of_supported canonical hs hrequest hwire)
  intro s' h
  apply (mainLoop_stub h.1 h.2).mono
  · intro r s2 hrest
    rw [Nat.add_comm] at hrest
    exact hrest
  · exact fun _ h => h

end Hello

/-- What a client gets of a stub session, and whether the handler then waits for
more messages. -/
def conversationReplies (canonical : String -> String) (expectedToken : String)
    (codecs : PlaneCodecs) (hello configure : List UInt8)
    (messages : List ChannelMessage) : List ChannelMessage × Bool :=
  match HelloRequest.decode hello with
  | .error _ => ([], false)
  | .ok helloRequest =>
      if authed canonical expectedToken helloRequest then
        let acknowledged := ⟨.helloAck, (helloAck true).encode⟩
        match ConfigureRequest.decode canonical configure with
        | .error _ => ([acknowledged], false)
        | .ok request =>
            let wireCompression := wireCompressionOption canonical request.options
            if SupportedWire wireCompression then
              let (replies, server) := (stubService codecs).answers
                (some (stubSession canonical helloRequest request)) messages
              (acknowledged ::
                ⟨.configureAck, (stubConfigureAck request.pixelFormat).encode⟩ ::
                replies, server.isSome)
            else
              ([acknowledged,
                ⟨.error, (unsupportedWireCompression wireCompression).encode⟩], false)
      else ([⟨.helloAck, (helloAck false).encode⟩], false)

/-- With messages of known types and sends that succeed, the handler acknowledges,
refuses or turns away, and behind the acknowledgements it sends what the session
answers as a service.  It waits for one message more than it was sent, unless the
conversation has ended. -/
theorem run_stub_replies (canonical : String -> String) (expectedToken : String)
    (codecs : PlaneCodecs) (hello configure : List UInt8)
    (messages : List ChannelMessage) :
    let events := (run canonical expectedToken (stubCodecSession codecs)
      (start (ChannelMessage.incoming ⟨.hello, hello⟩ ::
        ChannelMessage.incoming ⟨.configure, configure⟩ ::
        messages.map ChannelMessage.incoming) [])).state.events
    let replies :=
      conversationReplies canonical expectedToken codecs hello configure messages
    sentMessages events = replies.1 ∧
      (readCount events = messages.length + 3 <-> replies.2 = true) := by
  intro events replies
  have hleaves : exists limit, limit ≤ messages.length + 2 ∧
      (replies.2 = true -> limit = messages.length + 2) ∧
      Leaves replies.1 limit replies.2 (runEvents canonical expectedToken codecs
        (⟨.hello, hello⟩ :: ⟨.configure, configure⟩ :: messages)) := by
    unfold replies conversationReplies
    cases hdecode : HelloRequest.decode hello with
    | error e =>
        exact ⟨1, by omega, by simp, runEvents_malformed hdecode _⟩
    | ok helloRequest =>
        cases hauthed : authed canonical expectedToken helloRequest with
        | false =>
            dsimp only
            rw [hauthed]
            exact ⟨1, by omega, by simp, runEvents_unauthorized hdecode hauthed _⟩
        | true =>
            dsimp only
            rw [hauthed, if_pos rfl]
            cases hrequest : ConfigureRequest.decode canonical configure with
            | error e =>
                exact ⟨2, by omega, by simp,
                  runEvents_unreadable hdecode hauthed hrequest messages⟩
            | ok request =>
                dsimp only
                split
                · rename_i hwire
                  exact ⟨_, Nat.le_refl _, fun _ => rfl,
                    runEvents_supported hdecode hauthed hrequest hwire messages⟩
                · rename_i hwire
                  exact ⟨2, by omega, by simp,
                    runEvents_unsupported hdecode hauthed hrequest hwire messages⟩
  rcases hleaves with ⟨limit, hlimit, hwaiting, hleaves⟩
  exact ⟨hleaves.sent, hleaves.reads_iff hlimit hwaiting⟩

end Runs

end VTRClientHandler
end VTRemote
