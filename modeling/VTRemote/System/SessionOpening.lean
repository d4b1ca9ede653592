import VTRemote.Client.ConfigureFits
import VTRemote.Formats.Hello
import VTRemote.System.DecoderLockstep
import VTRemote.System.EncoderOptions
import VTRemote.System.HandlerLink

/-!
# Opening a session

The handshake of a client meets the handler.  The first of the two that does not agree
ends it; where they agree the session has what the client asked for.
-/

namespace VTRemote

open Call VTRClientHandler

/-- What a client makes of the message in place of its acknowledgement. -/
def acknowledged {γ : Type} (type : VTRemoteMsgType)
    (handle : Bytes -> Int -> Except AvError γ) (message : ChannelMessage) :
    Except AvError γ :=
  if message.type.code ≠ type.code then .error averrorInvaliddata
  else handle message.body (cInt (UInt32.ofNat message.body.length).toNat)

theorem acknowledged_hello (authed : Bool) :
    acknowledged .helloAck vtremoteHandleHelloAck ⟨.helloAck, (helloAck authed).encode⟩ =
      if authed then .ok () else .error (averror eacces) := by
  cases authed with
  | true => rfl
  | false => rfl

attribute [local irreducible] cInt

/-!
## The connection
-/

def connecting (getaddrinfo : Resolver) (t : SocketTable) (hostport : Bytes) :
    Except AvError Nat :=
  match connectHostport getaddrinfo hostport t with
  | .returned r _ => r
  | .blocked _ => .error (averror eagain)

theorem connecting_returned (getaddrinfo : Resolver) (t : SocketTable) (hostport : Bytes) :
    exists t', connectHostport getaddrinfo hostport t =
      .returned (connecting getaddrinfo t hostport) t' := by
  unfold connecting
  rcases (connectHostport_opens getaddrinfo hostport t).returned with ⟨r, t', h, _⟩
  rw [h]
  exact ⟨t', rfl⟩

theorem orClose_returned {β : Type} {fd : Nat} {m : InitCall HandlerSide β}
    {s s1 : InitContext HandlerSide} {r : Except AvError β} (h : m s = .returned r s1) :
    exists s', orClose fd m s = .returned r s' ∧ s'.socket = s1.socket := by
  unfold orClose
  rw [Call.bind_of_ok _ (Call.attempt_of_returned h)]
  cases r with
  | ok result => exact ⟨s1, rfl, rfl⟩
  | error e => exact ⟨_, rfl, rfl⟩

section Opening

variable (canonical : String -> String) (expectedToken : String) (codecs : PlaneCodecs)

theorem handlerHandshakeLink_allocates :
    (handlerHandshakeLink canonical expectedToken codecs).Allocates :=
  fun _ => rfl

variable {β : Type} (ffmpegVersion : CString) (token : Option CString)
  (codecId : AVCodecID)

def helloBytes : Bytes :=
  (helloPut ffmpegVersion token codecId (vtremoteWbufInit [])).2.contents

variable {canonical} {expectedToken} {codecs} {ffmpegVersion} {token} {codecId}

/-!
## HELLO
-/

theorem helloBytes_decode (h : HelloFits ffmpegVersion token) :
    HelloRequest.decode (helloBytes ffmpegVersion token codecId) =
      .ok (helloRequest ffmpegVersion token codecId) := by
  have hput : (helloPut ffmpegVersion token codecId (vtremoteWbufInit [])).1 = 0 := by
    rw [helloPut_zero_iff, List.take_nil]
    exact ⟨h, List.not_mem_nil⟩
  have hdecode := (helloPayload_decode_iff []).mpr hput
  rw [helloPayload_eq] at hdecode
  exact hdecode

def HandlerSide.sent (l : HandlerSide) (type : VTRemoteMsgType) (put : WbufPut) :
    HandlerSide :=
  { l with asked := l.asked ++ [⟨type, (put (vtremoteWbufInit [])).2.contents⟩] }

theorem sendPut_handler (type : VTRemoteMsgType) (put : WbufPut) (l : HandlerSide) :
    sendPut (handlerHandshakeLink canonical expectedToken codecs) type put l =
      .returned (.ok ()) (l.sent type put) :=
  rfl

theorem awaitAck_handler {γ : Type} {type : VTRemoteMsgType}
    {handle : Bytes -> Int -> Except AvError γ} {l : HandlerSide} {message : ChannelMessage}
    (h : (l.replies canonical expectedToken codecs)[l.taken]? = some message) :
    awaitAck (handlerHandshakeLink canonical expectedToken codecs) type handle l =
      .returned (acknowledged type handle message) { l with taken := l.taken + 1 } := by
  have hread : (handlerHandshakeLink canonical expectedToken codecs).readMsg l =
      .returned (.ok (message.header, message.body)) { l with taken := l.taken + 1 } := by
    show HandlerSide.takeReply canonical expectedToken codecs (.blocked l) l = _
    unfold HandlerSide.takeReply
    rw [h]
  unfold awaitAck acknowledged
  rw [Call.bind_of_ok _ hread]
  dsimp only
  have hheader : message.header.type = message.type.code := rfl
  rw [hheader]
  by_cases htype : message.type.code ≠ type.code
  · rw [if_pos htype, if_pos htype]
    rfl
  · rw [if_neg htype, if_neg htype]
    show _ = Outcome.returned (handle message.body (cInt message.header.length.toNat)) _
    cases handle message.body (cInt message.header.length.toNat) with
    | error e => rfl
    | ok result => rfl

theorem sayHello_handler (h : HelloFits ffmpegVersion token) :
    sayHello (handlerHandshakeLink canonical expectedToken codecs) ffmpegVersion token
        codecId HandlerSide.start =
      .returned (if authed canonical expectedToken (helloRequest ffmpegVersion token codecId)
        then .ok () else .error (averror eacces))
        ⟨[⟨.hello, helloBytes ffmpegVersion token codecId⟩], 1⟩ := by
  have hdecode := @helloBytes_decode _ _ codecId h
  let side : HandlerSide := ⟨[⟨.hello, helloBytes ffmpegVersion token codecId⟩], 0⟩
  have hsend : sendPut (handlerHandshakeLink canonical expectedToken codecs) .hello
      (vtremotePayloadHello (token.map CString.bytes)
        (some (utf8Data (codecNameForId codecId))) (some (utf8Data clientName))
        (some ffmpegVersion.bytes)) HandlerSide.start = .returned (.ok ()) side := rfl
  unfold sayHello
  rw [Call.bind_of_ok _ hsend]
  cases hauthed : authed canonical expectedToken
      (helloRequest ffmpegVersion token codecId) with
  | true =>
      have hreplies : side.replies canonical expectedToken codecs =
          [⟨.helloAck, (helloAck true).encode⟩] :=
        (runEvents_hello hdecode hauthed).sent
      rw [awaitAck_handler (l := side) (by rw [hreplies]; rfl), acknowledged_hello]
  | false =>
      have hreplies : side.replies canonical expectedToken codecs =
          [⟨.helloAck, (helloAck false).encode⟩] :=
        (runEvents_unauthorized hdecode hauthed []).sent
      rw [awaitAck_handler (l := side) (by rw [hreplies]; rfl), acknowledged_hello]

/-!
## CONFIGURE
-/

variable {β : Type} {side : HandshakeSide β}

theorem buildOptions_granted {s : InitContext HandlerSide}
    (hopts : s.opts = OptionArray.empty) :
    exists s', buildOptions (handlerHandshakeLink canonical expectedToken codecs) side s =
        .returned (wirePixFmt side.pixFmt) s' ∧
      s'.socket = s.socket ∧ s'.opts.options = side.sent := by
  have hlink := handlerHandshakeLink_allocates canonical expectedToken codecs
  rcases addMode_granted hlink s side.mode with ⟨s1, hmode, hadded⟩
  rcases addOptions_granted hlink s1 side.options with ⟨s', hadd, hadded'⟩
  have hall := hadded.trans hadded'
  refine ⟨s', ?_, hall.socket, ?_⟩
  · unfold buildOptions
    rw [Call.bind_of_ok _ hmode, Call.bind_of_ok _ hadd]
    cases wirePixFmt side.pixFmt with
    | error e => rfl
    | ok pixFmt => rfl
  · rw [hall.options, hopts]
    rfl

theorem sendConfigure_handler {s : InitContext HandlerSide}
    (hopts : s.opts = OptionArray.empty) :
    exists s', sendConfigure (handlerHandshakeLink canonical expectedToken codecs) side s =
        .returned (discard (wirePixFmt side.pixFmt)) s' ∧
      forall pixFmt, wirePixFmt side.pixFmt = .ok pixFmt -> s'.socket =
        ⟨s.socket.asked ++ [⟨.configure, side.configureBytes pixFmt⟩], s.socket.taken⟩ := by
  rcases @buildOptions_granted canonical expectedToken codecs _ side _ hopts with
    ⟨s1, hbuild, hsocket, hoptions⟩
  unfold sendConfigure
  rw [Call.bind_of_ok _ (Call.attempt_of_returned hbuild)]
  cases hpix : wirePixFmt side.pixFmt with
  | error e =>
      refine ⟨_, rfl, ?_⟩
      intro pixFmt hok
      cases hok
  | ok pixFmt =>
      have hsend : onSocket (sendPut (handlerHandshakeLink canonical expectedToken codecs)
          .configure (configurePut side pixFmt s1.opts.options)) s1 = .returned (.ok ())
          { s1 with socket :=
              s1.socket.sent .configure (configurePut side pixFmt s1.opts.options) } :=
        Call.zoom_of_returned (sendPut_handler _ _ _)
      dsimp only
      rw [Call.get_bind, Call.bind_of_ok _ (Call.attempt_of_returned hsend),
        Call.modify_bind]
      refine ⟨_, rfl, ?_⟩
      intro pixFmt' hok
      cases hok
      rw [hoptions, <- hsocket]
      rfl

def configureAnswer (canonical : String -> String) (side : HandshakeSide β)
    (pixFmt : UInt8) : ChannelMessage :=
  let wire := wireCompressionOption canonical (side.request canonical pixFmt).options
  if SupportedWire wire then ⟨.configureAck, (stubConfigureAck pixFmt).encode⟩
  else ⟨.error, (unsupportedWireCompression wire).encode⟩

variable (hhello : HelloFits ffmpegVersion token) (hside : side.Fits)
include hhello hside

theorem replies_configure
    (hauthed : authed canonical expectedToken (helloRequest ffmpegVersion token codecId))
    (pixFmt : UInt8) :
    (HandlerSide.mk [⟨.hello, helloBytes ffmpegVersion token codecId⟩,
        ⟨.configure, side.configureBytes pixFmt⟩] 1).replies canonical expectedToken codecs =
      [⟨.helloAck, (helloAck true).encode⟩, configureAnswer canonical side pixFmt] := by
  have hdecode := @helloBytes_decode _ _ codecId hhello
  have hrequest := hside.decode canonical pixFmt
  unfold configureAnswer HandlerSide.replies
  dsimp only
  split
  · rename_i hwire
    exact (runEvents_supported hdecode hauthed hrequest hwire []).sent
  · rename_i hwire
    exact (runEvents_unsupported hdecode hauthed hrequest hwire []).sent

/-- What the handshake comes to: the server has to know the token, the wire the pixel
format, and the client the answer to its CONFIGURE. -/
def meeting (canonical : String -> String) (expectedToken : String)
    (side : HandshakeSide β) (ffmpegVersion : CString) (token : Option CString)
    (codecId : AVCodecID) : Except AvError β :=
  if authed canonical expectedToken (helloRequest ffmpegVersion token codecId) then
    (wirePixFmt side.pixFmt).bind fun pixFmt =>
      acknowledged .configureAck side.handleAck (configureAnswer canonical side pixFmt)
  else .error (averror eacces)

def metSide (side : HandshakeSide β) (ffmpegVersion : CString) (token : Option CString)
    (codecId : AVCodecID) (pixFmt : UInt8) : HandlerSide where
  asked := [⟨.hello, helloBytes ffmpegVersion token codecId⟩,
    ⟨.configure, side.configureBytes pixFmt⟩]
  taken := 2

theorem exchange_handler {s : InitContext HandlerSide} (hsocket : s.socket = .start)
    (hopts : s.opts = OptionArray.empty) :
    exists s', exchange (handlerHandshakeLink canonical expectedToken codecs) side
        ffmpegVersion token codecId s =
        .returned (meeting canonical expectedToken side ffmpegVersion token codecId) s' ∧
      forall result pixFmt,
        meeting canonical expectedToken side ffmpegVersion token codecId = .ok result ->
        wirePixFmt side.pixFmt = .ok pixFmt ->
        s'.socket = metSide side ffmpegVersion token codecId pixFmt := by
  let greeted : HandlerSide := ⟨[⟨.hello, helloBytes ffmpegVersion token codecId⟩], 1⟩
  have hhello' : onSocket (sayHello (handlerHandshakeLink canonical expectedToken codecs)
      ffmpegVersion token codecId) s = .returned
        (if authed canonical expectedToken (helloRequest ffmpegVersion token codecId)
          then .ok () else .error (averror eacces)) { s with socket := greeted } := by
    apply Call.zoom_of_returned
    rw [hsocket]
    exact sayHello_handler hhello
  unfold exchange meeting
  cases hauthed : authed canonical expectedToken
      (helloRequest ffmpegVersion token codecId) with
  | false =>
      rw [hauthed] at hhello'
      refine ⟨_, Call.bind_of_error _ hhello', ?_⟩
      intro result pixFmt hok
      cases hok
  | true =>
      rw [hauthed] at hhello'
      rcases @sendConfigure_handler canonical expectedToken codecs _ side
        { s with socket := greeted } hopts with ⟨s2, hconfigure, hsocket2⟩
      rw [Call.bind_of_ok _ hhello']
      cases hpix : wirePixFmt side.pixFmt with
      | error e =>
          rw [hpix] at hconfigure
          refine ⟨_, Call.bind_of_error _ hconfigure, ?_⟩
          intro result pixFmt hok
          cases hok
      | ok pixFmt =>
          rw [hpix] at hconfigure
          have hasked : s2.socket =
              ⟨[⟨.hello, helloBytes ffmpegVersion token codecId⟩,
                ⟨.configure, side.configureBytes pixFmt⟩], 1⟩ := hsocket2 pixFmt hpix
          have hreplies := @replies_configure canonical expectedToken codecs _ _ codecId _ _
            hhello hside hauthed pixFmt
          have hack : onSocket (awaitAck
              (handlerHandshakeLink canonical expectedToken codecs) .configureAck
              side.handleAck) s2 = .returned
                (acknowledged .configureAck side.handleAck
                  (configureAnswer canonical side pixFmt))
                { s2 with socket := metSide side ffmpegVersion token codecId pixFmt } := by
            apply Call.zoom_of_returned
            rw [hasked]
            exact awaitAck_handler (by rw [hreplies]; rfl)
          refine ⟨_, (Call.bind_of_ok _ hconfigure).trans hack, ?_⟩
          intro result pixFmt' _ hok
          cases hok
          rfl

/-!
## The whole of `init`
-/

def opening (canonical : String -> String) (expectedToken : String)
    (side : HandshakeSide β) (ffmpegVersion : CString) (token : Option CString)
    (codecId : AVCodecID) (netInit : Except AvError Unit) (host : Option Bytes)
    (connect : Bytes -> Except AvError Nat) : Except AvError β :=
  match host with
  | none => .error (averror einval)
  | some hostport =>
      netInit.bind fun _ => (connect hostport).bind fun _ =>
        meeting canonical expectedToken side ffmpegVersion token codecId

theorem vtremoteHandshake_handler (getaddrinfo : Resolver) (hostport : Bytes)
    {s : InitContext HandlerSide} (hsocket : s.socket = .start)
    (hopts : s.opts = OptionArray.empty) :
    exists s', vtremoteHandshake (handlerHandshakeLink canonical expectedToken codecs) side
        ffmpegVersion token codecId getaddrinfo hostport s =
        .returned ((connecting getaddrinfo s.sockets hostport).bind fun _ =>
          meeting canonical expectedToken side ffmpegVersion token codecId) s' ∧
      forall result pixFmt,
        meeting canonical expectedToken side ffmpegVersion token codecId = .ok result ->
        (connecting getaddrinfo s.sockets hostport).isOk = true ->
        wirePixFmt side.pixFmt = .ok pixFmt ->
        s'.socket = metSide side ffmpegVersion token codecId pixFmt := by
  rcases connecting_returned getaddrinfo s.sockets hostport with ⟨t', hconnect⟩
  have htable : onTable (connectHostport getaddrinfo hostport) s =
      .returned (connecting getaddrinfo s.sockets hostport) { s with sockets := t' } :=
    Call.zoom_of_returned hconnect
  unfold vtremoteHandshake
  cases hresult : connecting getaddrinfo s.sockets hostport with
  | error e =>
      rw [hresult] at htable
      refine ⟨_, Call.bind_of_error _ htable, ?_⟩
      intro result pixFmt _ hok
      cases hok
  | ok fd =>
      rw [hresult] at htable
      rcases @exchange_handler canonical expectedToken codecs _ _ codecId _ _ hhello hside
        { s with sockets := t', fd := (fd : Int) } hsocket hopts with
        ⟨s1, hexchange, hmet⟩
      rcases @orClose_returned _ fd _ _ _ _ hexchange with ⟨s2, hclose, hsocket2⟩
      rw [Call.bind_of_ok _ htable, Call.modify_bind]
      cases hmeet : meeting canonical expectedToken side ffmpegVersion token codecId with
      | error e =>
          rw [hmeet] at hclose
          refine ⟨_, Call.bind_of_error _ hclose, ?_⟩
          intro result pixFmt hok
          cases hok
      | ok result =>
          rw [hmeet] at hclose
          rw [Call.bind_of_ok _ hclose, Call.modify_bind]
          refine ⟨_, rfl, ?_⟩
          intro result' pixFmt _ _ hpix
          exact hsocket2.trans (hmet result pixFmt hmeet hpix)

/-- The client opens where it reaches the server and the handshakes meet. -/
theorem ffVtremoteInit_handler (getaddrinfo : Resolver) (netInit : Except AvError Unit)
    (host : Option Bytes) {s : InitContext HandlerSide} (hsocket : s.socket = .start)
    (hopts : s.opts = OptionArray.empty) :
    exists s', ffVtremoteInit (handlerHandshakeLink canonical expectedToken codecs) side
        ffmpegVersion token codecId getaddrinfo netInit host s =
        .returned (opening canonical expectedToken side ffmpegVersion token codecId netInit
          host (connecting getaddrinfo s.sockets)) s' ∧
      forall result pixFmt,
        opening canonical expectedToken side ffmpegVersion token codecId netInit host
          (connecting getaddrinfo s.sockets) = .ok result ->
        wirePixFmt side.pixFmt = .ok pixFmt ->
        s'.socket = metSide side ffmpegVersion token codecId pixFmt := by
  have hno : forall e : AvError, forall result : β,
      (Except.error e : Except AvError β) = .ok result -> False := by
    intro e result h
    cases h
  unfold ffVtremoteInit opening
  rw [Call.modify_bind]
  cases host with
  | none => exact ⟨_, rfl, fun result _ h => (hno _ result h).elim⟩
  | some hostport =>
      cases netInit with
      | error e => exact ⟨_, rfl, fun result _ h => (hno _ result h).elim⟩
      | ok _ =>
          rcases @vtremoteHandshake_handler canonical expectedToken codecs _ _ codecId _ _
            hhello hside getaddrinfo hostport
            { s with fd := -1, netUsers := s.netUsers + 1 } hsocket hopts with
            ⟨s1, hshake, hmet⟩
          dsimp only [Except.bind] at hshake hmet ⊢
          rw [Call.modify_bind, Call.bind_of_ok _ (Call.attempt_of_returned hshake)]
          cases hconnect : connecting getaddrinfo s.sockets hostport with
          | error e => exact ⟨_, rfl, fun result _ h => (hno _ result h).elim⟩
          | ok fd =>
              cases hmeet : meeting canonical expectedToken side ffmpegVersion token codecId with
              | error e => exact ⟨_, rfl, fun result _ h => (hno _ result h).elim⟩
              | ok result =>
                  refine ⟨s1, rfl, ?_⟩
                  intro result' pixFmt _ hpix
                  exact hmet result pixFmt hmeet (by rw [hconnect]; rfl) hpix

end Opening
end VTRemote
