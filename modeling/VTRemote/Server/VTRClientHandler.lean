import VTRemote.Library.Call
import VTRemote.Proto.Header
import VTRemote.Server.SessionConfiguration

/-!
# The handler of one client

`VTRClientHandler` over any message channel and any codec session.  The channel
is given by the messages that it will deliver, after which reading throws, and
by what its sends will answer.  Of the counters of the log lines, those of the
bytes are kept.

What happens in a conversation is recorded in the order in which it happens.
-/

namespace VTRemote

structure IncomingMessage where
  type : UInt16
  body : List UInt8
deriving DecidableEq, Repr

def messageSize (body : List UInt8) : Nat := vtremoteHeaderSize + body.length

inductive HandlerEvent where
  | read
  | sent (type : VTRemoteMsgType) (body : List UInt8)
  | created
  | configure
  | frameMessage
  | packetMessage
  | flush
  | flushed
  | shutdown
deriving DecidableEq, Repr

/-!
## Codec sessions
-/

/-- A callback of a session: it sends messages, learns whether each send has
thrown, and returns or throws. -/
inductive SessionCall (τ α : Type) where
  | finish (result : Except Failure α) (session : τ)
  | send (type : VTRemoteMsgType) (bodyParts : List (List UInt8))
      (next : Except VTRemotedError Unit -> SessionCall τ α)

structure CodecSession (τ : Type) where
  make : τ
  configure : ClientConfiguration -> τ -> SessionCall τ (List UInt8)
  handleFrameMessage : List UInt8 -> τ -> SessionCall τ Unit
  handlePacketMessage : List UInt8 -> τ -> SessionCall τ Unit
  flush : τ -> SessionCall τ Unit
  shutdown : τ -> τ

/-!
## The handler
-/

/-- No connection carries the 2^63 bytes at which these overflow. -/
structure ClientStats where
  bytesIn : Nat
  bytesOut : Nat
deriving DecidableEq, Repr

/-- Sends beyond the listed answers succeed. -/
structure VTRClientHandler (τ : Type) where
  incoming : List IncomingMessage
  sendResults : List (Except VTRemotedError Unit)
  codec : VideoCodec
  configuration : Option ClientConfiguration
  codecSession : Option τ
  stats : ClientStats
  events : List HandlerEvent

abbrev HandlerCall (τ α : Type) := Call Failure (VTRClientHandler τ) α

namespace VTRClientHandler

variable {τ : Type}

def record (event : HandlerEvent) : HandlerCall τ Unit :=
  Call.modify fun s => { s with events := s.events ++ [event] }

def violation {α : Type} (msg : String) : HandlerCall τ α :=
  Call.fail (.thrown (.protocolViolation msg))

def orThrow {α : Type} : Except Failure α -> HandlerCall τ α
  | .ok a => pure a
  | .error e => Call.fail e

def readMessage : HandlerCall τ IncomingMessage := do
  record .read
  let s ← Call.get
  match s.incoming with
  | [] => Call.fail (.thrown (.ioError 0 "poll timed out"))
  | message :: rest => do
      Call.modify fun s => { s with incoming := rest }
      pure message

/-- `messageIO.send`, with what it answers. -/
def sendResult (type : VTRemoteMsgType) (body : List UInt8) :
    HandlerCall τ (Except VTRemotedError Unit) := do
  record (.sent type body)
  let s ← Call.get
  Call.modify fun s => { s with sendResults := s.sendResults.tail }
  pure (s.sendResults.headD (.ok ()))

def send (type : VTRemoteMsgType) (body : List UInt8) : HandlerCall τ Unit := do
  match ← sendResult type body with
  | .ok _ => pure ()
  | .error e => Call.fail (.thrown e)

def countIn (body : List UInt8) : HandlerCall τ Unit :=
  Call.modify fun s =>
    { s with stats :=
      { s.stats with bytesIn := s.stats.bytesIn + messageSize body } }

def countOut (body : List UInt8) : HandlerCall τ Unit :=
  Call.modify fun s =>
    { s with stats :=
      { s.stats with bytesOut := s.stats.bytesOut + messageSize body } }

def perform {α : Type} : SessionCall τ α -> HandlerCall τ α
  | .finish result session => do
      Call.modify fun s => { s with codecSession := some session }
      orThrow result
  | .send type bodyParts next => do
      countOut bodyParts.flatten
      let result ← sendResult type bodyParts.flatten
      perform (next result)

def callback {α : Type} (event : HandlerEvent) (call : τ -> SessionCall τ α) :
    HandlerCall τ α := do
  let s ← Call.get
  match s.codecSession with
  | none => violation "missing configuration"
  | some session => do
      record event
      perform (call session)

variable (canonical : String -> String) (expectedToken : String)

def authed (hello : HelloRequest) : Bool :=
  expectedToken.isEmpty || canonical hello.token == canonical expectedToken

def helloAck (authed : Bool) : HelloAckResponse where
  status := if authed then 0 else 2
  supportedCodecs := ["h264", "hevc"]
  warnings := 0

def handshake : HandlerCall τ Unit := do
  let message ← readMessage
  countIn message.body
  if message.type ≠ VTRemoteMsgType.hello.code then violation "expected HELLO"
  else
    let hello ← orThrow (HelloRequest.decode message.body)
    Call.modify fun s => { s with codec := VideoCodec.ofName canonical hello.codec }
    let authed := authed canonical expectedToken hello
    countOut (helloAck authed).encode
    send .helloAck (helloAck authed).encode
    if authed then pure () else violation "unauthorized"

def unsupportedWireCompression (wireCompression : Int) : ErrorResponse where
  code := 1
  message := "unsupported wire_compression=" ++ toString wireCompression

variable (session : CodecSession τ)

/-- `sessionFactory`, and what `configure` stores. -/
def createSession (config : ClientConfiguration) : HandlerCall τ Unit := do
  record .created
  Call.modify fun s =>
    { s with codecSession := some session.make, configuration := some config }

def configure : HandlerCall τ Unit := do
  let message ← readMessage
  countIn message.body
  if message.type ≠ VTRemoteMsgType.configure.code then
    violation "expected CONFIGURE"
  else
    let request ← orThrow (ConfigureRequest.decode canonical message.body)
    let s ← Call.get
    let config := ClientConfiguration.init canonical s.codec request
    let wireComp := config.wireCompression
    if wireComp ≠ 0 ∧ wireComp ≠ 1 ∧ wireComp ≠ 2 then do
      let body := (unsupportedWireCompression wireComp).encode
      countOut body
      send .error body
      Call.fail (.thrown (.unsupported "wire_compression"))
    else do
      createSession session config
      let extradata ← callback .configure (session.configure config)
      let resp : ConfigureAckResponse :=
        { status := 0, extradata, pixelFormat := config.pixelFormat, warnings := 0 }
      countOut resp.encode
      send .configureAck resp.encode

/-- The switch of `mainLoop`; FLUSH ends the loop. -/
def mainMessage (message : IncomingMessage) : HandlerCall τ (Option Unit) :=
  match VTRemoteMsgType.ofCode message.type with
  | some .frame => do
      callback .frameMessage (session.handleFrameMessage message.body)
      pure none
  | some .packet => do
      callback .packetMessage (session.handlePacketMessage message.body)
      pure none
  | some .flush => do
      callback .flush session.flush
      record .flushed
      send .done []
      pure (some ())
  | some .ping => do
      send .pong []
      pure none
  | _ => pure none

def mainRound : HandlerCall τ (Option Unit) := do
  let message ← readMessage
  countIn message.body
  mainMessage session message

/-- Every round takes a message, so the bound never cuts the loop short. -/
def mainLoop : HandlerCall τ Unit := do
  let s ← Call.get
  match s.configuration, s.codecSession with
  | some _, some _ => Call.loop (mainRound session) (s.incoming.length + 1)
  | _, _ => violation "missing configuration"

def shutdownSession : HandlerCall τ Unit := do
  let s ← Call.get
  match s.codecSession with
  | none => pure ()
  | some t => do
      record .shutdown
      Call.modify fun s => { s with codecSession := some (session.shutdown t) }

def conversation : HandlerCall τ Unit := do
  handshake canonical expectedToken
  configure canonical session
  mainLoop session

/-- What is thrown is caught; a trap ends the process. -/
def run : HandlerCall τ Unit := do
  match ← Call.attempt (conversation canonical expectedToken session) with
  | .error .trapped => Call.fail .trapped
  | _ => shutdownSession session

def start (incoming : List IncomingMessage)
    (sendResults : List (Except VTRemotedError Unit)) : VTRClientHandler τ where
  incoming := incoming
  sendResults := sendResults
  codec := .h264
  configuration := none
  codecSession := none
  stats := { bytesIn := 0, bytesOut := 0 }
  events := []

end VTRClientHandler
end VTRemote
