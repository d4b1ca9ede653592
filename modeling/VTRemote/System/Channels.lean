import VTRemote.Client.Socket
import VTRemote.Server.StubCodecSession

/-!
# A client and a server over two channels

The main loop of `VTRClientHandler` with a stub session, and a client whose
connection is a pair of reliable FIFO channels to it.

The two parties run in any order: before each of its operations on the channels,
the client lets the server go round its loop as often as the schedule says.
What lies in the channels whenever the client waits for a message is recorded.
-/

namespace VTRemote

structure ChannelMessage where
  type : VTRemoteMsgType
  body : Bytes
deriving DecidableEq

def ChannelMessage.header (message : ChannelMessage) : VTRemoteMsgHeader where
  magic := vtremoteProtoMagic
  version := vtremoteProtoVersion
  type := message.type.code
  length := UInt32.ofNat message.body.length

/-!
## The server
-/

/-- The conversion of the length traps if it does not fit. -/
def sendMessage (type : VTRemoteMsgType) (body : Bytes) :
    Except Failure ChannelMessage := do
  let _ ← swiftUInt32 body.length
  pure ⟨type, body⟩

def sendReply (type : VTRemoteMsgType) :
    StubCodecSession × Option (List UInt8) ->
      Except Failure (StubCodecSession × List ChannelMessage)
  | (session, none) => pure (session, [])
  | (session, some body) => do
      let message ← sendMessage type body
      pure (session, [message])

/-- One round of `mainLoop`: the session it leaves and what it sends. -/
def handleMessage (codecs : PlaneCodecs) (session : StubCodecSession)
    (message : ChannelMessage) :
    Except Failure (StubCodecSession × List ChannelMessage) :=
  match message.type with
  | .frame => do
      let result ← session.handleFrameMessage codecs message.body
      sendReply .packet result
  | .packet => do
      let result ← session.handlePacketMessage codecs message.body
      sendReply .frame result
  | .flush => sendReply .done (session, some [])
  | .ping => sendReply .pong (session, some [])
  | _ => pure (session, [])

/-- Both channels and the server.  When its loop has ended, the server has closed
the connection. -/
structure Parties where
  toServer : List ChannelMessage
  toClient : List ChannelMessage
  session : StubCodecSession
  serving : Bool
deriving DecidableEq

namespace Parties

variable (codecs : PlaneCodecs)

def serverStep (p : Parties) : Parties :=
  match p.serving, p.toServer with
  | true, message :: rest =>
      match handleMessage codecs p.session message with
      | .ok (session, replies) =>
          { toServer := rest
            toClient := p.toClient ++ replies
            session
            serving := message.type ≠ .flush }
      | .error _ => { p with toServer := rest, serving := false }
  | _, _ => p

def after (n : Nat) (p : Parties) : Parties := (serverStep codecs)^[n] p

/-- The server runs until a message for the client is there. -/
def await : Nat -> Parties -> Parties
  | 0, p => p
  | n + 1, p => if p.toClient = [] then await n (p.serverStep codecs) else p

def AnswersNext (p : Parties) : Prop :=
  p.toServer.head?.map ChannelMessage.type = some .frame ∧
    (p.serverStep codecs).toClient.map ChannelMessage.type =
      p.toClient.map ChannelMessage.type ++ [.packet]

instance (p : Parties) : Decidable (p.AnswersNext codecs) :=
  inferInstanceAs (Decidable (_ ∧ _))

/-- A PACKET is in flight to the client, or a FRAME is in flight to the server
that it will answer with a PACKET. -/
def SomethingOwed (p : Parties) : Prop :=
  (exists message, message ∈ p.toClient ∧ message.type = .packet) ∨
    (exists n, n < p.toServer.length ∧ (p.after codecs n).AnswersNext codecs)

instance (p : Parties) : Decidable (p.SomethingOwed codecs) :=
  inferInstanceAs (Decidable ((exists message, message ∈ _ ∧ _) ∨ _))

end Parties

/-!
## The client's connection
-/

/-- The parties, how often the server goes round before each operation of the
client, and what the parties were whenever the client began to wait. -/
structure System where
  parties : Parties
  schedule : List Nat
  waits : List Parties

namespace System

variable (codecs : PlaneCodecs)

def interleave (y : System) : System :=
  { y with
    parties := y.parties.after codecs (y.schedule.headD 0)
    schedule := y.schedule.tail }

def takeMessage (empty : Outcome AvError System (VTRemoteMsgHeader × Bytes))
    (y : System) : Outcome AvError System (VTRemoteMsgHeader × Bytes) :=
  match y.parties.toClient with
  | message :: rest =>
      .returned (.ok (message.header, message.body))
        { y with parties := { y.parties with toClient := rest } }
  | [] => if y.parties.serving then empty else .returned (.error averrorEof) y

def sendMsg (type : VTRemoteMsgType) (payload : Payload) :
    Call AvError System Unit := fun y =>
  let y := y.interleave codecs
  let parties := { y.parties with
    toServer := y.parties.toServer ++ [⟨type, payload.bytes⟩] }
  .returned (.ok ()) { y with parties }

/-- The client is about to wait: the parties are recorded, and the server runs
until there is a message. -/
def readMsg : Call AvError System (VTRemoteMsgHeader × Bytes) := fun y =>
  let y := y.interleave codecs
  let y := { y with
    parties := y.parties.await codecs y.parties.toServer.length
    waits := y.waits ++ [y.parties] }
  takeMessage (.blocked y) y

def readMsgNonblock : Call AvError System (VTRemoteMsgHeader × Bytes) := fun y =>
  let y := y.interleave codecs
  takeMessage (.returned (.error (averror eagain)) y) y

def left (y : System) : Nat :=
  y.parties.toClient.length +
    (y.parties.toServer.filter fun message => message.type ≠ .pong).length

end System

/-- The connection is a pair of channels.  A read that waits does not time out, a send
does not fail, and memory is granted. -/
def systemLink (codecs : PlaneCodecs) : Link System where
  sendMsg := System.sendMsg codecs
  readMsg := System.readMsg codecs
  readMsgNonblock := System.readMsgNonblock codecs
  malloc := fun y => .returned (.ok ()) y
  packetRef := fun y => .returned (.ok ()) y
  left := System.left

def System.start (configuration : SessionConfiguration) (schedule : List Nat) :
    System where
  parties :=
    { toServer := []
      toClient := []
      session := (StubCodecSession.configure configuration).2
      serving := true }
  schedule := schedule
  waits := []

end VTRemote
