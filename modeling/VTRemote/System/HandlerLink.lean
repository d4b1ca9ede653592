import VTRemote.Client.SessionHandshake
import VTRemote.System.StubHandler

/-!
# A connection to the handler

At the other end of this connection is the whole handler, from HELLO on.  What it has
sent to the messages so far is there to be read; it sends no more until more come.
Behind the acknowledgements the connection shows as the session itself.
-/

namespace VTRemote

open Call VTRClientHandler

/-- The messages that were sent, and how many answers were read. -/
structure HandlerSide where
  asked : List ChannelMessage
  taken : Nat
deriving DecidableEq

namespace HandlerSide

def start : HandlerSide where
  asked := []
  taken := 0

section Operations

variable (canonical : String -> String) (expectedToken : String) (codecs : PlaneCodecs)

def replies (l : HandlerSide) : List ChannelMessage :=
  sentMessages (runEvents canonical expectedToken codecs l.asked)

def Waits (l : HandlerSide) : Prop :=
  readCount (runEvents canonical expectedToken codecs l.asked) = l.asked.length + 1

instance (l : HandlerSide) : Decidable (l.Waits canonical expectedToken codecs) :=
  inferInstanceAs (Decidable (_ = _))

def sendMsg (type : VTRemoteMsgType) (payload : Payload) :
    Call AvError HandlerSide Unit :=
  Call.modify fun l => { l with asked := l.asked ++ [⟨type, payload.bytes⟩] }

/-- Take a reply, or do what there is to do without one. -/
def takeReply (empty : Outcome AvError HandlerSide (VTRemoteMsgHeader × Bytes)) :
    Call AvError HandlerSide (VTRemoteMsgHeader × Bytes) := fun l =>
  match (l.replies canonical expectedToken codecs)[l.taken]? with
  | some message =>
      .returned (.ok (message.header, message.body)) { l with taken := l.taken + 1 }
  | none =>
      if l.Waits canonical expectedToken codecs then empty
      else .returned (.error averrorEof) l

def readMsg : Call AvError HandlerSide (VTRemoteMsgHeader × Bytes) := fun l =>
  takeReply canonical expectedToken codecs (.blocked l) l

def readMsgNonblock : Call AvError HandlerSide (VTRemoteMsgHeader × Bytes) := fun l =>
  takeReply canonical expectedToken codecs (.returned (.error (averror eagain)) l) l

end Operations
end HandlerSide

section Links

variable (canonical : String -> String) (expectedToken : String) (codecs : PlaneCodecs)

/-- The connection of a codec that is open; memory is granted. -/
def handlerLink : Link HandlerSide where
  sendMsg := HandlerSide.sendMsg
  readMsg := HandlerSide.readMsg canonical expectedToken codecs
  readMsgNonblock := HandlerSide.readMsgNonblock canonical expectedToken codecs
  malloc := fun l => .returned (.ok ()) l
  packetRef := fun l => .returned (.ok ()) l
  left l := (l.replies canonical expectedToken codecs).length - l.taken

def handlerHandshakeLink : HandshakeLink HandlerSide where
  fill put l := ((put (vtremoteWbufInit [])).2, l)
  sendBuffer type b := HandlerSide.sendMsg type b.payload
  readMsg := HandlerSide.readMsg canonical expectedToken codecs
  malloc := fun l => .returned (.ok ()) l

end Links

/-!
## Behind the acknowledgements
-/

/-- The messages behind the first two, with the number of their answers that were
read. -/
structure OpenedSide (codecs : PlaneCodecs) (session : StubCodecSession) where
  later : List ChannelMessage
  taken : Nat
  taken_le : taken ≤ ((stubService codecs).answers (some session) later).1.length

namespace OpenedSide

variable {codecs : PlaneCodecs} {session : StubCodecSession}

def answers (l : OpenedSide codecs session) :
    List ChannelMessage × Option StubCodecSession :=
  (stubService codecs).answers (some session) l.later

def start : OpenedSide codecs session where
  later := []
  taken := 0
  taken_le := Nat.zero_le _

theorem answers_snoc (l : OpenedSide codecs session) (message : ChannelMessage) :
    (stubService codecs).answers (some session) (l.later ++ [message]) =
      (l.answers.1 ++ ((stubService codecs).answers l.answers.2 [message]).1,
        ((stubService codecs).answers l.answers.2 [message]).2) :=
  (stubService codecs).answers_append (some session) l.later [message]

def ask (l : OpenedSide codecs session) (message : ChannelMessage) :
    OpenedSide codecs session where
  later := l.later ++ [message]
  taken := l.taken
  taken_le := by
    rw [answers_snoc, List.length_append]
    exact Nat.le_add_right_of_le l.taken_le

def readMsg : Call AvError (OpenedSide codecs session) (VTRemoteMsgHeader × Bytes) :=
  fun l =>
    if h : l.taken < l.answers.1.length then
      let message := l.answers.1[l.taken]
      .returned (.ok (message.header, message.body))
        { l with taken := l.taken + 1, taken_le := h }
    else if l.answers.2.isSome then .blocked l
    else .returned (.error averrorEof) l

def link (codecs : PlaneCodecs) (session : StubCodecSession) :
    Link (OpenedSide codecs session) where
  sendMsg type payload := Call.modify fun l => l.ask ⟨type, payload.bytes⟩
  readMsg := readMsg
  readMsgNonblock := readMsg
  malloc := fun l => .returned (.ok ()) l
  packetRef := fun l => .returned (.ok ()) l
  left l := l.answers.1.length - l.taken

/-!
## It shows as the session
-/

def toLocal (l : OpenedSide codecs session) : LocalSession where
  replies := l.answers.1.drop l.taken
  session := l.answers.2

theorem sendMsg_showsLocal (type : VTRemoteMsgType) (payload : Payload) :
    Call.Shows toLocal ((link codecs session).sendMsg type payload)
      ((localLink codecs).sendMsg type payload) := by
  intro l
  have hsnoc := l.answers_snoc ⟨type, payload.bytes⟩
  have hdrop : (l.answers.1 ++
      ((stubService codecs).answers l.answers.2 [⟨type, payload.bytes⟩]).1).drop l.taken =
        l.answers.1.drop l.taken ++
          ((stubService codecs).answers l.answers.2 [⟨type, payload.bytes⟩]).1 :=
    List.drop_append_of_le_length l.taken_le
  show Outcome.returned (.ok ()) (LocalSession.mk
    (((stubService codecs).answers (some session) (l.later ++
      [⟨type, payload.bytes⟩])).1.drop l.taken)
    ((stubService codecs).answers (some session) (l.later ++
      [⟨type, payload.bytes⟩])).2) =
    LocalSession.sendMsg codecs type payload l.toLocal
  rw [hsnoc]
  dsimp only
  rw [hdrop]
  rfl

theorem readMsg_showsLocal :
    Call.Shows toLocal (link codecs session).readMsg (localLink codecs).readMsg := by
  intro l
  show (readMsg l).image toLocal = LocalSession.readMsg l.toLocal
  unfold readMsg LocalSession.readMsg LocalSession.takeReply
  by_cases h : l.taken < l.answers.1.length
  · rw [dif_pos h]
    have hreplies : l.toLocal.replies =
        l.answers.1[l.taken] :: l.answers.1.drop (l.taken + 1) :=
      List.drop_eq_getElem_cons h
    rw [hreplies]
    rfl
  · rw [dif_neg h]
    have hreplies : l.toLocal.replies = [] :=
      List.drop_of_length_le (Nat.not_lt.mp h)
    rw [hreplies]
    dsimp only
    have hsession : l.toLocal.session = l.answers.2 := rfl
    rw [hsession]
    split
    · rfl
    · rfl

theorem link_showsLocal (codecs : PlaneCodecs) (session : StubCodecSession) :
    (link codecs session).Shows toLocal (localLink codecs) where
  sendMsg := sendMsg_showsLocal
  readMsg := readMsg_showsLocal
  malloc := fun _ => rfl
  left l := by
    show (l.answers.1.drop l.taken).length ≤ l.answers.1.length - l.taken
    rw [List.length_drop]

/-!
## It shows as the handler
-/

variable (hello configure : List UInt8)

def toSide (l : OpenedSide codecs session) : HandlerSide where
  asked := ⟨.hello, hello⟩ :: ⟨.configure, configure⟩ :: l.later
  taken := l.taken + 2

section Handler

variable {canonical : String -> String} {expectedToken : String}
  {helloRequest : HelloRequest} {request : ConfigureRequest canonical}
  {hello configure : List UInt8}

/-- The handler lets this client in and serves it. -/
structure Accepts (canonical : String -> String) (expectedToken : String)
    (hello configure : List UInt8) (helloRequest : HelloRequest)
    (request : ConfigureRequest canonical) : Prop where
  hello : HelloRequest.decode hello = .ok helloRequest
  authed : authed canonical expectedToken helloRequest = true
  configure : ConfigureRequest.decode canonical configure = .ok request
  wire : SupportedWire (wireCompressionOption canonical request.options)

variable (haccepts : Accepts canonical expectedToken hello configure helloRequest request)
include haccepts

theorem replies_toSide
    (l : OpenedSide codecs (stubSession canonical helloRequest request)) :
    (l.toSide hello configure).replies canonical expectedToken codecs =
        ⟨.helloAck, (helloAck true).encode⟩ ::
          ⟨.configureAck, (stubConfigureAck request.pixelFormat).encode⟩ :: l.answers.1 ∧
      ((l.toSide hello configure).Waits canonical expectedToken codecs <->
        l.answers.2.isSome = true) := by
  have hleaves := @runEvents_supported canonical expectedToken codecs hello helloRequest
    haccepts.hello haccepts.authed configure request haccepts.configure haccepts.wire l.later
  exact ⟨hleaves.sent, hleaves.reads_iff (Nat.le_refl _) fun _ => rfl⟩

theorem readMsg_showsSide :
    Call.Shows (toSide hello configure)
      (link codecs (stubSession canonical helloRequest request)).readMsg
      (handlerLink canonical expectedToken codecs).readMsg := by
  intro l
  rcases replies_toSide haccepts l with ⟨hreplies, hwaits⟩
  show (readMsg l).image (toSide hello configure) =
    HandlerSide.readMsg canonical expectedToken codecs (l.toSide hello configure)
  unfold readMsg HandlerSide.readMsg HandlerSide.takeReply
  have htaken : (l.toSide hello configure).taken = l.taken + 2 := rfl
  rw [hreplies, htaken, List.getElem?_cons_succ, List.getElem?_cons_succ]
  by_cases h : l.taken < l.answers.1.length
  · rw [dif_pos h, List.getElem?_eq_getElem h]
    rfl
  · rw [dif_neg h, List.getElem?_eq_none (Nat.not_lt.mp h)]
    dsimp only
    by_cases hsome : l.answers.2.isSome = true
    · rw [if_pos hsome, if_pos (hwaits.mpr hsome)]
      rfl
    · rw [if_neg hsome, if_neg (fun hw => hsome (hwaits.mp hw))]
      rfl

theorem left_toSide
    (l : OpenedSide codecs (stubSession canonical helloRequest request)) :
    (handlerLink canonical expectedToken codecs).left (l.toSide hello configure) =
      (link codecs _).left l := by
  show ((l.toSide hello configure).replies canonical expectedToken codecs).length -
    (l.taken + 2) = l.answers.1.length - l.taken
  rw [(replies_toSide haccepts l).1]
  exact Nat.add_sub_add_right _ 2 _

theorem link_showsSide :
    (link codecs (stubSession canonical helloRequest request)).Shows
      (toSide hello configure) (handlerLink canonical expectedToken codecs) where
  sendMsg := fun _ _ _ => rfl
  readMsg := readMsg_showsSide haccepts
  malloc := fun _ => rfl
  left l := (left_toSide haccepts l).le

/-- The decoder returns on the connection to the handler what it returns on the
session itself. -/
theorem decodeRun_handler (libs : DecompressionLibraries) (avctx : AVCodecContext)
    (frame : AVFrame) (pkts : List (Option AVPacket)) (wireCompression : Int)
    {results : List DecodeReturn} {s : VTRemoteDecContext LocalSession}
    (hlocal : decodeRun (localLink codecs) libs avctx frame pkts
      (.afterInit ⟨[], some (stubSession canonical helloRequest request)⟩ wireCompression) =
        .returned (.ok results) s) :
    exists s', decodeRun (handlerLink canonical expectedToken codecs) libs avctx frame pkts
        (.afterInit ⟨[⟨.hello, hello⟩, ⟨.configure, configure⟩], 2⟩ wireCompression) =
      .returned (.ok results) s' := by
  let opened : VTRemoteDecContext
      (OpenedSide codecs (stubSession canonical helloRequest request)) :=
    .afterInit start wireCompression
  have hsession := decodeRun_shows (link_showsLocal codecs _) libs avctx frame
    (Or.inl (localLink_consumes codecs)) pkts opened
  have hside := decodeRun_shows (link_showsSide haccepts) libs avctx frame
    (Or.inr (left_toSide haccepts)) pkts opened
  rcases Outcome.image_eq_returned (hsession.trans hlocal) with ⟨s1, hopened, _⟩
  unfold Call.ShowsAt at hside
  rw [hopened] at hside
  exact ⟨_, hside.symm⟩

end Handler
end OpenedSide
end VTRemote
