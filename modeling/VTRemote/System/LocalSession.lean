import VTRemote.Client.DecoderImages
import VTRemote.Library.Service
import VTRemote.System.ChannelClient

/-!
# A session without channels

The main loop with a stub session is a service.  A connection that hands every
message to it at once has no schedule; what is on its way in the two channels is
then what such a connection holds ready.
-/

namespace VTRemote

/-!
## The service
-/

/-- One round of `mainLoop`: FLUSH ends it, and so does what is thrown. -/
def stubService (codecs : PlaneCodecs) :
    Service StubCodecSession ChannelMessage ChannelMessage where
  serve session message :=
    match handleMessage codecs session message with
    | .ok (session, replies) =>
        (replies, if message.type ≠ .flush then some session else none)
    | .error _ => ([], none)

theorem length_answers (codecs : PlaneCodecs) (server : Option StubCodecSession)
    (requests : List ChannelMessage) :
    ((stubService codecs).answers server requests).1.length ≤
      (requests.filter fun message => message.type ≠ .pong).length := by
  induction requests generalizing server with
  | nil =>
      rw [Service.answers_nil]
      exact Nat.zero_le _
  | cons message rest ih =>
      cases server with
      | none =>
          rw [Service.answers_none]
          exact Nat.zero_le _
      | some session =>
          have hserve : ((stubService codecs).serve session message).1.length ≤
              if message.type = .pong then 0 else 1 := by
            unfold stubService
            dsimp only
            split
            · rename_i hhandle
              exact handleMessage_replies hhandle
            · exact Nat.zero_le _
          have hrest := ih ((stubService codecs).serve session message).2
          have hcount : (if message.type = .pong then 0 else 1) +
              (rest.filter fun message => message.type ≠ .pong).length =
                ((message :: rest).filter
                  fun message => message.type ≠ .pong).length := by
            by_cases hpong : message.type = .pong
            · simp [hpong]
            · simp [hpong, Nat.add_comm]
          rw [<- hcount]
          show (((stubService codecs).serve session message).1 ++ _).length ≤ _
          rw [List.length_append]
          exact Nat.add_le_add hserve hrest

namespace Parties

def channels (p : Parties) :
    Channels StubCodecSession ChannelMessage ChannelMessage where
  toServer := p.toServer
  toClient := p.toClient
  server := if p.serving then some p.session else none

variable {codecs : PlaneCodecs}

theorem channels_serverStep (p : Parties) :
    (p.serverStep codecs).channels = (stubService codecs).turn p.channels := by
  rcases p with ⟨toServer, toClient, session, serving⟩
  cases serving with
  | false => rfl
  | true =>
      cases toServer with
      | nil => rfl
      | cons message rest =>
          unfold serverStep Service.turn channels stubService
          simp only [if_pos]
          cases handleMessage codecs session message with
          | error e => simp
          | ok result => simp

theorem channels_after (p : Parties) (n : Nat) :
    (p.after codecs n).channels = ((stubService codecs).turn)^[n] p.channels := by
  induction n generalizing p with
  | zero => rfl
  | succ n ih =>
      have hstep := ih (p.serverStep codecs)
      rw [channels_serverStep] at hstep
      exact hstep

theorem channels_await (p : Parties) (n : Nat) :
    (p.await codecs n).channels = (stubService codecs).await n p.channels := by
  induction n generalizing p with
  | zero => rfl
  | succ n ih =>
      unfold await Service.await
      rcases p with ⟨toServer, toClient, session, serving⟩
      cases toClient with
      | cons message rest => rfl
      | nil =>
          have hstep := ih (serverStep codecs ⟨toServer, [], session, serving⟩)
          rw [channels_serverStep] at hstep
          exact hstep

end Parties

/-!
## The connection
-/

/-- The replies that are ready, and the session, `none` when it has ended. -/
structure LocalSession where
  replies : List ChannelMessage
  session : Option StubCodecSession
deriving DecidableEq

namespace LocalSession

variable (codecs : PlaneCodecs)

def sendMsg (type : VTRemoteMsgType) (payload : Payload) :
    Call AvError LocalSession Unit := fun l =>
  let (replies, session) :=
    (stubService codecs).answers l.session [⟨type, payload.bytes⟩]
  .returned (.ok ()) { replies := l.replies ++ replies, session }

def takeReply (empty : Outcome AvError LocalSession (VTRemoteMsgHeader × Bytes))
    (l : LocalSession) : Outcome AvError LocalSession (VTRemoteMsgHeader × Bytes) :=
  match l.replies with
  | message :: rest =>
      .returned (.ok (message.header, message.body)) { l with replies := rest }
  | [] => if l.session.isSome then empty else .returned (.error averrorEof) l

def readMsg : Call AvError LocalSession (VTRemoteMsgHeader × Bytes) := fun l =>
  takeReply (.blocked l) l

def readMsgNonblock : Call AvError LocalSession (VTRemoteMsgHeader × Bytes) := fun l =>
  takeReply (.returned (.error (averror eagain)) l) l

end LocalSession

/-- The connection is the session itself; memory is granted. -/
def localLink (codecs : PlaneCodecs) : Link LocalSession where
  sendMsg := LocalSession.sendMsg codecs
  readMsg := LocalSession.readMsg
  readMsgNonblock := LocalSession.readMsgNonblock
  malloc := fun l => .returned (.ok ()) l
  packetRef := fun l => .returned (.ok ()) l
  left l := l.replies.length

theorem LocalSession.sendMsg_of_answers {codecs : PlaneCodecs} {l : LocalSession}
    {session : StubCodecSession} {session' : Option StubCodecSession}
    {type : VTRemoteMsgType} {payload : Payload} {replies : List ChannelMessage}
    (hreplies : l.replies = []) (hsession : l.session = some session)
    (h : (stubService codecs).answers (some session) [⟨type, payload.bytes⟩] =
      (replies, session')) :
    LocalSession.sendMsg codecs type payload l =
      .returned (.ok ()) ⟨replies, session'⟩ := by
  unfold LocalSession.sendMsg
  rw [hsession, hreplies, h]
  rfl

/-!
## The channels show as the session
-/

def System.toLocal (codecs : PlaneCodecs) (y : System) : LocalSession where
  replies := ((stubService codecs).outlook y.parties.channels).1
  session := ((stubService codecs).outlook y.parties.channels).2

namespace System

variable {codecs : PlaneCodecs}

theorem toLocal_of_outlook {y y' : System}
    (h : (stubService codecs).outlook y'.parties.channels =
      (stubService codecs).outlook y.parties.channels) :
    y'.toLocal codecs = y.toLocal codecs := by
  unfold toLocal
  rw [h]

theorem toLocal_interleave (y : System) :
    (y.interleave codecs).toLocal codecs = y.toLocal codecs := by
  apply toLocal_of_outlook
  show (stubService codecs).outlook
    (Parties.channels (Parties.after codecs _ y.parties)) = _
  rw [Parties.channels_after]
  exact (stubService codecs).outlook_turns _ _

theorem toLocal_await (y : System) (n : Nat) (waits : List Parties) :
    toLocal codecs { y with parties := y.parties.await codecs n, waits := waits } =
      y.toLocal codecs := by
  apply toLocal_of_outlook
  rw [Parties.channels_await]
  exact (stubService codecs).outlook_await _ _

theorem outlook_channels (y : System) :
    (stubService codecs).outlook y.parties.channels =
      ((y.toLocal codecs).replies, (y.toLocal codecs).session) := rfl

theorem sendMsg_shows (type : VTRemoteMsgType) (payload : Payload) :
    Call.Shows (toLocal codecs) (sendMsg codecs type payload)
      (LocalSession.sendMsg codecs type payload) := by
  intro y
  have hsend := (stubService codecs).outlook_send
    (y.interleave codecs).parties.channels ⟨type, payload.bytes⟩
  rw [outlook_channels, toLocal_interleave] at hsend
  show Outcome.returned (.ok ())
    (LocalSession.mk ((stubService codecs).outlook _).1
      ((stubService codecs).outlook _).2) = _
  have hchannels : Parties.channels { (y.interleave codecs).parties with
        toServer := (y.interleave codecs).parties.toServer ++
          [⟨type, payload.bytes⟩] } =
      { (y.interleave codecs).parties.channels with
        toServer := (y.interleave codecs).parties.channels.toServer ++
          [⟨type, payload.bytes⟩] } := rfl
  rw [hchannels, hsend]
  rfl

theorem takeMessage_shows {y : System} {message : ChannelMessage}
    {rest : List ChannelMessage} (h : y.parties.toClient = message :: rest)
    (empty : Outcome AvError System (VTRemoteMsgHeader × Bytes))
    (empty' : Outcome AvError LocalSession (VTRemoteMsgHeader × Bytes)) :
    (takeMessage empty y).image (toLocal codecs) =
      LocalSession.takeReply empty' (y.toLocal codecs) := by
  have htake := (stubService codecs).outlook_take (c := y.parties.channels) h
  unfold takeMessage LocalSession.takeReply toLocal
  rw [h, htake]
  rfl

theorem takeMessage_shows_nil {y : System} (h : y.parties.toClient = [])
    (hnone : (stubService codecs).outlook y.parties.channels =
      ([], y.parties.channels.server)) :
    (takeMessage (.blocked y) y).image (toLocal codecs) =
      LocalSession.takeReply (.blocked (y.toLocal codecs)) (y.toLocal codecs) := by
  have hserver : (y.toLocal codecs).session.isSome = y.parties.serving := by
    unfold toLocal
    rw [hnone]
    cases hserving : y.parties.serving with
    | false => simp [Parties.channels, hserving]
    | true => simp [Parties.channels, hserving]
  have hreplies : (y.toLocal codecs).replies = [] := by
    unfold toLocal
    rw [hnone]
  unfold takeMessage LocalSession.takeReply
  rw [h, hreplies]
  dsimp only
  rw [hserver]
  cases y.parties.serving with
  | false => rfl
  | true => rfl

theorem readMsg_shows :
    Call.Shows (toLocal codecs) (readMsg codecs) LocalSession.readMsg := by
  intro y
  let y1 := y.interleave codecs
  let y2 : System := { y1 with
    parties := y1.parties.await codecs y1.parties.toServer.length
    waits := y1.waits ++ [y1.parties] }
  have hchannels : y2.parties.channels =
      (stubService codecs).await y1.parties.toServer.length y1.parties.channels :=
    Parties.channels_await y1.parties _
  have hlocal : y2.toLocal codecs = y.toLocal codecs := by
    rw [<- toLocal_interleave y]
    exact toLocal_await y1 _ _
  show (takeMessage (.blocked y2) y2).image (toLocal codecs) =
    LocalSession.takeReply (.blocked (y.toLocal codecs)) (y.toLocal codecs)
  rw [<- hlocal]
  cases hclient : y2.parties.toClient with
  | cons message rest => exact takeMessage_shows hclient _ _
  | nil =>
      apply takeMessage_shows_nil hclient
      have hempty : ((stubService codecs).await y1.parties.toServer.length
          y1.parties.channels).toClient = [] := by
        rw [<- hchannels]
        exact hclient
      have hnone := (stubService codecs).outlook_of_await
        (c := y1.parties.channels) (Nat.le_refl y1.parties.toServer.length) hempty
      rw [<- (stubService codecs).outlook_await _ y1.parties.toServer.length,
        <- hchannels] at hnone
      exact hnone

theorem length_toLocal (y : System) :
    (y.toLocal codecs).replies.length ≤ y.left := by
  have hanswers := length_answers codecs y.parties.channels.server y.parties.toServer
  unfold toLocal left
  rw [Service.outlook, List.length_append]
  exact Nat.add_le_add_left hanswers _

end System

theorem systemLink_shows (codecs : PlaneCodecs) :
    (systemLink codecs).Shows (System.toLocal codecs) (localLink codecs) where
  sendMsg := System.sendMsg_shows
  readMsg := System.readMsg_shows
  malloc := fun _ => rfl
  left := System.length_toLocal

theorem localLink_readMsg {l l' : LocalSession} {message : VTRemoteMsgHeader × Bytes}
    {empty : Outcome AvError LocalSession (VTRemoteMsgHeader × Bytes)}
    (hempty : forall message l', empty ≠ .returned (.ok message) l')
    (h : LocalSession.takeReply empty l = .returned (.ok message) l') :
    l'.replies.length < l.replies.length := by
  unfold LocalSession.takeReply at h
  split at h
  · rename_i hreplies
    cases h
    rw [hreplies]
    exact Nat.lt_succ_self _
  · split at h
    · exact absurd h (hempty message l')
    · cases h

theorem takeReply_left {l : LocalSession}
    {empty : Outcome AvError LocalSession (VTRemoteMsgHeader × Bytes)}
    (hempty : empty.Ends (fun _ l' => l'.replies.length ≤ l.replies.length)
      (fun l' => l'.replies.length ≤ l.replies.length)) :
    (LocalSession.takeReply empty l).Ends
      (fun _ l' => l'.replies.length ≤ l.replies.length)
      (fun l' => l'.replies.length ≤ l.replies.length) := by
  unfold LocalSession.takeReply
  split
  · rename_i hreplies
    rw [hreplies] at hempty ⊢
    exact Nat.le_succ _
  · split
    · exact hempty
    · exact Nat.le_refl _

theorem localLink_consumes (codecs : PlaneCodecs) : (localLink codecs).Consumes where
  moves :=
    { sendMsg := by
        intro type payload hpong l
        subst hpong
        have hanswers := length_answers codecs l.session [⟨.pong, payload.bytes⟩]
        show (l.replies ++ _).length ≤ l.replies.length
        rw [List.length_append]
        exact Nat.add_le_add_left hanswers _
      readMsg := fun l => takeReply_left (Nat.le_refl _)
      readMsgNonblock := fun l => takeReply_left (Nat.le_refl _)
      malloc := fun _ => Nat.le_refl _
      packetRef := fun _ => Nat.le_refl _ }
  readMsg := localLink_readMsg fun _ _ h => nomatch h
  readMsgNonblock := localLink_readMsg fun _ _ h => nomatch h

end VTRemote
