import VTRemote.Client.EncoderFuel
import VTRemote.System.ChannelServer

/-!
# The client at its channels

What the operations of `systemLink` do while the server owes packets, and that
they use up what the loops of the client are bounded by.
-/

namespace VTRemote

attribute [local irreducible] cInt

open TimestampTracker

/-!
## The bound of the loops
-/

theorem handleMessage_replies {codecs : PlaneCodecs}
    {session session' : StubCodecSession} {message : ChannelMessage}
    {replies : List ChannelMessage}
    (h : handleMessage codecs session message = .ok (session', replies)) :
    replies.length ≤ if message.type = .pong then 0 else 1 := by
  have hreply : forall {type result},
      sendReply type result = .ok (session', replies) -> replies.length ≤ 1 := by
    intro type result hsend
    rcases result with ⟨session1, body⟩
    cases body with
    | none =>
        cases hsend
        exact Nat.zero_le 1
    | some body =>
        rcases swift_bind_eq_ok hsend with ⟨reply, _, hpure⟩
        cases hpure
        exact Nat.le_refl 1
  unfold handleMessage at h
  cases htype : message.type with
  | frame =>
      rw [htype] at h
      rcases swift_bind_eq_ok h with ⟨result, _, hsend⟩
      exact hreply hsend
  | packet =>
      rw [htype] at h
      rcases swift_bind_eq_ok h with ⟨result, _, hsend⟩
      exact hreply hsend
  | flush =>
      rw [htype] at h
      exact hreply h
  | ping =>
      rw [htype] at h
      exact hreply h
  | _ =>
      rw [htype] at h
      cases h
      exact Nat.zero_le _

namespace Parties

variable {codecs : PlaneCodecs}

/-- The messages in the channels that the client may still read, or the server
answer. -/
def pending (p : Parties) : Nat :=
  p.toClient.length +
    (p.toServer.filter fun message => message.type ≠ .pong).length

theorem pending_serverStep (p : Parties) :
    (p.serverStep codecs).pending ≤ p.pending := by
  rcases p with ⟨toServer, toClient, session, serving⟩
  cases serving with
  | false => exact Nat.le_refl _
  | true =>
  cases toServer with
  | nil => exact Nat.le_refl _
  | cons message rest =>
      have hrest : (rest.filter fun message => message.type ≠ .pong).length +
          (if message.type = .pong then 0 else 1) =
            ((message :: rest).filter
              fun message => message.type ≠ .pong).length := by
        by_cases hpong : message.type = .pong
        · simp [hpong]
        · simp [hpong]
      unfold serverStep pending
      simp only
      rw [<- hrest]
      split
      · rename_i session' replies hhandle
        have hlen := handleMessage_replies hhandle
        simp only [List.length_append]
        omega
      · simp only
        omega

theorem pending_after (p : Parties) (n : Nat) :
    (p.after codecs n).pending ≤ p.pending := by
  induction n generalizing p with
  | zero => exact Nat.le_refl _
  | succ n ih => exact Nat.le_trans (ih _) (pending_serverStep p)

theorem pending_await (p : Parties) (n : Nat) :
    (await codecs n p).pending ≤ p.pending := by
  induction n generalizing p with
  | zero => exact Nat.le_refl _
  | succ n ih =>
      unfold await
      split
      · exact Nat.le_trans (ih _) (pending_serverStep p)
      · exact Nat.le_refl _

end Parties

namespace System

variable {codecs : PlaneCodecs}

theorem left_interleave (y : System) : (y.interleave codecs).left ≤ y.left :=
  y.parties.pending_after _

theorem takeMessage_left {empty : Outcome AvError System
      (VTRemoteMsgHeader × Bytes)} {y : System}
    (hempty : empty.Ends (fun r y' => y'.left ≤ y.left ∧ r.isOk = false)
      (fun y' => y'.left ≤ y.left)) :
    (takeMessage empty y).Ends
      (fun r y' => y'.left ≤ y.left ∧ (r.isOk = true -> y'.left < y.left))
      (fun y' => y'.left ≤ y.left) := by
  unfold takeMessage
  split
  · rename_i message rest hclient
    have hlt : ({ y with parties := { y.parties with toClient := rest } } :
        System).left < y.left := by
      show rest.length + _ < y.parties.toClient.length + _
      rw [hclient]
      exact Nat.add_lt_add_right (Nat.lt_succ_self _) _
    exact ⟨Nat.le_of_lt hlt, fun _ => hlt⟩
  · split
    · apply hempty.mono
      · intro r y' h
        rcases h with ⟨hle, herror⟩
        exact ⟨hle, fun hok => absurd hok (by simp [herror])⟩
      · exact fun _ h => h
    · exact ⟨Nat.le_refl _, fun hok => absurd hok Bool.false_ne_true⟩

end System

theorem systemLink_consumes (codecs : PlaneCodecs) :
    (systemLink codecs).Consumes := by
  have hread : forall y : System, ((systemLink codecs).readMsg y).Ends
      (fun r y' => y'.left ≤ y.left ∧ (r.isOk = true -> y'.left < y.left))
      (fun y' => y'.left ≤ y.left) := by
    intro y
    have hwait : ({ y.interleave codecs with
        parties := (y.interleave codecs).parties.await codecs
          (y.interleave codecs).parties.toServer.length
        waits := (y.interleave codecs).waits ++
          [(y.interleave codecs).parties] } : System).left ≤ y.left :=
      Nat.le_trans (Parties.pending_await _ _) y.left_interleave
    apply (System.takeMessage_left (Nat.le_refl _)).mono
    · intro r y' h
      rcases h with ⟨hle, hok⟩
      exact ⟨Nat.le_trans hle hwait,
        fun h => Nat.lt_of_lt_of_le (hok h) hwait⟩
    · intro y' hle
      exact Nat.le_trans hle hwait
  have hpoll : forall y : System, ((systemLink codecs).readMsgNonblock y).Ends
      (fun r y' => y'.left ≤ y.left ∧ (r.isOk = true -> y'.left < y.left))
      (fun y' => y'.left ≤ y.left) := by
    intro y
    have hle : (y.interleave codecs).left ≤ y.left := y.left_interleave
    have hagain : (Outcome.returned (.error (averror eagain))
        (y.interleave codecs) : Outcome AvError System
          (VTRemoteMsgHeader × Bytes)).Ends
        (fun r y' => y'.left ≤ (y.interleave codecs).left ∧ r.isOk = false)
        (fun y' => y'.left ≤ (y.interleave codecs).left) :=
      ⟨Nat.le_refl _, rfl⟩
    apply (System.takeMessage_left hagain).mono
    · intro r y' h
      rcases h with ⟨hle', hok⟩
      exact ⟨Nat.le_trans hle' hle, fun h => Nat.lt_of_lt_of_le (hok h) hle⟩
    · intro y' hle'
      exact Nat.le_trans hle' hle
  constructor
  · constructor
    · intro type payload h y
      subst h
      show (y.interleave codecs).parties.toClient.length +
        (((y.interleave codecs).parties.toServer ++ [_]).filter _).length ≤
          y.left
      rw [List.filter_append]
      have hle : (y.interleave codecs).left ≤ y.left := y.left_interleave
      simpa [System.left] using hle
    · intro y
      exact (hread y).mono (fun _ _ h => h.1) (fun _ h => h)
    · intro y
      exact (hpoll y).mono (fun _ _ h => h.1) (fun _ h => h)
    · exact fun _ => Nat.le_refl _
    · exact fun _ => Nat.le_refl _
  · intro y y' message hreturned
    have h := hread y
    rw [hreturned] at h
    exact h.2 rfl
  · intro y y' message hreturned
    have h := hpoll y
    rw [hreturned] at h
    exact h.2 rfl

/-!
## Reading and sending while the server owes packets
-/

namespace System

variable {codecs : PlaneCodecs} {configuration : SessionConfiguration}
  {y : System} {last pts : Int64} {owed : Nat}

/-- The server goes round only while the client waits, and no message is left
over from that. -/
def Late (y : System) : Prop := y.schedule = [] ∧ y.parties.toClient = []

theorem Late.interleave (h : y.Late) : y.interleave codecs = y := by
  rcases y with ⟨parties, schedule, waits⟩
  rcases h with ⟨hschedule, _⟩
  simp only at hschedule
  subst hschedule
  rfl

theorem await_toClient_le (p : Parties) (h : p.toClient.length ≤ 1) (n : Nat) :
    (p.await codecs n).toClient.length ≤ 1 := by
  induction n generalizing p with
  | zero => exact h
  | succ n ih =>
      unfold Parties.await
      split
      · rename_i hnil
        apply ih
        unfold Parties.serverStep
        split
        · rename_i message rest _ _
          split
          · rename_i hhandle
            have hlen := handleMessage_replies hhandle
            simp only [hnil, List.nil_append]
            split at hlen
            · exact Nat.le_trans hlen (Nat.zero_le 1)
            · exact hlen
          · exact h
        · exact h
      · exact h

theorem serves_take {p : Parties} {message : ChannelMessage}
    {rest : List ChannelMessage}
    (h : Serves codecs configuration p last owed)
    (hclient : p.toClient = message :: rest) :
    exists owed', owed = owed' + 1 ∧ QueueablePacket message ∧
      Serves codecs configuration { p with toClient := rest } last owed' := by
  rcases h with ⟨hserving, ⟨first, n, hsession, hincoming, howed⟩, hpackets⟩
  rw [hclient] at howed hpackets
  refine ⟨rest.length + n, ?_, hpackets message List.mem_cons_self, hserving,
    ⟨first, n, hsession, hincoming, rfl⟩, ?_⟩
  · rw [howed, List.length_cons, Nat.add_right_comm]
  · exact fun packet hmem => hpackets packet (List.mem_cons_of_mem message hmem)

variable (hmode : configuration.mode = .encode)
include hmode

inductive Polled (codecs : PlaneCodecs) (configuration : SessionConfiguration)
    (y : System) (last : Int64) (owed : Nat) :
    Outcome AvError System (VTRemoteMsgHeader × Bytes) -> Prop where
  | empty {y' : System} (hserves : Serves codecs configuration y'.parties last owed)
      (hwaits : y'.waits = y.waits) (hlate : y.Late -> y'.Late) :
      Polled codecs configuration y last owed
        (.returned (.error (averror eagain)) y')
  | packet {y' : System} {message : ChannelMessage} {owed' : Nat}
      (howed : owed = owed' + 1) (hmessage : QueueablePacket message)
      (hserves : Serves codecs configuration y'.parties last owed')
      (hwaits : y'.waits = y.waits) (hlate : ¬ y.Late) :
      Polled codecs configuration y last owed
        (.returned (.ok (message.header, message.body)) y')

theorem readMsgNonblock_polled (h : Serves codecs configuration y.parties last owed) :
    Polled codecs configuration y last owed (y.readMsgNonblock codecs) := by
  have hserves : Serves codecs configuration (y.interleave codecs).parties last
      owed := h.after hmode _
  unfold readMsgNonblock takeMessage
  simp only
  split
  · rename_i message rest hclient
    rcases serves_take hserves hclient with ⟨owed', howed, hmessage, hrest⟩
    refine .packet howed hmessage hrest rfl ?_
    intro hlate
    rw [hlate.interleave, hlate.2] at hclient
    cases hclient
  · rw [if_pos hserves.serving]
    refine .empty hserves rfl ?_
    intro hlate
    rw [hlate.interleave]
    exact hlate

theorem readMsg_owed (h : Serves codecs configuration y.parties last (owed + 1)) :
    exists message y' p, y.readMsg codecs =
        .returned (.ok (message.header, message.body)) y' ∧
      QueueablePacket message ∧ Serves codecs configuration y'.parties last owed ∧
      y'.waits = y.waits ++ [p] ∧ p.SomethingOwed codecs ∧
      (y.Late -> y'.Late) := by
  have hserves : Serves codecs configuration (y.interleave codecs).parties last
      (owed + 1) := h.after hmode _
  rcases hserves.await hmode (Nat.le_refl _) with ⟨hawait, hsome⟩
  rcases List.exists_cons_of_ne_nil (hsome (Nat.succ_pos owed)) with
    ⟨message, rest, hclient⟩
  rcases serves_take hawait hclient with ⟨owed', howed, hmessage, hrest⟩
  rw [<- Nat.succ.inj howed] at hrest
  have hread : y.readMsg codecs =
      .returned (.ok (message.header, message.body))
        { y.interleave codecs with
          parties := { (y.interleave codecs).parties.await codecs
            (y.interleave codecs).parties.toServer.length with toClient := rest }
          waits := y.waits ++ [(y.interleave codecs).parties] } := by
    unfold readMsg takeMessage
    simp only [hclient]
    rfl
  refine ⟨message, _, (y.interleave codecs).parties, hread, hmessage, hrest, rfl,
    (hserves.somethingOwed_iff hmode).mpr (Nat.succ_pos owed), ?_⟩
  · intro hlate
    have hnone : (y.interleave codecs).parties.toClient.length ≤ 1 := by
      rw [hlate.interleave, hlate.2]
      exact Nat.zero_le 1
    have hle : ((y.interleave codecs).parties.await codecs
        (y.interleave codecs).parties.toServer.length).toClient.length ≤ 1 :=
      await_toClient_le _ hnone _
    rw [hclient] at hle
    refine ⟨?_, List.eq_nil_of_length_eq_zero
      (Nat.le_zero.mp (Nat.le_of_succ_le_succ hle))⟩
    show (y.interleave codecs).schedule = []
    rw [hlate.interleave]
    exact hlate.1

/-- A read that waits when nothing is owed waits for good. -/
theorem readMsg_unowed (h : Serves codecs configuration y.parties last 0) :
    exists y' p, y.readMsg codecs = .blocked y' ∧
      y'.waits = y.waits ++ [p] ∧ ¬ p.SomethingOwed codecs := by
  have hserves : Serves codecs configuration (y.interleave codecs).parties last
      0 := h.after hmode _
  have hawait := (hserves.await hmode (Nat.le_refl _)).1
  rcases hawait.incoming with ⟨_, n, _, _, hcount⟩
  have hclient : ((y.interleave codecs).parties.await codecs
      (y.interleave codecs).parties.toServer.length).toClient = [] :=
    List.eq_nil_of_length_eq_zero (by omega)
  have hread : y.readMsg codecs = .blocked
      { y.interleave codecs with
        parties := (y.interleave codecs).parties.await codecs
          (y.interleave codecs).parties.toServer.length
        waits := y.waits ++ [(y.interleave codecs).parties] } := by
    unfold readMsg takeMessage
    simp only [hclient, hawait.serving]
    rfl
  refine ⟨_, (y.interleave codecs).parties, hread, rfl, ?_⟩
  intro howed
  exact Nat.lt_irrefl 0 ((hserves.somethingOwed_iff hmode).mp howed)

omit hmode in
theorem sendMsg_late (h : y.Late) {type : VTRemoteMsgType} {payload : Payload}
    {y' : System} {r : Except AvError Unit}
    (hsend : y.sendMsg codecs type payload = .returned r y') : y'.Late := by
  unfold sendMsg at hsend
  rw [h.interleave] at hsend
  cases hsend
  exact h

theorem sendMsg_fresh {payload : Payload}
    (h : Serves codecs configuration y.parties last owed) (hfresh : Fresh last pts)
    (hmessage : FrameAt codecs configuration ⟨.frame, payload.bytes⟩ pts) :
    exists y', y.sendMsg codecs .frame payload = .returned (.ok ()) y' ∧
      Serves codecs configuration y'.parties pts (owed + 1) ∧
      y'.waits = y.waits := by
  have hserves : Serves codecs configuration (y.interleave codecs).parties last
      owed := h.after hmode _
  rcases hserves with ⟨hserving, ⟨first, n, hsession, hincoming, howed⟩, hpackets⟩
  refine ⟨_, rfl, ⟨hserving, ⟨first, n + 1, hsession,
    hincoming.answer hfresh hmessage, ?_⟩, hpackets⟩, rfl⟩
  rw [howed]
  rfl

theorem sendMsg_again {payload : Payload}
    (h : Serves codecs configuration y.parties last owed)
    (hlast : last ≠ Int64.minValue)
    (hmessage : FrameAt codecs configuration ⟨.frame, payload.bytes⟩ last) :
    exists y', y.sendMsg codecs .frame payload = .returned (.ok ()) y' ∧
      Serves codecs configuration y'.parties last owed ∧
      y'.waits = y.waits := by
  have hserves : Serves codecs configuration (y.interleave codecs).parties last
      owed := h.after hmode _
  rcases hserves with ⟨hserving, ⟨first, n, hsession, hincoming, howed⟩, hpackets⟩
  exact ⟨_, rfl, ⟨hserving, ⟨first, n, hsession,
    hincoming.skip hlast hmessage, howed⟩, hpackets⟩, rfl⟩

end System
end VTRemote
