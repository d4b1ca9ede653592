import VTRemote.Client.Delivery

/-!
# What the socket makes of a message

Whether a message is taken, and what the socket will answer behind it, depends on
the schedule of the socket alone.
-/

namespace VTRemote

def Schedule.host (out : Schedule Errno) : Host where
  incoming := []
  outgoing := out
  heap := []
  log := []

namespace Schedule

variable (out : Schedule Errno) (type : VTRemoteMsgType) (payload : Payload)

def result : Except AvError Unit :=
  match vtremoteSendMsg type payload out.host with
  | .returned r _ => r
  | .blocked _ => .ok ()

def behind : Schedule Errno := (vtremoteSendMsg type payload out.host).state.outgoing

def logged : List SendRecord := (vtremoteSendMsg type payload out.host).state.log

def Takes : Prop := out.result type payload = .ok ()

instance : Decidable (out.Takes type payload) :=
  inferInstanceAs (Decidable (_ = _))

def TakesByte : Prop :=
  0 < (push eintr out.broken vtremoteHeaderSize out.next).accepted

instance : Decidable out.TakesByte := inferInstanceAs (Decidable (_ < _))

end Schedule

theorem vtremoteSendMsg_schedule (type : VTRemoteMsgType) (payload : Payload)
    (h : Host) :
    vtremoteSendMsg type payload h =
      .returned (h.outgoing.result type payload)
        { h with
          outgoing := h.outgoing.behind type payload
          log := h.log ++ h.outgoing.logged type payload } := by
  unfold Schedule.result Schedule.behind Schedule.logged vtremoteSendMsg Schedule.host
  dsimp only
  cases hheader : (writeFull (vtremoteWriteHeader (messageHeader type payload))
      h.outgoing).stop with
  | some stop => rfl
  | none =>
      by_cases hempty : payload.bytes.length = 0
      · simp only [if_pos hempty]
        rfl
      · simp only [if_neg hempty]
        cases hbody : (writeFull payload.bytes
            { h.outgoing with
              next := (writeFull (vtremoteWriteHeader (messageHeader type payload))
                h.outgoing).rest }).stop with
        | some stop => rfl
        | none => rfl

theorem Schedule.logged_eq (out : Schedule Errno) (type : VTRemoteMsgType)
    (payload : Payload) :
    exists r, out.logged type payload = [r] ∧ r.type = type ∧ r.payload = payload ∧
      (0 < r.accepted <-> out.TakesByte) := by
  have hheader := writeFull_accepted
    (vtremoteWriteHeader (messageHeader type payload)) out
  unfold Schedule.logged vtremoteSendMsg Schedule.host
  dsimp only
  cases hstop : (writeFull (vtremoteWriteHeader (messageHeader type payload))
      out).stop with
  | some stop => exact ⟨_, rfl, rfl, rfl, Iff.rfl⟩
  | none =>
      rw [hstop] at hheader
      have hall : (writeFull (vtremoteWriteHeader (messageHeader type payload))
          out).accepted = vtremoteHeaderSize := by
        rcases hheader with ⟨_, hall⟩ | ⟨stop, hnone, _⟩
        · exact hall
        · cases hnone
      have htakes : out.TakesByte := by
        show 0 < (writeFull (vtremoteWriteHeader (messageHeader type payload))
          out).accepted
        rw [hall]
        exact Nat.succ_pos 11
      by_cases hempty : payload.bytes.length = 0
      · simp only [if_pos hempty]
        exact ⟨_, rfl, rfl, rfl, Iff.rfl⟩
      · simp only [if_neg hempty]
        have hpos : forall more, 0 < (writeFull (vtremoteWriteHeader
            (messageHeader type payload)) out).accepted + more <-> out.TakesByte :=
          fun more => iff_of_true (Nat.add_pos_left htakes more) htakes
        cases hbody : (writeFull payload.bytes
            { out with
              next := (writeFull (vtremoteWriteHeader (messageHeader type payload))
                out).rest }).stop with
        | some stop => exact ⟨_, rfl, rfl, rfl, hpos _⟩
        | none => exact ⟨_, rfl, rfl, rfl, hpos _⟩

/-!
## Answers to PING
-/

def Schedule.behindPongs : Nat -> Schedule Errno -> Schedule Errno
  | 0, out => out
  | n + 1, out => behindPongs n (out.behind .pong Payload.empty)

def Schedule.loggedPongs : Nat -> Schedule Errno -> List SendRecord
  | 0, _ => []
  | n + 1, out =>
      out.logged .pong Payload.empty ++ loggedPongs n (out.behind .pong Payload.empty)

end VTRemote
