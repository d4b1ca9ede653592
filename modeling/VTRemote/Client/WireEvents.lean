import VTRemote.Client.Delivery
import VTRemote.Client.EncoderMoves

/-!
# What happens on the wire

A socket that remembers, in the order in which it happened, of which messages it
took bytes and which messages were read from it.
-/

namespace VTRemote

attribute [local irreducible] cInt

/-- Some bytes of a message were taken, or a message was read, of a type that is
known or not. -/
inductive WireEvent where
  | wrote (type : VTRemoteMsgType)
  | read (type : Option VTRemoteMsgType)
deriving DecidableEq, Repr

structure Wire where
  host : Host
  events : List WireEvent
deriving DecidableEq

namespace Wire

def observe {α : Type} (m : HostCall α)
    (events : Except AvError α -> Host -> List WireEvent) :
    Call AvError Wire α := fun w =>
  match m w.host with
  | .returned r host => .returned r { host, events := w.events ++ events r host }
  | .blocked host => .blocked { w with host }

def written (type : VTRemoteMsgType) (host : Host) : List WireEvent :=
  match host.log.getLast? with
  | some r => if 0 < r.accepted then [.wrote type] else []
  | none => []

def received : Except AvError (VTRemoteMsgHeader × Bytes) -> List WireEvent
  | .ok (hdr, _) => [.read (VTRemoteMsgType.ofCode hdr.type)]
  | .error _ => []

end Wire

open Wire

def wireLink : Link Wire where
  sendMsg type payload :=
    observe (vtremoteSendMsg type payload) fun _ host => written type host
  readMsg := observe vtremoteReadMsg fun r _ => received r
  readMsgNonblock := observe vtremoteReadMsgNonblock fun r _ => received r
  malloc := observe avMalloc fun _ _ => []
  packetRef := observe avMalloc fun _ _ => []
  left w := arrivalsLeft w.host.incoming

/-!
## The events of one call
-/

def SameEvents (w w' : Wire) : Prop := w'.events = w.events

instance : IsPreorder Wire SameEvents where
  refl _ := rfl
  trans _ _ _ h1 h2 := Eq.trans h2 h1

theorem observe_ends {α : Type} (m : HostCall α)
    (events : Except AvError α -> Host -> List WireEvent) (w : Wire) :
    (observe m events w).Ends
      (fun r w' => w'.events = w.events ++ events r w'.host)
      (SameEvents w) := by
  unfold observe
  cases m w.host with
  | returned r host => rfl
  | blocked host => rfl

theorem wireLink_malloc : Call.Moves SameEvents wireLink.malloc := by
  intro w
  apply (observe_ends avMalloc (fun _ _ => []) w).mono
  · intro _ _ h
    exact h.trans (List.append_nil _)
  · exact fun _ h => h

theorem wireLink_readMsg (w : Wire) :
    (wireLink.readMsg w).Ends (fun r w' => w'.events = w.events ++ received r)
      (SameEvents w) :=
  observe_ends vtremoteReadMsg (fun r _ => received r) w

theorem wireLink_readMsgNonblock (w : Wire) :
    (wireLink.readMsgNonblock w).Ends
      (fun r w' => w'.events = w.events ++ received r) (SameEvents w) :=
  observe_ends vtremoteReadMsgNonblock (fun r _ => received r) w

theorem written_concat (type : VTRemoteMsgType) {host : Host}
    {log : List SendRecord} {r : SendRecord} (hlog : host.log = log ++ [r]) :
    written type host = if 0 < r.accepted then [.wrote type] else [] := by
  unfold written
  rw [hlog, List.getLast?_concat]

/-- Sending returns.  Some of the message is written, or nothing of it and the
call fails. -/
theorem wireLink_sendMsg (type : VTRemoteMsgType) (payload : Payload) (w : Wire) :
    (wireLink.sendMsg type payload w).Ends
      (fun r w' => w'.events = w.events ++ [.wrote type] ∨
        w'.events = w.events ∧ r ≠ .ok ())
      (fun _ => False) := by
  rcases vtremoteSendMsg_sent type payload w.host with ⟨r, result, hsent, heq⟩
  show (observe (vtremoteSendMsg type payload) _ w).Ends _ _
  unfold observe
  rw [heq]
  show w.events ++ written type _ = _ ∨ w.events ++ written type _ = _ ∧ _
  rw [written_concat type rfl]
  split
  · exact .inl rfl
  · rename_i hzero
    refine .inr ⟨List.append_nil _, ?_⟩
    intro h
    subst h
    rcases hsent.result with ⟨_, hcomplete⟩ | ⟨⟨e, herror⟩, _⟩
    · apply hzero
      rw [hcomplete]
      exact Nat.add_pos_left (Nat.succ_pos 11) _
    · cases herror

end VTRemote
