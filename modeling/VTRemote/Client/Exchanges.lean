import VTRemote.Client.EncoderSteps

/-!
# What a client exchanges with its server

A connection that remembers which messages were sent and read on it whole, and
which allocations were granted.  What the server and the allocator do is
arbitrary.
-/

namespace VTRemote

attribute [local irreducible] cInt

inductive Exchange where
  | sent (type : VTRemoteMsgType)
  | read (hdr : VTRemoteMsgHeader) (payload : Bytes)
  | allocated (granted : Bool)
  | referenced (granted : Bool)
deriving DecidableEq, Repr

structure Watched (σ : Type) where
  fd : σ
  events : List Exchange

namespace Watched

variable {σ : Type}

/-- A call on the connection, and what it adds to the events when it returns. -/
def watch {α : Type} (m : Call AvError σ α)
    (events : Except AvError α -> List Exchange) : Call AvError (Watched σ) α :=
  fun w =>
    match m w.fd with
    | .returned r fd => .returned r { fd, events := w.events ++ events r }
    | .blocked fd => .blocked { w with fd }

def sentEvents (type : VTRemoteMsgType) : Except AvError Unit -> List Exchange
  | .ok _ => [.sent type]
  | .error _ => []

def readEvents : Except AvError (VTRemoteMsgHeader × Bytes) -> List Exchange
  | .ok (hdr, payload) => [.read hdr payload]
  | .error _ => []

end Watched

open Watched

def watchedLink {σ : Type} (link : Link σ) : Link (Watched σ) where
  sendMsg type payload := watch (link.sendMsg type payload) (sentEvents type)
  readMsg := watch link.readMsg readEvents
  readMsgNonblock := watch link.readMsgNonblock readEvents
  malloc := watch link.malloc fun r => [.allocated r.isOk]
  packetRef := watch link.packetRef fun r => [.referenced r.isOk]
  left w := link.left w.fd

/-!
## Messages with packets
-/

def Exchange.isPacket : Exchange -> Bool
  | .read hdr _ => VTRemoteMsgType.ofCode hdr.type = some .packet
  | _ => false

def VTRemotePacketView.incoming (view : VTRemotePacketView) : Option AVPacket :=
  if view.Allocatable then some view.described else none

/-- The packet of a message for which `enqueue_packet` asks for memory. -/
def incomingPacket (hdr : VTRemoteMsgHeader) (payload : Bytes) : Option AVPacket :=
  if VTRemoteMsgType.ofCode hdr.type = some .packet then
    (vtremoteParsePacket payload (cInt hdr.length.toNat)).toOption.bind
      VTRemotePacketView.incoming
  else none

/-- Neither the packets in the queue nor the frames on their way change. -/
def Exchange.Idle : Exchange -> Prop
  | .sent type => type ≠ .frame
  | .read hdr _ => VTRemoteMsgType.ofCode hdr.type ≠ some .packet
  | .allocated _ => True
  | .referenced _ => False

theorem Exchange.Idle.not_packet {e : Exchange} (h : e.Idle) :
    e.isPacket = false := by
  cases e with
  | read hdr payload => exact decide_eq_false h
  | sent type => rfl
  | allocated granted => rfl
  | referenced granted => rfl

/-!
## The events of one call
-/

section Watching

variable {σ : Type} {link : Link σ}

theorem watch_ends {α : Type} (m : Call AvError σ α)
    (events : Except AvError α -> List Exchange) (w : Watched σ) :
    (watch m events w).Ends (fun r w' => w'.events = w.events ++ events r)
      (fun w' => w'.events = w.events) := by
  unfold watch
  cases m w.fd with
  | returned r fd => rfl
  | blocked fd => rfl

def Lingers (w w' : Watched σ) : Prop :=
  exists more, (forall e, e ∈ more -> e.Idle) ∧ w'.events = w.events ++ more

theorem lingers_of_same {w w' : Watched σ} (h : w'.events = w.events) :
    Lingers w w' :=
  ⟨[], fun _ he => absurd he List.not_mem_nil, h.trans (List.append_nil _).symm⟩

theorem lingers_of_idle {e : Exchange} {w w' : Watched σ} (he : e.Idle)
    (h : w'.events = w.events ++ [e]) : Lingers w w' := by
  refine ⟨[e], ?_, h⟩
  intro f hf
  rw [List.mem_singleton.mp hf]
  exact he

instance : IsPreorder (Watched σ) Lingers where
  refl _ := lingers_of_same rfl
  trans _ _ _ := by
    intro h h'
    rcases h with ⟨more, hidle, hevents⟩
    rcases h' with ⟨more', hidle', hevents'⟩
    refine ⟨more ++ more', ?_, ?_⟩
    · intro e he
      rcases List.mem_append.mp he with he | he
      · exact hidle e he
      · exact hidle' e he
    · rw [hevents', hevents, List.append_assoc]

theorem watchedLink_malloc : Call.Moves Lingers (watchedLink link).malloc := by
  intro w
  apply (watch_ends link.malloc (fun r => [.allocated r.isOk]) w).mono
  · exact fun _ _ => lingers_of_idle trivial
  · exact fun _ => lingers_of_same

theorem watchedLink_sendMsg {type : VTRemoteMsgType} (htype : type ≠ .frame)
    (payload : Payload) :
    Call.Moves Lingers ((watchedLink link).sendMsg type payload) := by
  intro w
  apply (watch_ends (link.sendMsg type payload) (sentEvents type) w).mono
  · intro r w' h
    cases r with
    | ok _ =>
        have hidle : (Exchange.sent type).Idle := htype
        exact lingers_of_idle hidle h
    | error e => exact lingers_of_same (h.trans (List.append_nil _))
  · exact fun _ => lingers_of_same

end Watching
end VTRemote
