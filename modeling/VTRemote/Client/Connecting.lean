import VTRemote.Client.ConfigureOptions
import VTRemote.Client.Hello
import VTRemote.Library.Ledger

/-!
# Connecting

`connect_hostport` with the descriptors that it opens and closes.  The encoder and the
decoder each have a copy; the copies differ in options of the connected socket only.
-/

namespace VTRemote

/-- The descriptors of the process, and `errno` unless it is 0. -/
structure SocketTable where
  ledger : Ledger
  errno : Option Errno

abbrev TableCall (α : Type) := Call AvError SocketTable α

/-- What there is at an address, with the error number that is left behind. -/
inductive AddressResult where
  | noSocket (e : Errno)
  | notConnected (e : Errno)
  | connected
deriving DecidableEq

abbrev Resolver := Bytes -> Bytes -> Option (List AddressResult)

namespace SocketTable

def openSocket : TableCall Nat := fun t =>
  .returned (.ok t.ledger.next) { t with ledger := t.ledger.acquire }

def closeSocket (fd : Nat) : TableCall Unit :=
  Call.modify fun t => { t with ledger := t.ledger.release fd }

def setErrno (e : Errno) : TableCall Unit := Call.modify fun t => { t with errno := some e }

end SocketTable

open SocketTable

def colon : UInt8 := 58

/-- The host in front of the last colon, and the port behind it. -/
def splitHostport (hostport : Bytes) : Except AvError (Bytes × Bytes) :=
  let port := (hostport.reverse.takeWhile (· ≠ colon)).reverse
  let host := hostport.take (hostport.length - port.length - 1)
  if colon ∉ hostport ∨ host = [] ∨ 16 ≤ port.length ∨ 256 ≤ host.length then
    .error (averror einval)
  else .ok (host, port)

/-- The loop over the addresses; -1 if it connects to none. -/
def connectAddresses : List AddressResult -> TableCall (Option Nat)
  | [] => pure none
  | .noSocket e :: rest => do
      setErrno e
      connectAddresses rest
  | .notConnected e :: rest => do
      let fd ← openSocket
      closeSocket fd
      setErrno e
      connectAddresses rest
  | .connected :: _ => do
      let fd ← openSocket
      pure (some fd)

def connectHostport (getaddrinfo : Resolver) (hostport : Bytes) : TableCall Nat :=
  match splitHostport hostport with
  | .error e => Call.fail e
  | .ok (host, port) =>
      match getaddrinfo host port with
      | none => Call.fail (averror eio)
      | some addresses => do
          match ← connectAddresses addresses with
          | some fd => pure fd
          | none => do
              let t ← Call.get
              Call.fail (averror (t.errno.getD eio))

/-!
## The descriptors
-/

structure Opened (t : SocketTable) (fd : Nat) (t' : SocketTable) : Prop where
  new : fd ∉ t.ledger.held
  held : t'.ledger.held = insert fd t.ledger.held
  faults : t'.ledger.faults = t.ledger.faults

structure SameOpen (t t' : SocketTable) : Prop where
  held : t'.ledger.held = t.ledger.held
  faults : t'.ledger.faults = t.ledger.faults

namespace SameOpen

variable {t t' t2 : SocketTable} {fd : Nat}

theorem refl (t : SocketTable) : SameOpen t t := ⟨rfl, rfl⟩

theorem trans (h : SameOpen t t') (h' : SameOpen t' t2) : SameOpen t t2 where
  held := h'.held.trans h.held
  faults := h'.faults.trans h.faults

theorem opened (h : SameOpen t t') (h' : Opened t' fd t2) : Opened t fd t2 where
  new := h.held ▸ h'.new
  held := h.held ▸ h'.held
  faults := h'.faults.trans h.faults

end SameOpen

theorem Opened.close {t t' : SocketTable} {fd : Nat} (h : Opened t fd t') :
    SameOpen t { t' with ledger := t'.ledger.release fd } := by
  have hmem : fd ∈ t'.ledger.held := by
    rw [h.held]
    exact Finset.mem_insert_self fd _
  constructor
  · show t'.ledger.held.erase fd = t.ledger.held
    rw [h.held]
    exact Finset.erase_insert h.new
  · exact (Ledger.release_faults hmem).trans h.faults

theorem openSocket_opened (t : SocketTable) :
    Opened t t.ledger.next { t with ledger := t.ledger.acquire } where
  new := t.ledger.next_notMem
  held := t.ledger.acquire_held
  faults := t.ledger.acquire_faults

/-- What opening comes to: a descriptor, or an error and all as before. -/
def OpensOne (t : SocketTable) : Except AvError Nat -> SocketTable -> Prop
  | .ok fd, t' => Opened t fd t'
  | .error _, t' => SameOpen t t'

theorem connectAddresses_opens (addresses : List AddressResult) (t : SocketTable) :
    (connectAddresses addresses t).Ends (fun r t' =>
        (exists fd, r = .ok (some fd) ∧ Opened t fd t') ∨
          (r = .ok none ∧ SameOpen t t'))
      (fun _ => False) := by
  induction addresses generalizing t with
  | nil => exact Or.inr ⟨rfl, SameOpen.refl t⟩
  | cons address rest ih =>
      have hrest : forall t1, SameOpen t t1 -> (connectAddresses rest t1).Ends
          (fun r t' => (exists fd, r = .ok (some fd) ∧ Opened t fd t') ∨
            (r = .ok none ∧ SameOpen t t')) (fun _ => False) := by
        intro t1 hsame
        apply (ih t1).mono
        · intro r t' h
          rcases h with h | h
          · rcases h with ⟨fd, hr, hopened⟩
            exact Or.inl ⟨fd, hr, hsame.opened hopened⟩
          · exact Or.inr ⟨h.1, hsame.trans h.2⟩
        · exact fun _ h => h
      cases address with
      | noSocket e => exact hrest _ ⟨rfl, rfl⟩
      | notConnected e =>
          have hclosed := (openSocket_opened t).close
          exact hrest _ ⟨hclosed.held, hclosed.faults⟩
      | connected => exact Or.inl ⟨t.ledger.next, rfl, openSocket_opened t⟩

theorem connectHostport_opens (getaddrinfo : Resolver) (hostport : Bytes)
    (t : SocketTable) :
    (connectHostport getaddrinfo hostport t).Ends (OpensOne t) (fun _ => False) := by
  unfold connectHostport
  cases splitHostport hostport with
  | error e => exact SameOpen.refl t
  | ok address =>
      rcases address with ⟨host, port⟩
      dsimp only
      cases getaddrinfo host port with
      | none => exact SameOpen.refl t
      | some addresses =>
          apply Call.ends_bind (connectAddresses_opens addresses t)
          · intro e t' h
            rcases h with h | h
            · rcases h with ⟨_, hr, _⟩
              cases hr
            · cases h.1
          · intro result t' h
            rcases h with h | h
            · rcases h with ⟨fd, hr, hopened⟩
              cases hr
              exact hopened
            · cases h.1
              exact h.2

end VTRemote
