import VTRemote.Library.PartialRuns
import VTRemote.Server.EncoderCallbacks
import VTRemote.Server.VTRWireConnection

/-!
# Packets in the order of the wire

Callbacks of the encoder run at the same time.  Each is two steps, the one that
asks the tracker and the one that sends the message, and the steps of different
callbacks come in any order.  Between them the main thread sends messages of its
own.  The order that the tracker established is kept exactly by the callbacks
that send in the order in which they asked it.
-/

namespace VTRemote

open EncoderSession TimestampTracker PartialRun

/-!
## Steps
-/

/-- A packet that a callback has to send, with the tracker that it met. -/
structure Emitted (ι : Type) where
  callback : ι
  met : TimestampTracker
  packet : EncodedPacket

def Emitted.call {ι : Type} (e : Emitted ι) : TimestampTracker.Call where
  ptsTicks := e.packet.ptsTicks
  dtsTicks := e.packet.dtsTicks

/-- The callback that sends a message, by its place among those that do. -/
structure Sender (ι : Type) extends Emitted ι where
  index : Nat

/-- One call of `sendMessage`, the bytes that were taken, and whether it
returned.  The main thread is no sender. -/
structure Write (ι : Type) where
  sender : Option (Sender ι)
  type : VTRemoteMsgType
  bodyParts : List (List UInt8)
  taken : List UInt8
  whole : Bool

def Write.bytes {ι : Type} (w : Write ι) : List UInt8 :=
  VTRMessageHeader.encoded
    { type := w.type.code
      length := UInt32.ofNat (w.bodyParts.map List.length).sum } ++
    w.bodyParts.flatten

structure Callbacks (ι : Type) where
  session : EncoderSession
  connection : VTRWireConnection
  emitted : List (Emitted ι) := []
  writes : List (Write ι) := []

inductive CallbackStep (ι : Type) where
  | process (callback : ι) (output : EncoderOutput)
  | send (index : Nat)
  | reply (type : VTRemoteMsgType) (bodyParts : List (List UInt8))

namespace Callbacks

variable {ι : Type} (strerror : Int -> String)

/-- `configure` resets the tracker. -/
def start (session : EncoderSession) (connection : VTRWireConnection) :
    Callbacks ι where
  session := { session with
    timestampTracker := session.timestampTracker.reset }
  connection := connection

def packets (s : Callbacks ι) : List (Sender ι) :=
  s.writes.filterMap fun w => if w.whole then w.sender else none

def senders (s : Callbacks ι) : List (Sender ι) :=
  s.writes.filterMap Write.sender

/-- A message under the lock.  An error that is thrown is logged. -/
def write (s : Callbacks ι) (sender : Option (Sender ι)) (type : VTRemoteMsgType)
    (bodyParts : List (List UInt8)) : Option (Callbacks ι) :=
  match VTRWireConnection.sendMessage strerror type bodyParts s.connection with
  | .returned (.error .trapped) _ => none
  | .returned result connection =>
      let taken := connection.sent.drop s.connection.sent.length
      some { s with
        connection
        writes := s.writes ++
          [{ sender, type, bodyParts, taken, whole := result.isOk }] }
  | .blocked _ => none

/-- There is no step of a callback that has nothing to send or has sent, and
none behind a trap. -/
def step (s : Callbacks ι) : CallbackStep ι -> Option (Callbacks ι)
  | .process callback output =>
      match s.session.outputCallback output with
      | .ok (session, .emitted packet) =>
          let met := s.session.timestampTracker
          some { s with
            session
            emitted := s.emitted ++ [{ callback, met, packet }] }
      | .ok (session, _) => some { s with session }
      | .error _ => none
  | .send index =>
      match s.emitted[index]? with
      | none => none
      | some e =>
          if index ∈ s.senders.map Sender.index then none
          else
            match e.packet.body with
            | .error _ => none
            | .ok body => s.write strerror (some { e with index }) .packet [body]
  | .reply type bodyParts => s.write strerror none type bodyParts

def takes (s : Callbacks ι) (packet : EncodedPacket) : Bool :=
  match packet.body with
  | .error _ => false
  | .ok body =>
      match VTRWireConnection.sendMessage strerror .packet [body] s.connection with
      | .returned (.ok ()) _ => true
      | _ => false

def added (s : Callbacks ι) : CallbackStep ι -> Option (Sender ι)
  | .send index =>
      match s.emitted[index]? with
      | none => none
      | some e => if s.takes strerror e.packet then some { e with index } else none
  | _ => none

/-- What a callback asks the tracker with is presented after the last timestamp
emitted, if there is one. -/
def Presented (s : Callbacks ι) : CallbackStep ι -> Prop
  | .process _ output => forall pts, pts ∈ s.session.presented output ->
      forall e, e ∈ s.emitted.getLast? -> e.packet.dts < pts
  | _ => True

instance (s : Callbacks ι) : DecidablePred s.Presented
  | .process _ output => Option.decidableForallMem (s.session.presented output)
  | .send _ => inferInstanceAs (Decidable True)
  | .reply _ _ => inferInstanceAs (Decidable True)

/-- A packet is written behind those of earlier callbacks only, and its
timestamp is not the smallest tick again. -/
def InTurn (s : Callbacks ι) (a : CallbackStep ι) : Prop :=
  forall w, w ∈ s.added strerror a -> forall v, v ∈ s.packets ->
    v.index < w.index ∧ ¬ w.met.AtSentinel w.call

/-!
## What a step writes
-/

variable {strerror} {s s' : Callbacks ι}

theorem write_eq_some {sender : Option (Sender ι)} {type : VTRemoteMsgType}
    {bodyParts : List (List UInt8)}
    (h : s.write strerror sender type bodyParts = some s') :
    exists w : Write ι, w.sender = sender ∧
      s' = { s with
        connection := s'.connection
        writes := s.writes ++ [w] } ∧
      s'.connection.sent = s.connection.sent ++ w.taken ∧
      w.taken <+: w.bytes ∧ (w.whole = true -> w.taken = w.bytes) := by
  unfold write at h
  split at h
  · cases h
  · rename_i result connection _ hsend
    cases h
    rcases VTRWireConnection.sendMessage_returned strerror hsend with
      ⟨taken, hsent, hbegin, hwhole⟩
    refine ⟨_, rfl, rfl, ?_, ?_, ?_⟩
    · rw [hsent, List.drop_left]
    · rw [hsent, List.drop_left]
      exact hbegin
    · intro hok
      rw [hsent, List.drop_left]
      apply hwhole
      cases result with
      | ok _ => rfl
      | error e => cases hok
  · cases h

theorem process_eq_some {callback : ι} {output : EncoderOutput}
    (h : s.step strerror (.process callback output) = some s') :
    exists fate, s.session.outputCallback output = .ok (s'.session, fate) ∧
      s'.connection = s.connection ∧ s'.writes = s.writes ∧
      ((exists packet, fate = .emitted packet ∧
          s'.emitted = s.emitted ++
            [{ callback, met := s.session.timestampTracker, packet }]) ∨
        ((forall packet, fate ≠ .emitted packet) ∧ s'.emitted = s.emitted)) := by
  unfold step at h
  dsimp only at h
  split at h
  · rename_i session packet hcallback
    cases h
    exact ⟨_, hcallback, rfl, rfl, .inl ⟨packet, rfl, rfl⟩⟩
  · rename_i session fate hnone hcallback
    cases h
    exact ⟨fate, hcallback, rfl, rfl, .inr ⟨hnone, rfl⟩⟩
  · cases h

theorem senders_of_process {callback : ι} {output : EncoderOutput}
    (h : s.step strerror (.process callback output) = some s') :
    s'.senders = s.senders := by
  rcases process_eq_some h with ⟨_, _, _, hwrites, _⟩
  unfold senders
  rw [hwrites]

theorem send_eq_some {index : Nat}
    (h : s.step strerror (.send index) = some s') :
    exists e body, s.emitted[index]? = some e ∧ e.packet.body = .ok body ∧
      s.write strerror (some { e with index }) .packet [body] = some s' := by
  unfold step at h
  dsimp only at h
  split at h
  · cases h
  · rename_i e hindex
    split at h
    · cases h
    · split at h
      · cases h
      · rename_i body hbody
        exact ⟨e, body, hindex, hbody, h⟩

theorem senders_of_write {sender : Option (Sender ι)} {type : VTRemoteMsgType}
    {bodyParts : List (List UInt8)}
    (h : s.write strerror sender type bodyParts = some s') :
    s'.session = s.session ∧ s'.emitted = s.emitted ∧
      s'.senders = s.senders ++ sender.toList := by
  rcases write_eq_some h with ⟨w, hsender, hs', _⟩
  rw [hs']
  refine ⟨rfl, rfl, ?_⟩
  unfold senders
  rw [List.filterMap_append, List.filterMap_cons, hsender]
  cases sender <;> rfl

theorem takes_of_write {e : Emitted ι} {sender : Option (Sender ι)}
    {body : List UInt8} (hbody : e.packet.body = .ok body)
    (h : s.write strerror sender .packet [body] = some s') :
    s'.packets = s.packets ++
      (if s.takes strerror e.packet then sender else none).toList := by
  unfold write at h
  split at h
  · cases h
  · rename_i result connection _ hsend
    have htakes : s.takes strerror e.packet = result.isOk := by
      unfold takes
      rw [hbody]
      dsimp only
      rw [hsend]
      cases result <;> rfl
    cases h
    unfold packets
    rw [htakes, List.filterMap_append]
    cases result with
    | ok _ => cases sender <;> rfl
    | error e => rfl
  · cases h

theorem packets_step {a : CallbackStep ι} (h : s.step strerror a = some s') :
    s'.packets = s.packets ++ (s.added strerror a).toList := by
  cases a with
  | process callback output =>
      rcases process_eq_some h with ⟨_, _, _, hwrites, _⟩
      unfold packets
      rw [hwrites]
      exact (List.append_nil _).symm
  | send index =>
      rcases send_eq_some h with ⟨e, body, hindex, hbody, hwrite⟩
      unfold added
      dsimp only
      rw [hindex]
      exact takes_of_write hbody hwrite
  | reply type bodyParts =>
      rcases write_eq_some h with ⟨w, hsender, hs', _⟩
      rw [hs']
      unfold packets
      rw [List.filterMap_append]
      show _ ++ List.filterMap _ [w] = _
      rw [List.filterMap_cons, hsender, ite_self]
      rfl

theorem emitted_of_added {a : CallbackStep ι} {w : Sender ι}
    (h : s.added strerror a = some w) :
    s.emitted[w.index]? = some w.toEmitted := by
  cases a with
  | process callback output => cases h
  | reply type bodyParts => cases h
  | send index =>
      unfold added at h
      dsimp only at h
      split at h
      · cases h
      · rename_i e hindex
        split at h
        · cases h
          exact hindex
        · cases h

/-!
## Order
-/

structure Before (e f : Emitted ι) : Prop where
  le : e.packet.dts ≤ f.packet.dts
  lt_iff : e.packet.dts < f.packet.dts <-> ¬ f.met.AtSentinel f.call

structure Tracked (s : Callbacks ι) : Prop where
  last : forall e, s.emitted.getLast? = some e ->
    s.session.timestampTracker.lastDtsTicks = e.packet.dts
  le_last : forall e, e ∈ s.emitted ->
    e.packet.dts ≤ s.session.timestampTracker.lastDtsTicks
  ordered : s.emitted.Pairwise Before
  sender : forall w, w ∈ s.packets -> s.emitted[w.index]? = some w.toEmitted

namespace Tracked

theorem emit (ht : s.Tracked) {e : Emitted ι}
    (hemitted : s'.emitted = s.emitted ++ [e])
    (hmet : e.met = s.session.timestampTracker)
    (hprocess : e.met.process e.call.ptsTicks e.call.dtsTicks =
      .ok (.emit e.packet.dts, s'.session.timestampTracker))
    (hpts : forall f, f ∈ s.emitted.getLast? -> f.packet.dts < e.call.ptsTicks)
    (hsender : forall w, w ∈ s'.packets ->
      s.emitted[w.index]? = some w.toEmitted) : s'.Tracked := by
  rcases process_eq_emit hprocess with ⟨hroom, hdts, htracker⟩
  have hlast : s'.session.timestampTracker.lastDtsTicks = e.packet.dts := by
    rw [htracker, hdts]
    rfl
  have hbefore : forall f, f ∈ s.emitted -> Before f e := by
    intro f hf
    have hgetLast := List.getLast?_eq_some_getLast (List.ne_nil_of_mem hf)
    have habove : e.met.lastDtsTicks < e.call.ptsTicks := by
      rw [hmet, ht.last _ hgetLast]
      exact hpts _ hgetLast
    have hle : f.packet.dts ≤ e.met.lastDtsTicks := hmet ▸ ht.le_last f hf
    rcases correctedDts_above hroom habove hle with ⟨hle, hlt⟩
    rw [← hdts] at hle hlt
    exact ⟨hle, hlt⟩
  refine ⟨?_, ?_, ?_, ?_⟩
  · intro f hf
    rw [hemitted, List.getLast?_concat] at hf
    cases hf
    exact hlast
  · intro f hf
    rw [hemitted] at hf
    rw [hlast]
    rcases List.mem_append.mp hf with hold | hnew
    · exact (hbefore f hold).le
    · rw [List.mem_singleton.mp hnew]
      exact Int64.le_refl _
  · rw [hemitted]
    apply List.pairwise_append.mpr
    refine ⟨ht.ordered, List.pairwise_singleton _ e, ?_⟩
    intro f hf g hg
    rw [List.mem_singleton.mp hg]
    exact hbefore f hf
  · intro w hw
    have hold := hsender w hw
    rw [hemitted, List.getElem?_append_left (List.getElem?_eq_some_iff.mp hold).1]
    exact hold

theorem of_same (ht : s.Tracked)
    (htracker : s'.session.timestampTracker = s.session.timestampTracker)
    (hemitted : s'.emitted = s.emitted)
    (hsender : forall w, w ∈ s'.packets ->
      s.emitted[w.index]? = some w.toEmitted) : s'.Tracked where
  last := by
    rw [htracker, hemitted]
    exact ht.last
  le_last := by
    rw [htracker, hemitted]
    exact ht.le_last
  ordered := by
    rw [hemitted]
    exact ht.ordered
  sender := by
    rw [hemitted]
    exact hsender

theorem step (ht : s.Tracked) {a : CallbackStep ι} (hpts : Presented s a)
    (h : s.step strerror a = some s') : s'.Tracked := by
  have hpackets := packets_step h
  cases a with
  | process callback output =>
      rcases process_eq_some h with ⟨fate, hcallback, _, hwrites, hfate⟩
      have hsame : forall w, w ∈ s'.packets ->
          s.emitted[w.index]? = some w.toEmitted := by
        unfold packets
        rw [hwrites]
        exact ht.sender
      rcases outputCallback_tracker hcallback with
        ⟨packet, rfl, hprocess, hpresented⟩ | ⟨hnone, htracker⟩
      · rcases hfate with ⟨_, ⟨⟩, hemitted⟩ | ⟨hnone, _⟩
        · exact ht.emit hemitted rfl hprocess (hpts packet.ptsTicks hpresented) hsame
        · exact absurd rfl (hnone packet)
      · rcases hfate with ⟨packet, hemit, _⟩ | ⟨_, hemitted⟩
        · exact absurd hemit (hnone packet)
        · exact ht.of_same htracker hemitted hsame
  | send index =>
      have hsender : forall w, w ∈ s'.packets ->
          s.emitted[w.index]? = some w.toEmitted := by
        intro w hw
        rw [hpackets] at hw
        rcases List.mem_append.mp hw with hold | hnew
        · exact ht.sender w hold
        · exact emitted_of_added (Option.mem_toList.mp hnew)
      rcases send_eq_some h with ⟨e, body, _, _, hwrite⟩
      rcases senders_of_write hwrite with ⟨hsession, hemitted, _⟩
      exact ht.of_same (congrArg _ hsession) hemitted hsender
  | reply type bodyParts =>
      rw [show s.added strerror (.reply type bodyParts) = none from rfl] at hpackets
      rw [Option.toList_none, List.append_nil] at hpackets
      rcases senders_of_write h with ⟨hsession, hemitted, _⟩
      exact ht.of_same (congrArg _ hsession) hemitted (hpackets ▸ ht.sender)

end Tracked

theorem tracked_start (session : EncoderSession) (connection : VTRWireConnection) :
    Tracked (start (ι := ι) session connection) where
  last := nofun
  le_last := nofun
  ordered := List.Pairwise.nil
  sender := nofun

/-- A packet goes behind another one exactly if its callback asked later, and not
at the sentinel. -/
theorem Tracked.lt_iff (ht : s.Tracked) {v w : Sender ι}
    (hv : s.emitted[v.index]? = some v.toEmitted)
    (hw : s.emitted[w.index]? = some w.toEmitted) :
    v.packet.dts < w.packet.dts <->
      v.index < w.index ∧ ¬ w.met.AtSentinel w.call := by
  rcases List.getElem?_eq_some_iff.mp hv with ⟨hvlen, hvget⟩
  rcases List.getElem?_eq_some_iff.mp hw with ⟨hwlen, hwget⟩
  have hordered := List.pairwise_iff_getElem.mp ht.ordered
  rcases Nat.lt_trichotomy v.index w.index with hlt | heq | hgt
  · have hbefore := hordered _ _ hvlen hwlen hlt
    rw [hvget, hwget] at hbefore
    rw [and_iff_right hlt]
    exact hbefore.lt_iff
  · have hsame : v.toEmitted = w.toEmitted := by
      rw [← hvget, ← hwget]
      exact getElem_congr_idx heq
    refine iff_of_false ?_ (fun h => Nat.ne_of_lt h.1 heq)
    rw [hsame]
    exact Int64.lt_irrefl
  · have hbefore := hordered _ _ hwlen hvlen hgt
    rw [hvget, hwget] at hbefore
    exact iff_of_false (Int64.not_lt.mpr hbefore.le)
      (fun h => Nat.lt_asymm h.1 hgt)

/-!
## The bytes
-/

/-- The connection holds what it held before and the writes one behind another,
each a message from its beginning, and whole unless an error was thrown. -/
structure Contiguous (before : List UInt8) (s : Callbacks ι) : Prop where
  sent : s.connection.sent = before ++ (s.writes.map Write.taken).flatten
  taken : forall w, w ∈ s.writes ->
    w.taken <+: w.bytes ∧ (w.whole = true -> w.taken = w.bytes)

theorem Contiguous.write {before : List UInt8} (hc : s.Contiguous before)
    {sender : Option (Sender ι)} {type : VTRemoteMsgType}
    {bodyParts : List (List UInt8)}
    (h : s.write strerror sender type bodyParts = some s') :
    s'.Contiguous before := by
  rcases write_eq_some h with ⟨w, _, hs', hsent, htaken⟩
  have hwrites : s'.writes = s.writes ++ [w] := by
    rw [hs']
  refine ⟨?_, ?_⟩
  · rw [hsent, hc.sent, hwrites, List.map_append, List.flatten_append]
    rw [List.map_singleton, List.flatten_singleton, List.append_assoc]
  · intro v hv
    rw [hwrites] at hv
    rcases List.mem_append.mp hv with hold | hnew
    · exact hc.taken v hold
    · rw [List.mem_singleton.mp hnew]
      exact htaken

theorem Contiguous.step {before : List UInt8} (hc : s.Contiguous before)
    {a : CallbackStep ι} (h : s.step strerror a = some s') :
    s'.Contiguous before := by
  cases a with
  | process callback output =>
      rcases process_eq_some h with ⟨_, _, hconnection, hwrites, _⟩
      refine ⟨?_, ?_⟩
      · rw [hconnection, hwrites]
        exact hc.sent
      · rw [hwrites]
        exact hc.taken
  | send index =>
      rcases send_eq_some h with ⟨_, _, _, _, hwrite⟩
      exact hc.write hwrite
  | reply type bodyParts => exact hc.write h

/-!
## Every interleaving
-/

/-- The timestamps of the packets on the wire increase, and the messages do not
run into each other. -/
structure InOrder (connection : VTRWireConnection) (s : Callbacks ι) : Prop where
  increasing : (s.packets.map fun w => w.packet.dts).Pairwise (· < ·)
  contiguous : s.Contiguous connection.sent

end Callbacks

open Callbacks

/-- If every callback is presented late enough, the packets are in order exactly
if each one is written behind those of earlier callbacks. -/
theorem packets_in_order_iff {ι : Type} {strerror : Int -> String}
    {session : EncoderSession} {connection : VTRWireConnection}
    {steps : List (CallbackStep ι)} {s : Callbacks ι}
    (hpts : Along (step strerror) Presented (start session connection) steps)
    (hrun : run (step strerror) (start session connection) steps = some s) :
    s.InOrder connection <->
      Along (step strerror) (InTurn strerror) (start session connection) steps := by
  have hstart := tracked_start (ι := ι) session connection
  have hcontiguous : s.Contiguous connection.sent := by
    apply invariant (fun s a s' hc _ h => Contiguous.step hc h) _ hpts hrun
    exact ⟨(List.append_nil _).symm, nofun⟩
  have hlog := log_pairwise_iff
    (R := fun v w : Sender ι => v.packet.dts < w.packet.dts)
    (fun _ _ _ h => packets_step h) hrun
  have hturn := along_congr (Q := fun s a => forall w, w ∈ s.added strerror a ->
      forall v, v ∈ s.packets -> v.packet.dts < w.packet.dts)
    (R := InTurn strerror)
    (fun s a s' ht hp _ h => Tracked.step ht hp h)
    (fun s a ht _ => by
      apply forall_congr'
      intro w
      apply forall_congr'
      intro hw
      apply forall_congr'
      intro v
      apply forall_congr'
      intro hv
      exact ht.lt_iff (ht.sender v hv) (emitted_of_added hw))
    hstart hpts
  rw [← hturn]
  constructor
  · intro h
    exact (hlog.mp (List.pairwise_map.mp h.increasing)).2
  · intro h
    exact ⟨List.pairwise_map.mpr (hlog.mpr ⟨List.Pairwise.nil, h⟩), hcontiguous⟩

def smallOutput (ptsTicks : Int64) : EncoderOutput :=
  .encoded
    { dataBuffer := some [0, 0, 0, 1, 65]
      formatDescription := none
      presentationTimeStamp := ⟨ptsTicks, 1⟩
      decodeTimeStamp := none
      duration := none
      notSync := false }

def smallSession : EncoderSession where
  config := some
    { mode := .encode
      width := 16
      height := 16
      pixelFormat := 1
      wireCompression := 0
      codec := .h264
      timebase := { num := 1, den := 1 } }

def openConnection : VTRWireConnection where
  incoming := []
  outgoing := { next := [], broken := none }
  sent := []
  headerBuf := []
  bodyBuf := []
  errno := 0

/-- The second of two callbacks sends first. -/
private def overtaking : List (CallbackStep Nat) :=
  [.process 7 (smallOutput 1), .process 8 (smallOutput 2), .send 1, .send 0]

private def inTurn : List (CallbackStep Nat) :=
  [.process 7 (smallOutput 1), .process 8 (smallOutput 2), .send 0,
    .reply .pong [], .send 1]

theorem packets_in_order_fails :
    Along (step fun _ => "") Presented (start smallSession openConnection)
        overtaking ∧
      exists s : Callbacks Nat,
        run (step fun _ => "") (start smallSession openConnection) overtaking =
          some s ∧
        ¬ s.InOrder openConnection := by
  have hwritten :
      (run (step fun _ => "") (start smallSession openConnection) overtaking).map
        (fun s => s.packets.map fun w => w.packet.dts) = some [2, 1] := by
    decide +kernel
  refine ⟨by decide +kernel, ?_⟩
  rcases Option.map_eq_some_iff.mp hwritten with ⟨s, hrun, hpackets⟩
  refine ⟨s, hrun, ?_⟩
  intro h
  have hincreasing := h.increasing
  rw [hpackets] at hincreasing
  revert hincreasing
  decide

theorem packets_in_order_iff_in_turn :
    exists s : Callbacks Nat,
      run (step fun _ => "") (start smallSession openConnection) inTurn =
        some s ∧
      (s.InOrder openConnection <->
        Along (step fun _ => "") (InTurn fun _ => "")
          (start smallSession openConnection) inTurn) := by
  have hsome : (run (step fun _ => "") (start smallSession openConnection)
      inTurn).isSome = true := by
    decide +kernel
  rcases Option.isSome_iff_exists.mp hsome with ⟨s, hrun⟩
  exact ⟨s, hrun, packets_in_order_iff (by decide +kernel) hrun⟩

end VTRemote
