import VTRemote.Client.SendableFrames
import VTRemote.System.Channels

/-!
# What the server owes

A stub session in encode mode answers a FRAME with a PACKET unless its tracker
has just seen the same timestamp.  The number of answers that are still due to
the client is determined by the messages in the two channels, and no step of the
server changes it.
-/

namespace VTRemote

attribute [local irreducible] cInt

/-!
## One FRAME
-/

namespace TimestampTracker

/-- A timestamp that the tracker does not skip behind `last`, if timestamps
increase. -/
def Fresh (last pts : Int64) : Prop := last < pts ∨ last = Int64.minValue

instance (last pts : Int64) : Decidable (Fresh last pts) :=
  inferInstanceAs (Decidable (_ ∨ _))

def behind (pts : Int64) : TimestampTracker where
  lastDtsTicks := pts
  lastPtsTicks := pts

theorem clampToPts_self (pts : Int64) : clampToPts pts pts = pts := by
  unfold clampToPts
  exact ite_self pts

theorem process_fresh {last pts : Int64} (h : Fresh last pts) :
    (behind last).process pts pts = .ok (.emit pts, behind pts) := by
  have hnew : ¬ (pts = last ∧ last ≠ Int64.minValue) := by
    intro h
    rcases h with ⟨rfl, hne⟩
    rcases h with hlt | hmin
    · exact Int64.lt_irrefl hlt
    · exact hne hmin
  have hdts : ¬ (last ≠ Int64.minValue ∧ pts ≤ last) := by
    intro h
    rcases h with ⟨hne, hle⟩
    rcases h with hlt | hmin
    · exact Int64.not_le.mpr hlt hle
    · exact hne hmin
  unfold process behind
  simp only [if_neg hnew, clampToPts_self, if_neg hdts, pure_bind]
  rfl

theorem process_again {pts : Int64} (h : pts ≠ Int64.minValue) :
    (behind pts).process pts pts = .ok (.skip, behind pts) := by
  unfold process behind
  rw [if_pos ⟨rfl, h⟩]
  rfl

end TimestampTracker

open TimestampTracker StubCodecSession

section Server

theorem swift_ok_bind {α β : Type} (a : α) (next : α -> Except Failure β) :
    (Except.ok a >>= next) = next a := rfl

variable (codecs : PlaneCodecs) (configuration : SessionConfiguration)

def sessionBehind (pts : Int64) : StubCodecSession where
  config := some configuration
  timestampTracker := behind pts

structure FrameAt (message : ChannelMessage) (pts : Int64) : Prop where
  type : message.type = .frame
  reads : exists frame r, readStubFrame codecs configuration.wireCompression
    (ByteReader.init message.body) = .ok (frame, r) ∧ frame.pts = pts

structure QueueablePacket (message : ChannelMessage) : Prop where
  type : message.type = .packet
  parsed : exists view, vtremoteParsePacket message.body
    (cInt message.header.length.toNat) = .ok view ∧ view.Allocatable

variable {codecs} {configuration}
variable (hmode : configuration.mode = .encode)
include hmode

theorem handleMessage_fresh {message : ChannelMessage} {last pts : Int64}
    (hmessage : FrameAt codecs configuration message pts)
    (hfresh : Fresh last pts) :
    exists reply, handleMessage codecs (sessionBehind configuration last)
        message = .ok (sessionBehind configuration pts, [reply]) ∧
      QueueablePacket reply := by
  rcases hmessage with ⟨htype, frame, r, hread, rfl⟩
  rcases packetBody_parsed frame.pts frame.pts frame.dur frame.flags
    frame.planes with ⟨body, view, hbody, hshort, hparse, hlen⟩
  have hanswer : (sessionBehind configuration last).handleFrameMessage codecs
      message.body = .ok (sessionBehind configuration frame.pts, some body) := by
    unfold handleFrameMessage sessionBehind
    simp only [hmode, ne_eq, not_true_eq_false, if_false]
    rw [hread, swift_ok_bind]
    simp only
    rw [process_fresh hfresh, swift_ok_bind]
    simp only
    rw [hbody, swift_ok_bind]
    rfl
  have hcount : swiftUInt32 body.length = .ok (UInt32.ofNat body.length) :=
    if_pos (Nat.le_trans hshort (by decide))
  have hsend : sendMessage .packet body = .ok ⟨.packet, body⟩ := by
    unfold sendMessage
    rw [hcount]
    rfl
  have hlength : cInt (UInt32.ofNat body.length).toNat = body.length :=
    cInt_uint32_ofNat (by unfold maxAllocSize at hshort; omega)
  have hsmall : cInt view.dataLen.toNat = view.dataLen.toNat :=
    cInt_natCast (by omega)
  refine ⟨⟨.packet, body⟩, ?_, rfl, view, ?_, ?_⟩
  · unfold handleMessage
    rw [htype]
    simp only
    rw [hanswer, swift_ok_bind]
    unfold sendReply
    simp only
    rw [hsend]
    rfl
  · show vtremoteParsePacket body (cInt (UInt32.ofNat body.length).toNat) = _
    rw [hlength]
    exact hparse
  · unfold VTRemotePacketView.Allocatable intMax avInputBufferPaddingSize
    rw [hsmall]
    omega

theorem handleMessage_again {message : ChannelMessage} {pts : Int64}
    (hmessage : FrameAt codecs configuration message pts)
    (hpts : pts ≠ Int64.minValue) :
    handleMessage codecs (sessionBehind configuration pts) message =
      .ok (sessionBehind configuration pts, []) := by
  rcases hmessage with ⟨htype, frame, r, hread, rfl⟩
  have hskip : (sessionBehind configuration frame.pts).handleFrameMessage codecs
      message.body = .ok (sessionBehind configuration frame.pts, none) := by
    unfold handleFrameMessage sessionBehind
    simp only [hmode, ne_eq, not_true_eq_false, if_false]
    rw [hread, swift_ok_bind]
    simp only
    rw [process_again hpts, swift_ok_bind]
    rfl
  unfold handleMessage
  rw [htype]
  simp only
  rw [hskip]
  rfl

omit hmode in
variable (codecs) in
/-- Behind the pointers of the frame are its planes, and the stub gets data for
the planes that the client sends. -/
structure Decodable (libs : CompressionLibraries) (wireCompression : Int)
    (frame : AVFrame) : Prop where
  backed : frame.Backed
  decodes : forall plane0 plane1,
    sendPlanes libs wireCompression frame = some (plane0, plane1) ->
      (exists data, Decodes codecs wireCompression plane0.cut.toWire data) ∧
      exists data, Decodes codecs wireCompression plane1.cut.toWire data

omit hmode in
theorem Decodable.frameAt {libs : CompressionLibraries} {frame : AVFrame}
    {plane0 plane1 : FramePlane}
    (h : Decodable codecs libs configuration.wireCompression frame)
    (hplanes : sendPlanes libs configuration.wireCompression frame =
      some (plane0, plane1)) :
    FrameAt codecs configuration
      ⟨.frame, frameMessage frame plane0 plane1⟩ frame.pts := by
  rcases sendPlanes_eq_some hplanes with ⟨hplane0, hplane1⟩
  rcases h.decodes plane0 plane1 hplanes with
    ⟨⟨data0, hdata0⟩, ⟨data1, hdata1⟩⟩
  have hfits : (sentFrame frame [plane0, plane1]).Fits :=
    sentFrame_fits (sendPlane_size_le h.backed hplane0)
      (sendPlane_size_le h.backed hplane1)
  rcases readStubFrame_encode rfl hfits hdata0 hdata1
    (ByteReader.ahead_init (sentFrame frame [plane0, plane1]).encode) with
    ⟨r, hread⟩
  refine ⟨rfl, _, r, hread, ?_⟩
  exact frame.pts.toInt64_toUInt64

/-!
## The channel to the server
-/

omit hmode

variable (codecs configuration) in
/-- FRAMEs on their way to a tracker that has seen the first timestamp: they
leave it at the second, and so many of them will be answered. -/
inductive Incoming : Int64 -> List ChannelMessage -> Int64 -> Nat -> Prop where
  | nil (last : Int64) : Incoming last [] last 0
  | answered {last pts last' : Int64} {message : ChannelMessage}
      {rest : List ChannelMessage} {n : Nat} (hfresh : Fresh last pts)
      (hmessage : FrameAt codecs configuration message pts)
      (hrest : Incoming pts rest last' n) :
      Incoming last (message :: rest) last' (n + 1)
  | skipped {last last' : Int64} {message : ChannelMessage}
      {rest : List ChannelMessage} {n : Nat} (hlast : last ≠ Int64.minValue)
      (hmessage : FrameAt codecs configuration message last)
      (hrest : Incoming last rest last' n) :
      Incoming last (message :: rest) last' n

theorem Incoming.answer {first last pts : Int64}
    {messages : List ChannelMessage} {message : ChannelMessage} {n : Nat}
    (h : Incoming codecs configuration first messages last n)
    (hfresh : Fresh last pts) (hmessage : FrameAt codecs configuration message pts) :
    Incoming codecs configuration first (messages ++ [message]) pts (n + 1) := by
  induction h with
  | nil last => exact .answered hfresh hmessage (.nil pts)
  | answered hfresh' hmessage' _ ih => exact .answered hfresh' hmessage' (ih hfresh)
  | skipped hlast hmessage' _ ih => exact .skipped hlast hmessage' (ih hfresh)

theorem Incoming.skip {first last : Int64} {messages : List ChannelMessage}
    {message : ChannelMessage} {n : Nat}
    (h : Incoming codecs configuration first messages last n)
    (hlast : last ≠ Int64.minValue)
    (hmessage : FrameAt codecs configuration message last) :
    Incoming codecs configuration first (messages ++ [message]) last n := by
  induction h with
  | nil last => exact .skipped hlast hmessage (.nil last)
  | answered hfresh hmessage' _ ih => exact .answered hfresh hmessage' (ih hlast hmessage)
  | skipped hlast' hmessage' _ ih => exact .skipped hlast' hmessage' (ih hlast hmessage)

variable (codecs configuration) in
/-- The server goes round its loop, the last timestamp sent to it is `last`, and
the client has yet to receive `owed` packets. -/
structure Serves (p : Parties) (last : Int64) (owed : Nat) : Prop where
  serving : p.serving = true
  incoming : exists first n, p.session = sessionBehind configuration first ∧
    Incoming codecs configuration first p.toServer last n ∧
    owed = p.toClient.length + n
  packets : forall message, message ∈ p.toClient -> QueueablePacket message

inductive Round (codecs : PlaneCodecs) (configuration : SessionConfiguration)
    (p : Parties) (last : Int64) (owed : Nat) : Parties -> Prop where
  | idle (hserver : p.toServer = []) : Round codecs configuration p last owed p
  | skipped {message : ChannelMessage} {rest : List ChannelMessage}
      (hserver : p.toServer = message :: rest)
      (hserves : Serves codecs configuration { p with toServer := rest } last owed) :
      Round codecs configuration p last owed { p with toServer := rest }
  | answered {message reply : ChannelMessage} {rest : List ChannelMessage}
      {session : StubCodecSession} (hserver : p.toServer = message :: rest)
      (htype : message.type = .frame) (hreply : reply.type = .packet)
      (hserves : Serves codecs configuration
        { p with toServer := rest, toClient := p.toClient ++ [reply], session }
        last owed) :
      Round codecs configuration p last owed
        { p with toServer := rest, toClient := p.toClient ++ [reply], session }

section Rounds

variable {p : Parties} {last : Int64} {owed : Nat}

include hmode

theorem Serves.round (h : Serves codecs configuration p last owed) :
    Round codecs configuration p last owed (p.serverStep codecs) := by
  rcases p with ⟨toServer, toClient, session, serving⟩
  rcases h with ⟨hserving, ⟨first, n, hsession, hincoming, howed⟩, hpackets⟩
  simp only at hserving hsession
  subst hserving hsession
  cases hincoming with
  | nil => exact .idle rfl
  | answered hfresh hmessage hrest =>
      rename_i pts message rest n
      rcases handleMessage_fresh hmode hmessage hfresh with ⟨reply, hhandle, hreply⟩
      have hstep : Parties.serverStep codecs
          ⟨message :: rest, toClient, sessionBehind configuration first, true⟩ =
            ⟨rest, toClient ++ [reply], sessionBehind configuration pts, true⟩ := by
        unfold Parties.serverStep
        simp only [hhandle, hmessage.type]
        rfl
      rw [hstep]
      refine .answered rfl hmessage.type hreply.type ⟨rfl, ⟨pts, n, rfl, hrest, ?_⟩, ?_⟩
      · rw [howed, List.length_append, List.length_singleton]
        exact Nat.add_right_comm toClient.length n 1
      · intro packet hmem
        rcases List.mem_append.mp hmem with hold | hnew
        · exact hpackets packet hold
        · rw [List.mem_singleton.mp hnew]
          exact hreply
  | skipped hlast hmessage hrest =>
      rename_i message rest
      have hstep : Parties.serverStep codecs
          ⟨message :: rest, toClient, sessionBehind configuration first, true⟩ =
            ⟨rest, toClient, sessionBehind configuration first, true⟩ := by
        unfold Parties.serverStep
        simp only [handleMessage_again hmode hmessage hlast, hmessage.type,
          List.append_nil]
        rfl
      rw [hstep]
      exact .skipped rfl ⟨rfl, ⟨first, n, rfl, hrest, howed⟩, hpackets⟩

theorem Serves.step (h : Serves codecs configuration p last owed) :
    Serves codecs configuration (p.serverStep codecs) last owed := by
  have hround := h.round hmode
  generalize p.serverStep codecs = p' at hround ⊢
  cases hround with
  | idle _ => exact h
  | skipped _ hserves => exact hserves
  | answered _ _ _ hserves => exact hserves

theorem Serves.after (h : Serves codecs configuration p last owed) (n : Nat) :
    Serves codecs configuration (p.after codecs n) last owed := by
  induction n generalizing p with
  | zero => exact h
  | succ n ih => exact ih (h.step hmode)

theorem Serves.answersNext (h : Serves codecs configuration p last owed)
    (howed : p.toClient.length < owed) :
    exists n, n < p.toServer.length ∧ (p.after codecs n).AnswersNext codecs := by
  generalize hlen : p.toServer.length = len
  induction len generalizing p with
  | zero =>
      rcases h.incoming with ⟨first, n, _, hincoming, hcount⟩
      rw [List.eq_nil_of_length_eq_zero hlen] at hincoming
      cases hincoming
      exact absurd howed (Nat.not_lt_of_le (Nat.le_of_eq hcount))
  | succ len ih =>
      have hround := h.round hmode
      generalize hp : p.serverStep codecs = p' at hround
      cases hround with
      | idle hserver =>
          rw [hserver] at hlen
          cases hlen
      | skipped hserver hserves =>
          rw [hserver] at hlen
          rcases ih hserves howed (Nat.succ.inj hlen) with ⟨n, hn, hnext⟩
          refine ⟨n + 1, Nat.succ_lt_succ hn, ?_⟩
          show Parties.AnswersNext codecs ((Parties.serverStep codecs)^[n]
            (p.serverStep codecs))
          rw [hp]
          exact hnext
      | answered hserver htype hreply _ =>
          refine ⟨0, Nat.succ_pos len, ?_, ?_⟩
          · show p.toServer.head?.map ChannelMessage.type = _
            rw [hserver]
            exact congrArg some htype
          · show (p.serverStep codecs).toClient.map ChannelMessage.type = _
            rw [hp, List.map_append, List.map_singleton, hreply]
            rfl

/-- Something is in flight exactly when a packet is owed. -/
theorem Serves.somethingOwed_iff (h : Serves codecs configuration p last owed) :
    p.SomethingOwed codecs <-> 0 < owed := by
  constructor
  · intro h
    rcases h with ⟨message, hmem, _⟩ | ⟨n, _, _, hnext⟩
    · rcases h.incoming with ⟨_, n, _, _, hcount⟩
      have hpos := List.length_pos_of_mem hmem
      omega
    · have hafter := (h.after hmode n).step hmode
      rcases hafter.incoming with ⟨_, k, _, _, hcount⟩
      have hlen := congrArg List.length hnext
      rw [List.length_map, List.length_append, List.length_singleton] at hlen
      omega
  · intro hpos
    cases hclient : p.toClient with
    | cons message rest =>
        have hmem : message ∈ p.toClient := by
          rw [hclient]
          exact List.mem_cons_self
        exact Or.inl ⟨message, hmem, (h.packets message hmem).type⟩
    | nil =>
        right
        apply h.answersNext hmode
        rw [hclient]
        exact hpos

/-- The server that is waited for sends what it owes. -/
theorem Serves.await (h : Serves codecs configuration p last owed) {fuel : Nat}
    (hfuel : p.toServer.length ≤ fuel) :
    Serves codecs configuration (Parties.await codecs fuel p) last owed ∧
      (0 < owed -> (Parties.await codecs fuel p).toClient ≠ []) := by
  induction fuel generalizing p with
  | zero =>
      refine ⟨h, ?_⟩
      intro hpos hnil
      rcases h.incoming with ⟨_, n, _, hincoming, hcount⟩
      rw [List.eq_nil_of_length_eq_zero (Nat.le_zero.mp hfuel)] at hincoming
      have hclient : p.toClient = [] := hnil
      rw [hclient] at hcount
      cases hincoming
      exact absurd hpos (by rw [hcount]; exact Nat.lt_irrefl 0)
  | succ fuel ih =>
      unfold Parties.await
      split
      · apply ih (h.step hmode)
        have hround := h.round hmode
        generalize p.serverStep codecs = p' at hround
        cases hround with
        | idle hserver =>
            rw [hserver]
            exact Nat.zero_le fuel
        | skipped hserver _ =>
            rw [hserver] at hfuel
            exact Nat.le_of_succ_le_succ hfuel
        | answered hserver _ _ _ =>
            rw [hserver] at hfuel
            exact Nat.le_of_succ_le_succ hfuel
      · rename_i hclient
        exact ⟨h, fun _ => hclient⟩

end Rounds
end Server
end VTRemote
