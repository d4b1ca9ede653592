import VTRemote.Library.Window
import VTRemote.System.InStep

/-!
# The blocking reads of the encoder

A call moves the window as its frame does on its own, or exchanges a queued
packet for the frame.  The frame that fills the window is sent twice, and the
server skips the copy, so that its slot is lost.  When all slots are lost, the
client waits for a packet that nobody owes.
-/

namespace VTRemote

attribute [local irreducible] cInt

open TimestampTracker Window

section Calls

variable {codecs : PlaneCodecs} {configuration : SessionConfiguration}
  {codecId : AVCodecID} {limit : Nat} {libs : CompressionLibraries}
  {frame : AVFrame} {s : VTRemoteEncContext System} {last : Int64} {owed : Nat}
  {w : Window}

/-- Only a frame whose timestamp the tracker does not remember is answered
twice. -/
def frameOffer (libs : CompressionLibraries) (codecId : AVCodecID)
    (wireCompression : Int) (frame : AVFrame) : Offer where
  taken := sendable libs codecId wireCompression frame
  free := frame.pts = Int64.minValue

structure Leaves (codecs : PlaneCodecs) (configuration : SessionConfiguration)
    (codecId : AVCodecID) (limit : Nat) (s : VTRemoteEncContext System)
    (last pts : Int64) (w : Window) (s' : VTRemoteEncContext System) : Prop where
  inStep : exists last' owed, (last' = last ∨ last' = pts) ∧
    InStep codecs configuration codecId limit s' last' owed w
  quiet : Quiet s -> Quiet s'

variable (hmode : configuration.mode = .encode)
  (hframe : Decodable codecs libs configuration.wireCompression frame)
include hmode hframe

theorem waitForPacket_inStep
    (h : InStep codecs configuration codecId limit s last (owed + 1) w)
    (hfull : w.load = limit) (hsize : s.pktQueue.size ≠ 0)
    (hempty : s.pktQueue.count = 0) (hfresh : Fresh last frame.pts) :
    exists r s', waitForPacket (systemLink codecs) libs (some frame) s =
        .returned r s' ∧
      Leaves codecs configuration codecId limit s last frame.pts
        (w.submit limit (frameOffer libs codecId configuration.wireCompression
          frame)) s' := by
  rcases ffVtremoteCommonReceivePacket_inStep hmode h hsize hempty with
    ⟨pkt, s1, hreceive, hs1, hempty1, _, hquiet1⟩
  have hpos : 0 < w.load := by
    rw [h.load, h.slots]
    omega
  cases htaken : sendable libs codecId configuration.wireCompression frame with
  | true =>
      have hroom : w.load - 1 < limit := by omega
      rcases sendFrame_fresh hframe hmode hs1 hfresh htaken hroom with
        ⟨s2, hsend, hs2, _, hquiet2⟩
      refine ⟨_, s2, waitForPacket_of_send hreceive hsend,
        ⟨frame.pts, owed + 1, Or.inr rfl, ?_⟩, fun hquiet => hquiet2 (hquiet1 hquiet)⟩
      rw [submit_full htaken hfull]
      have hload : w.load - 1 + 1 = w.load := Nat.sub_add_cancel hpos
      rw [hload] at hs2
      exact hs2
  | false =>
      rcases sendFrame_refused hframe hs1 htaken with ⟨e, s2, hsend, hs2, _, hquiet2⟩
      refine ⟨_, s2, waitForPacket_of_send hreceive hsend,
        ⟨last, owed, Or.inl rfl, ?_⟩, fun hquiet => hquiet2 (hquiet1 hquiet)⟩
      rw [submit_vacates htaken hfull]
      exact hs2

/-- The frame that fills the window is sent again behind the packet that is
waited for. -/
theorem waitForPacket_fills
    (h : InStep codecs configuration codecId limit s frame.pts (owed + 1)
      ⟨w.load + 1, w.lost⟩)
    (hfills : w.load + 1 = limit) (hsize : s.pktQueue.size ≠ 0)
    (hempty : s.pktQueue.count = 0)
    (htaken : sendable libs codecId configuration.wireCompression frame = true) :
    exists r s', waitForPacket (systemLink codecs) libs (some frame) s =
        .returned r s' ∧
      (exists owed', InStep codecs configuration codecId limit s' frame.pts owed'
        (w.submit limit (frameOffer libs codecId configuration.wireCompression
          frame))) ∧
      (Quiet s -> Quiet s') := by
  rcases ffVtremoteCommonReceivePacket_inStep hmode h hsize hempty with
    ⟨pkt, s1, hreceive, hs1, _, _, hquiet1⟩
  have hroom : w.load < limit := Nat.lt_of_succ_le (Nat.le_of_eq hfills)
  by_cases hpts : frame.pts = Int64.minValue
  · have hfree : (frameOffer libs codecId configuration.wireCompression
        frame).free = true := decide_eq_true hpts
    rcases sendFrame_fresh hframe hmode hs1 (Or.inr hpts) htaken hroom with
      ⟨s2, hsend, hs2, _, hquiet2⟩
    refine ⟨_, s2, waitForPacket_of_send hreceive hsend, ⟨owed + 1, ?_⟩,
      fun hquiet => hquiet2 (hquiet1 hquiet)⟩
    rw [submit_fills_free htaken hfree hfills]
    exact hs2
  · have hfree : (frameOffer libs codecId configuration.wireCompression
        frame).free = false := decide_eq_false hpts
    rcases sendFrame_again hframe hmode hs1 hpts htaken hroom with
      ⟨s2, hsend, hs2, _, hquiet2⟩
    refine ⟨_, s2, waitForPacket_of_send hreceive hsend, ⟨owed, ?_⟩,
      fun hquiet => hquiet2 (hquiet1 hquiet)⟩
    rw [submit_fills htaken hfree hfills]
    exact hs2

theorem encodeUnqueued_inStep
    (h : InStep codecs configuration codecId limit s last owed w)
    (hsize : s.pktQueue.size ≠ 0) (hempty : s.pktQueue.count = 0)
    (hfresh : Fresh last frame.pts) (hlost : w.load = limit -> w.lost < limit)
    (draining : Bool) :
    exists r s', encodeUnqueued (systemLink codecs) libs (some frame) draining s =
        .returned r s' ∧
      Leaves codecs configuration codecId limit s last frame.pts
        (w.submit limit (frameOffer libs codecId configuration.wireCompression
          frame)) s' := by
  have hload : w.load = s.inflightFrames := by
    rw [h.load, hempty]
    rfl
  rcases Nat.lt_or_eq_of_le h.within with hroom | hfull
  · have hopen : s.inflightFrames < s.inflight := by
      rw [h.inflight, <- hload]
      exact hroom
    cases htaken : sendable libs codecId configuration.wireCompression frame with
    | true =>
        rcases sendFrame_fresh hframe hmode h hfresh htaken hroom with
          ⟨s1, hsend, hs1, hqueue, hquiet1⟩
        have hempty1 : s1.pktQueue.count = 0 := by
          rw [hqueue]
          exact hempty
        have hload1 : w.load + 1 = s1.inflightFrames := by
          have hload1 := hs1.load
          rw [hempty1] at hload1
          exact hload1
        rw [encodeUnqueued_of_send hopen hsend]
        rcases Nat.lt_or_eq_of_le (Nat.succ_le_of_lt hroom) with hadds | hfills
        · have hopen1 : s1.inflightFrames < s1.inflight := by
            rw [hs1.inflight, <- hload1]
            exact hadds
          refine ⟨_, s1, encodeSubmitted_open hopen1 hs1.flushing draining,
            ⟨frame.pts, owed + 1, Or.inr rfl, ?_⟩, hquiet1⟩
          rw [submit_adds htaken hadds]
          exact hs1
        · have hfull1 : s1.inflight ≤ s1.inflightFrames := by
            rw [hs1.inflight, <- hload1]
            exact Nat.le_of_eq hfills.symm
          rcases waitForPacket_fills hmode hframe hs1 hfills
            (by rw [hqueue]; exact hsize) hempty1 htaken with
            ⟨r, s2, hwait, ⟨owed2, hs2⟩, hquiet2⟩
          rw [encodeSubmitted_full hfull1]
          exact ⟨r, s2, hwait, ⟨frame.pts, owed2, Or.inr rfl, hs2⟩,
            fun hquiet => hquiet2 (hquiet1 hquiet)⟩
    | false =>
        rcases sendFrame_refused hframe h htaken with
          ⟨e, s1, hsend, hs1, hqueue, hquiet1⟩
        have hload1 : w.load = s1.inflightFrames := by
          rw [hs1.load, hqueue, hempty]
          rfl
        have hopen1 : s1.inflightFrames < s1.inflight := by
          rw [hs1.inflight, <- hload1]
          exact hroom
        rcases encodeUnqueued_of_error hopen hsend hopen1 hs1.flushing draining
          with ⟨r, hcall⟩
        refine ⟨r, s1, hcall, ⟨last, owed, Or.inl rfl, ?_⟩, hquiet1⟩
        rw [submit_refused htaken hroom]
        exact hs1
  · have howed : owed ≠ 0 := by
      have hslots := h.slots
      have hlt := hlost hfull
      omega
    rcases Nat.exists_eq_succ_of_ne_zero howed with ⟨owed', rfl⟩
    have hfull' : s.inflight ≤ s.inflightFrames := by
      rw [h.inflight, <- hload]
      exact Nat.le_of_eq hfull.symm
    rw [encodeUnqueued_full hfull']
    exact waitForPacket_inStep hmode hframe h hfull hsize hempty hfresh

theorem returnQueued_inStep
    (h : InStep codecs configuration codecId limit s last owed w)
    (hcount : 0 < s.pktQueue.count) (hfresh : Fresh last frame.pts) :
    exists r s', returnQueued (systemLink codecs) libs (some frame) s =
        .returned r s' ∧
      exists last' owed', (last' = last ∨ last' = frame.pts) ∧
        InStep codecs configuration codecId limit s' last' owed'
          (w.exchange (frameOffer libs codecId configuration.wireCompression
            frame)) := by
  have hpop : popPacket (systemLink codecs) s =
      .returned (.ok (.ok (s.pktQueue.slot 0)))
        { s with pktQueue := s.pktQueue.pop } :=
    popPacket_of_packetRef (systemLink_packetRef s.fd)
  have hload := h.load
  have hpopped : s.pktQueue.pop.count = s.pktQueue.count - 1 := rfl
  have hstep : InStep codecs configuration codecId limit
      { s with pktQueue := s.pktQueue.pop } last owed ⟨w.load - 1, w.lost⟩ :=
    { h with
      load := by
        show w.load - 1 = s.inflightFrames + s.pktQueue.pop.count
        omega
      within := Nat.le_trans (Nat.sub_le _ _) h.within
      room := by
        intro hsize
        show limit < s.pktQueue.pop.size
        rw [Ring.size_pop] at hsize ⊢
        exact h.room hsize }
  have hwithin := h.within
  have hopen : s.inflightFrames < s.inflight := by
    rw [h.inflight]
    omega
  cases htaken : sendable libs codecId configuration.wireCompression frame with
  | true =>
      have hroom : w.load - 1 < limit := by omega
      rcases sendFrame_fresh hframe hmode hstep hfresh htaken hroom with
        ⟨s1, hsend, hs1, _, _⟩
      refine ⟨_, s1, returnQueued_of_send hpop hopen hsend, frame.pts, owed + 1,
        Or.inr rfl, ?_⟩
      rw [exchange_taken htaken]
      have hcancel : w.load - 1 + 1 = w.load := Nat.sub_add_cancel (by omega)
      rw [hcancel] at hs1
      exact hs1
  | false =>
      rcases sendFrame_refused hframe hstep htaken with ⟨e, s1, hsend, hs1, _, _⟩
      refine ⟨_, s1, returnQueued_of_send hpop hopen hsend, last, owed,
        Or.inl rfl, ?_⟩
      rw [exchange_refused htaken]
      exact hs1

/-- What a call does to the window; a quiet one leaves no choice. -/
theorem ffVtremoteEncode_inStep
    (h : InStep codecs configuration codecId limit s last owed w)
    (hfresh : Fresh last frame.pts) (hlost : w.load = limit -> w.lost < limit)
    (draining : Bool) :
    exists ret s' w', ffVtremoteEncode (systemLink codecs) libs (some frame)
        draining s = .returned (.ok ret) s' ∧
      Turn limit (frameOffer libs codecId configuration.wireCompression frame)
        w w' ∧
      (Quiet s -> w' = w.submit limit
        (frameOffer libs codecId configuration.wireCompression frame)) ∧
      Leaves codecs configuration codecId limit s last frame.pts w' s' := by
  rcases openingDrain_inStep hmode h with ⟨s1, hdrain, hdrained⟩
  rcases hdrained.inStep with ⟨owed1, hs1⟩
  rcases Nat.eq_zero_or_pos s1.pktQueue.count with hempty | hcount
  · rcases encodeUnqueued_inStep hmode hframe hs1 hdrained.size hempty hfresh hlost
      draining with ⟨r, s2, hencode, hleaves⟩
    rw [<- encodeBody_unqueued hdrain hempty] at hencode
    exact ⟨_, s2, _, ffVtremoteEncode_of_returned hencode, .submitted,
      fun _ => rfl, hleaves.inStep,
      fun hquiet => hleaves.quiet (hdrained.quiet hquiet)⟩
  · have hnoisy : ¬ Quiet s := by
      intro hquiet
      have hnone := (hdrained.quiet hquiet).2
      rw [hnone] at hcount
      exact Nat.lt_irrefl 0 hcount
    have hload : 0 < w.load := by
      rw [hs1.load]
      exact Nat.lt_of_lt_of_le hcount (Nat.le_add_left _ _)
    rcases returnQueued_inStep hmode hframe hs1 hcount hfresh with
      ⟨r, s2, hreturn, hstep⟩
    rw [<- encodeBody_queued hdrain hcount draining] at hreturn
    exact ⟨_, s2, _, ffVtremoteEncode_of_returned hreturn, .exchanged hload,
      fun hquiet => absurd hquiet hnoisy, hstep,
      fun hquiet => absurd hquiet hnoisy⟩

omit hframe in
/-- With all slots lost and nothing queued, a call waits for good. -/
theorem ffVtremoteEncode_starves
    (h : InStep codecs configuration codecId limit s last owed w)
    (hquiet : Quiet s) (hfull : w.load = limit) (hlost : w.lost = limit)
    (draining : Bool) :
    exists s', ffVtremoteEncode (systemLink codecs) libs (some frame) draining s =
        .blocked s' ∧
      exists p, p ∈ s'.fd.waits ∧ ¬ p.SomethingOwed codecs := by
  rcases openingDrain_inStep hmode h with ⟨s1, hdrain, hdrained⟩
  rcases hdrained.inStep with ⟨owed1, hs1⟩
  have hempty := (hdrained.quiet hquiet).2
  have hload := hs1.load
  have hslots := hs1.slots
  have hnone : owed1 = 0 := by omega
  subst hnone
  have hfull1 : s1.inflight ≤ s1.inflightFrames := by
    rw [hs1.inflight]
    omega
  rcases ffVtremoteCommonReceivePacket_unowed hmode hs1 hempty with
    ⟨s2, hreceive, howed⟩
  refine ⟨s2, ffVtremoteEncode_of_blocked ?_, howed⟩
  rw [encodeBody_unqueued hdrain hempty, encodeUnqueued_full hfull1]
  exact waitForPacket_of_blocked hreceive

end Calls
/-!
## Runs
-/

section Runs

variable {codecs : PlaneCodecs} {configuration : SessionConfiguration}
  {codecId : AVCodecID} {limit : Nat} {libs : CompressionLibraries}

def submissions (frames : List AVFrame) : List EncodeInput :=
  frames.map fun frame => { frame := some frame, draining := false }

/-- The slots that the frames lose if every packet arrives as late as it can. -/
def slotsLost (libs : CompressionLibraries) (codecId : AVCodecID)
    (wireCompression : Int) (limit : Nat) (frames : List AVFrame) : Nat :=
  ((⟨0, 0⟩ : Window).submitAll limit
    (frames.map (frameOffer libs codecId wireCompression))).lost

/-- The client behind its initialization, connected to the configured server. -/
def VTRemoteEncContext.atStart (configuration : SessionConfiguration)
    (codecId : AVCodecID) (limit : Nat) (schedule : List Nat) :
    VTRemoteEncContext System :=
  .afterInit (System.start configuration schedule) limit
    configuration.wireCompression codecId

theorem InStep.atStart (schedule : List Nat) :
    InStep codecs configuration codecId limit
      (.atStart configuration codecId limit schedule) Int64.minValue 0 ⟨0, 0⟩ where
  serves :=
    { serving := rfl
      incoming := ⟨Int64.minValue, 0, rfl, .nil _, rfl⟩
      packets := fun _ hmem => absurd hmem List.not_mem_nil }
  slots := rfl
  load := rfl
  within := Nat.zero_le limit
  options := rfl
  flushing := rfl
  streaming := rfl
  room := fun hsize => absurd rfl hsize
  grants := rfl
  waits := fun _ hmem => absurd hmem List.not_mem_nil

theorem submissions_state {σ : Type} {link : Link σ} {frame : AVFrame}
    {rest : List AVFrame} {s s1 : VTRemoteEncContext σ} {ret : EncodeReturn}
    (hcall : ffVtremoteEncode link libs (some frame) false s =
      .returned (.ok ret) s1) :
    (encodeRun link libs (submissions (frame :: rest)) s).state =
      (encodeRun link libs (submissions rest) s1).state := by
  show ((ffVtremoteEncode link libs (some frame) false >>= _) s).state = _
  rw [Call.bind_of_ok _ hcall]
  exact Call.bind_pure_state _ (fun results => ret :: results) s1

theorem submissions_blocked {σ : Type} {link : Link σ} {frame : AVFrame}
    {rest : List AVFrame} {s s1 : VTRemoteEncContext σ}
    (hcall : ffVtremoteEncode link libs (some frame) false s = .blocked s1) :
    (encodeRun link libs (submissions (frame :: rest)) s).state = s1 := by
  show ((ffVtremoteEncode link libs (some frame) false >>= _) s).state = _
  rw [Call.bind_of_blocked _ hcall]
  rfl

variable (hmode : configuration.mode = .encode)
include hmode

/-- As long as the frames cannot lose all slots, a packet is owed whenever the
client waits. -/
theorem encodeRun_owed (hlimit : 0 < limit) {frames : List AVFrame}
    (hframes : forall frame, frame ∈ frames ->
      Decodable codecs libs configuration.wireCompression frame)
    (hsorted : frames.Pairwise fun a b => a.pts < b.pts)
    {s : VTRemoteEncContext System} {last : Int64} {owed : Nat} {w late : Window}
    (h : InStep codecs configuration codecId limit s last owed w)
    (hbelow : Below limit w late)
    (hfresh : forall frame, frame ∈ frames -> Fresh last frame.pts)
    (hfree : forall frame, frame ∈ frames -> frame.pts = Int64.minValue ->
      late = w ∧ late.load = 0)
    (hlost : frames ≠ [] -> (late.submitAll limit (frames.dropLast.map
      (frameOffer libs codecId configuration.wireCompression))).lost < limit) :
    forall p, p ∈ (encodeRun (systemLink codecs) libs (submissions frames)
      s).state.fd.waits -> p.SomethingOwed codecs := by
  induction frames generalizing s last owed w late with
  | nil => exact h.waits
  | cons frame rest ih =>
      rcases List.pairwise_cons.mp hsorted with ⟨hbefore, hsorted'⟩
      have hroom : w.load = limit -> w.lost < limit := by
        intro hfull
        exact Nat.lt_of_le_of_lt (Nat.le_trans (hbelow.lost_le hfull)
          (lost_le_submitAll hbelow.within _)) (hlost (List.cons_ne_nil _ _))
      rcases ffVtremoteEncode_inStep hmode (hframes frame List.mem_cons_self) h
        (hfresh frame List.mem_cons_self) hroom false with
        ⟨ret, s1, w1, hcall, hturn, _, hleaves⟩
      rcases hleaves.inStep with ⟨last1, owed1, hlast1, h1⟩
      have hnext := hbelow.turn hlimit
        (fun hpts => hfree frame List.mem_cons_self (of_decide_eq_true hpts)) hturn
      have hlater : forall frame', frame' ∈ rest ->
          frame'.pts ≠ Int64.minValue := by
        intro frame' hmem hmin
        have hlt := hbefore frame' hmem
        rw [hmin] at hlt
        exact Int64.not_lt.mpr (Int64.minValue_le _) hlt
      rw [submissions_state hcall]
      apply ih (fun frame' hmem => hframes frame' (List.mem_cons_of_mem _ hmem))
        hsorted' h1 hnext
      · intro frame' hmem
        rcases hlast1 with rfl | rfl
        · exact hfresh frame' (List.mem_cons_of_mem _ hmem)
        · exact Or.inl (hbefore frame' hmem)
      · intro frame' hmem hmin
        exact absurd hmin (hlater frame' hmem)
      · intro hne
        have hsome := hlost (List.cons_ne_nil _ _)
        rw [List.dropLast_cons_of_ne_nil hne] at hsome
        exact hsome

/-- If every packet arrives late and the frames lose all slots, the client waits
for a packet that nobody owes. -/
theorem encodeRun_starves {frames : List AVFrame}
    (hframes : forall frame, frame ∈ frames ->
      Decodable codecs libs configuration.wireCompression frame)
    (hsorted : frames.Pairwise fun a b => a.pts < b.pts)
    {s : VTRemoteEncContext System} {last : Int64} {owed : Nat} {w : Window}
    (h : InStep codecs configuration codecId limit s last owed w)
    (hquiet : Quiet s) (hwithin : Within limit w)
    (hfresh : forall frame, frame ∈ frames -> Fresh last frame.pts)
    (hne : frames ≠ [])
    (hlost : limit ≤ (w.submitAll limit (frames.dropLast.map
      (frameOffer libs codecId configuration.wireCompression))).lost) :
    exists p, p ∈ (encodeRun (systemLink codecs) libs (submissions frames)
      s).state.fd.waits ∧ ¬ p.SomethingOwed codecs := by
  induction frames generalizing s last owed w with
  | nil => exact absurd rfl hne
  | cons frame rest ih =>
      rcases List.pairwise_cons.mp hsorted with ⟨hbefore, hsorted'⟩
      rcases Nat.lt_or_eq_of_le hwithin.lost_le with hroom | hall
      · rcases ffVtremoteEncode_inStep hmode (hframes frame List.mem_cons_self) h
          (hfresh frame List.mem_cons_self) (fun _ => hroom) false with
          ⟨ret, s1, w1, hcall, _, hsubmit, hleaves⟩
        rcases hleaves.inStep with ⟨last1, owed1, hlast1, h1⟩
        have hw1 := hsubmit hquiet
        subst hw1
        rw [submissions_state hcall]
        cases rest with
        | nil => exact absurd hroom (Nat.not_lt_of_le hlost)
        | cons frame1 rest1 =>
            apply ih (fun frame' hmem => hframes frame' (List.mem_cons_of_mem _ hmem))
              hsorted' h1 (hleaves.quiet hquiet)
              ((submit_submits hwithin.load_le _).within hwithin hroom) _
              (List.cons_ne_nil _ _) hlost
            intro frame' hmem
            rcases hlast1 with rfl | rfl
            · exact hfresh frame' (List.mem_cons_of_mem _ hmem)
            · exact Or.inl (hbefore frame' hmem)
      · rcases ffVtremoteEncode_starves hmode h hquiet (hwithin.full hall) hall false
          with ⟨s1, hcall, howed⟩
        rw [submissions_blocked hcall]
        exact howed

/-- Whenever the client waits, in whatever order the two parties run, a packet is
owed, if and only if the frames before the last one do not lose all slots. -/
theorem blockingReads_owed_iff (hlimit : 0 < limit) {frames : List AVFrame}
    (hframes : forall frame, frame ∈ frames ->
      Decodable codecs libs configuration.wireCompression frame)
    (hsorted : frames.Pairwise fun a b => a.pts < b.pts) :
    (forall schedule p,
      p ∈ (encodeRun (systemLink codecs) libs (submissions frames)
        (.atStart configuration codecId limit schedule)).state.fd.waits ->
          p.SomethingOwed codecs) <->
      slotsLost libs codecId configuration.wireCompression limit
        frames.dropLast < limit := by
  have hstart : forall schedule, InStep codecs configuration codecId limit
      (.atStart configuration codecId limit schedule) Int64.minValue 0 ⟨0, 0⟩ :=
    InStep.atStart
  constructor
  · intro howed
    apply Nat.lt_of_not_le
    intro hlost
    have hne : frames ≠ [] := by
      intro h
      subst h
      exact Nat.not_le_of_lt hlimit hlost
    have hwithin : Within limit ⟨0, 0⟩ :=
      ⟨Nat.zero_le limit, Nat.zero_le limit, fun hzero => hzero⟩
    rcases encodeRun_starves hmode hframes hsorted (hstart [])
      ⟨⟨rfl, rfl⟩, rfl⟩ hwithin (fun _ _ => Or.inr rfl) hne hlost with
      ⟨p, hmem, hnone⟩
    exact hnone (howed [] p hmem)
  · intro hlost schedule
    exact encodeRun_owed hmode hlimit hframes hsorted (hstart schedule)
      (Below.refl (Nat.zero_le limit)) (fun _ _ => Or.inr rfl)
      (fun _ _ _ => ⟨rfl, rfl⟩) (fun _ => hlost)

/-!
## Two small frames
-/

omit hmode

def copyCodecs : PlaneCodecs where
  lz4Compress data := some data
  lz4DecompressSafe data _ := some data
  zstdCompress data := some data
  zstdDecompressRaw data _ := some data

def encodeConfiguration : SessionConfiguration where
  mode := .encode
  width := 1
  height := 2
  pixelFormat := 1
  wireCompression := 0

def smallFrames : List AVFrame := [smallFrame, { smallFrame with pts := 1 }]

theorem smallFrames_decodable : forall frame, frame ∈ smallFrames ->
    Decodable copyCodecs noCompression 0 frame := by
  intro frame hmem
  have hplanes : sendPlanes noCompression 0 frame =
      sendPlanes noCompression 0 smallFrame := by
    rcases List.mem_cons.mp hmem with rfl | hmem
    · rfl
    · rw [List.mem_singleton.mp hmem]
      rfl
  constructor
  · rcases List.mem_cons.mp hmem with rfl | hmem
    · decide
    · rw [List.mem_singleton.mp hmem]
      decide
  · intro plane0 plane1 hsome
    rw [hplanes] at hsome
    cases hsome
    exact ⟨⟨[1, 2], rfl, rfl⟩, ⟨[3], rfl, rfl⟩⟩

theorem blockingReads_owed_two :
    slotsLost noCompression .h264 0 2 smallFrames.dropLast < 2 ∧
    forall schedule p,
      p ∈ (encodeRun (systemLink copyCodecs) noCompression
        (submissions smallFrames)
        (.atStart encodeConfiguration .h264 2 schedule)).state.fd.waits ->
          p.SomethingOwed copyCodecs :=
  ⟨by decide, (blockingReads_owed_iff rfl (by decide) smallFrames_decodable
    (by decide)).mpr (by decide)⟩

/-- A window of one frame is lost to the second copy of the first frame: the
second call waits, and both channels are empty. -/
theorem blockingRead_unowed_one :
    exists p, p ∈ (encodeRun (systemLink copyCodecs) noCompression
        (submissions smallFrames)
        (.atStart encodeConfiguration .h264 1 [])).state.fd.waits ∧
      ¬ p.SomethingOwed copyCodecs := by
  decide +kernel

end Runs
end VTRemote
