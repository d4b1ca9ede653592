import VTRemote.Client.DecoderRuns
import VTRemote.Formats.FrameParser

/-!
# Complete output of the decoder

The caller is to get the frames of the server, each as its message describes it:
its rows, its side data and its times.  A timeout that a call meets while it
drains ends the stream too early, rows can leave their planes, and the times of a
frame are those of the last packet.
-/

namespace VTRemote

attribute [local irreducible] cInt

variable {libs : DecompressionLibraries} {wireCompression : Int}

/-!
## What is shown of a message
-/

/-- What is shown of a frame stays inside if its planes on the wire are safe. -/
theorem Decompresses.inside_iff {view shown : VTRemoteFrameView}
    (hshown : Decompresses libs wireCompression view shown)
    {height : Fin 2 -> Nat} {linesize : Fin 2 -> Int}
    (hlinesize : forall i, -2147483648 ≤ linesize i ∧ linesize i ≤ intMax) :
    FillInside shown height linesize <->
      forall i, FillSafe wireCompression (view.plane i) (height i)
        (linesize i) := by
  apply forall_congr'
  intro i
  cases hshown with
  | plain hplain =>
      exact fillRows_plain_iff hplain (view.plane i) (height i) (hlinesize i).1
        (hlinesize i).2
  | planes plane0 plane1 hcompressed hpos hplane0 hplane1 =>
      revert i
      refine Fin.forall_fin_two.mpr ⟨?_, ?_⟩
      · exact fillRows_decompressed_iff hcompressed (hpos 0) hplane0 _
          (hlinesize 0).1 (hlinesize 0).2
      · exact fillRows_decompressed_iff hcompressed (hpos 1) hplane1 _
          (hlinesize 1).1 (hlinesize 1).2

theorem dataLen_of_parsed {payload : Bytes} (hmax : (payload.length : Int) ≤ intMax)
    {view : VTRemoteFrameView}
    (h : vtremoteParseFrame payload payload.length = .ok view) (i : Fin 2) :
    (view.plane i).dataLen.toNat = (view.plane i).data.length := by
  by_cases hsome : exists f, Grammar.Frame.Text f payload
  · rcases hsome with ⟨f, hf⟩
    rw [vtremoteParseFrame_of_text hmax hf] at h
    cases h
    unfold VTRemoteFrameView.plane
    rw [List.getD_eq_getElem?_getD]
    cases hplane : f.toView.planes[i.val]? with
    | none => rfl
    | some plane => exact (hf.shows.plane i plane hplane).1
  · rcases vtremoteParseFrame_of_not_text hmax fun f hf => hsome ⟨f, hf⟩ with ⟨e, he⟩
    rw [he] at h
    cases h

theorem ServerFrame.dataLen_shown (message : ServerFrame libs wireCompression)
    (i : Fin 2) :
    (message.shown.plane i).dataLen.toNat = (message.shown.plane i).data.length := by
  have hmax : (message.payload.bytes.length : Int) ≤ intMax := by
    have hle := message.payload.length_le
    unfold maxAllocSize at hle
    unfold intMax
    omega
  have hshown := message.decompresses
  revert hshown
  generalize message.shown = shown
  intro hshown
  cases hshown with
  | plain _ => exact dataLen_of_parsed hmax message.parsed i
  | planes plane0 plane1 _ hpos hplane0 hplane1 =>
      have hfields : forall {plane shown : VTRemotePlaneView}, 0 < plane.expected ->
          libs.decompress wireCompression plane = .ok shown ->
          shown.dataLen.toNat = shown.data.length := by
        intro plane shown hexpected hplane
        rcases decompress_fields hexpected hplane with ⟨_, _, hdataLen, hdata⟩
        exact Int.ofNat_inj.mp (hdataLen.trans hdata.symm)
      revert i
      exact Fin.forall_fin_two.mpr
        ⟨hfields (hpos 0) hplane0, hfields (hpos 1) hplane1⟩

/-!
## What is handed over for a message
-/

def FrameBuffer.rows (buffer : FrameBuffer) (i : Fin 2) : Nat :=
  (buffer.data i).length / (buffer.linesize i).toNat

/-- A frame that is what the message describes.  Its rows were copied without
leaving their planes, the rest of the buffer is as it was, and the times and the
entries of side data are those of the message. -/
structure ServerFrame.Describes (message : ServerFrame libs wireCompression)
    (avctx : AVCodecContext) (out : AVFrame) : Prop where
  format : out.format = avctx.pixFmt
  size : out.width = avctx.width ∧ out.height = avctx.height
  linesize : out.linesize = avctx.getBuffer.linesize
  inside : FillInside message.shown avctx.getBuffer.rows avctx.getBuffer.linesize
  rows : forall i, ShowsRows (message.shown.plane i).data
    (cInt (message.shown.plane i).stride.toNat).toNat
    (cInt (message.shown.plane i).height.toNat).toNat (avctx.getBuffer.data i)
    (avctx.getBuffer.linesize i).toNat (out.data i)
  pts : out.pts = message.view.pts
  duration : out.duration = message.view.duration
  sideData : exists others, out.sideData = others ++ message.view.entries

/-- Both planes on the wire fit the buffer, and the message has the times of the
packet that was passed last. -/
structure ServerFrame.Fits (message : ServerFrame libs wireCompression)
    (avctx : AVCodecContext) : Prop where
  planes : forall i, FillSafe wireCompression (message.view.plane i)
    (avctx.getBuffer.rows i) (avctx.getBuffer.linesize i)
  pts : message.view.pts = avctx.lastPktProps.pts
  duration : message.view.duration = avctx.lastPktProps.duration

theorem Decompresses.entries {view shown : VTRemoteFrameView}
    (h : Decompresses libs wireCompression view shown) :
    shown.entries = view.entries := by
  cases h with
  | plain _ => rfl
  | planes _ _ _ _ _ _ => rfl

theorem ServerFrame.describes_decoded_iff (message : ServerFrame libs wireCompression)
    (avctx : AVCodecContext) (frame : AVFrame)
    (hlinesize : forall i, -2147483648 ≤ avctx.getBuffer.linesize i ∧
      avctx.getBuffer.linesize i ≤ intMax) :
    message.Describes avctx (message.decoded avctx frame) <-> message.Fits avctx := by
  have hinside := @Decompresses.inside_iff _ _ _ _ message.decompresses
    avctx.getBuffer.rows _ hlinesize
  constructor
  · intro h
    exact ⟨hinside.mp h.inside, h.pts.symm, h.duration.symm⟩
  · intro h
    have hfill := hinside.mpr h.planes
    exact
      { format := rfl
        size := ⟨rfl, rfl⟩
        linesize := rfl
        inside := hfill
        rows := fun i => fillRows_showsRows (hlinesize i).1 (hlinesize i).2
          (message.dataLen_shown i) (Nat.div_mul_le_self _ _) (hfill i)
        pts := h.pts.symm
        duration := h.duration.symm
        sideData := ⟨_, congrArg _ message.decompresses.entries⟩ }

/-!
## Complete output
-/

def DecodeReturn.handed (r : DecodeReturn) : Option AVFrame :=
  if r.gotFrame then r.frame else none

/-- `decode_simple_internal` takes this result as the end of the stream when it
drains. -/
def DecodeReturn.endsDraining (r : DecodeReturn) : Bool :=
  r.accepted && !r.gotFrame

/-- The messages are handed over in order and each once, all of them by enough
calls that drain, and no such call ends the draining before DONE. -/
structure DecodesStream (avctx : AVCodecContext)
    (messages : List (ServerFrame libs wireCompression)) (packets drains : Nat)
    (results : List DecodeReturn) : Prop where
  ordered : exists n, List.Forall₂ (fun message out => message.Describes avctx out)
    (messages.take n) (results.filterMap DecodeReturn.handed)
  complete : messages.length < drains ->
    List.Forall₂ (fun message out => message.Describes avctx out)
      messages (results.filterMap DecodeReturn.handed)
  drained : forall ret, ret ∈ results.drop packets -> ret.endsDraining = false

def decodeInputs (packets : List AVPacket) (drains : Nat) :
    List (Option AVPacket) :=
  packets.map some ++ List.replicate drains none

/-- No call that drains meets a timeout, and each message that a call meets fits. -/
structure MeetsFrames (avctx : AVCodecContext) (packets : List AVPacket)
    (drains : Nat) (events : List (Option (ServerFrame libs wireCompression))) :
    Prop where
  inTime : none ∉ (events.drop packets.length).take drains
  fits : forall context message, (context, some message) ∈
    callsMeet avctx (decodeInputs packets drains) events -> message.Fits context

def serverFrames (events : List (Option (ServerFrame libs wireCompression))) :
    List (ServerFrame libs wireCompression) :=
  events.filterMap id

def framesMet
    (calls : List (AVCodecContext × Option (ServerFrame libs wireCompression))) :
    List (AVCodecContext × ServerFrame libs wireCompression) :=
  calls.filterMap fun call => call.2.map (Prod.mk call.1)

theorem mem_framesMet
    {calls : List (AVCodecContext × Option (ServerFrame libs wireCompression))}
    {context : AVCodecContext} {message : ServerFrame libs wireCompression} :
    (context, message) ∈ framesMet calls <-> (context, some message) ∈ calls := by
  unfold framesMet
  rw [List.mem_filterMap]
  constructor
  · intro h
    rcases h with ⟨⟨context', event⟩, hmem, hevent⟩
    rcases Option.map_eq_some_iff.mp hevent with ⟨message', rfl, heq⟩
    cases heq
    exact hmem
  · intro h
    exact ⟨_, h, rfl⟩

theorem map_snd_framesMet (contexts : List AVCodecContext)
    (events : List (Option (ServerFrame libs wireCompression))) :
    (framesMet (contexts.zip events)).map Prod.snd =
      serverFrames (events.take contexts.length) := by
  induction contexts generalizing events with
  | nil => rfl
  | cons context contexts ih =>
      cases events with
      | nil => rfl
      | cons event events =>
          cases event with
          | none => exact ih events
          | some message => exact congrArg (List.cons message) (ih events)

theorem framesMet_prefix (contexts : List AVCodecContext)
    (events : List (Option (ServerFrame libs wireCompression))) :
    (framesMet (contexts.zip events)).map Prod.snd <+: serverFrames events := by
  rw [map_snd_framesMet]
  exact (List.take_prefix contexts.length events).filterMap id

variable (avctx : AVCodecContext) (frame : AVFrame)

theorem handed_eventReturns
    (events : List (Option (ServerFrame libs wireCompression)))
    (pkts : List (Option AVPacket)) :
    (eventReturns avctx frame events pkts).filterMap DecodeReturn.handed =
      (framesMet (callsMeet avctx pkts events)).map
        fun met => met.2.decoded met.1 frame := by
  have hdone : (List.replicate (pkts.length - events.length) doneReturn).filterMap
      DecodeReturn.handed = [] := by
    apply List.filterMap_eq_nil_iff.mpr
    intro ret hret
    rw [List.eq_of_mem_replicate hret]
    rfl
  unfold eventReturns framesMet
  rw [List.filterMap_append, hdone, List.append_nil, List.filterMap_map,
    List.map_filterMap]
  congr 1
  funext call
  rcases call with ⟨context, event⟩
  cases event with
  | none => rfl
  | some message => rfl

theorem endsDraining_eventReturn
    (event : Option (ServerFrame libs wireCompression)) :
    (eventReturn avctx frame event).endsDraining = event.isNone := by
  cases event with
  | none => rfl
  | some message => rfl

theorem length_serverFrames
    {events : List (Option (ServerFrame libs wireCompression))}
    (h : none ∉ events) : (serverFrames events).length = events.length := by
  induction events with
  | nil => rfl
  | cons event events ih =>
      cases event with
      | none => exact absurd List.mem_cons_self h
      | some message =>
          have hrest := ih fun hmem => h (List.mem_cons_of_mem _ hmem)
          exact congrArg Nat.succ hrest

variable {avctx}

theorem forall₂_describes_iff {pkts : List (Option AVPacket)}
    {events : List (Option (ServerFrame libs wireCompression))}
    (hlinesize : forall i, -2147483648 ≤ avctx.getBuffer.linesize i ∧
      avctx.getBuffer.linesize i ≤ intMax) :
    List.Forall₂ (fun message out => message.Describes avctx out)
        ((framesMet (callsMeet avctx pkts events)).map Prod.snd)
        ((framesMet (callsMeet avctx pkts events)).map
          fun met => met.2.decoded met.1 frame) <->
      forall context message, (context, some message) ∈ callsMeet avctx pkts events ->
        message.Fits context := by
  rw [List.forall₂_map_left_iff, List.forall₂_map_right_iff, List.forall₂_same]
  have hiff : forall context message,
      (context, some message) ∈ callsMeet avctx pkts events ->
      (message.Describes avctx (message.decoded context frame) <->
        message.Fits context) := by
    intro context message hmem
    -- the contexts of the calls have the same buffer
    rcases AVCodecContext.eq_of_mem_during (List.of_mem_zip hmem).1 with ⟨props, rfl⟩
    have hdescribes := message.describes_decoded_iff
      { avctx with lastPktProps := props } frame hlinesize
    rw [<- hdescribes]
    constructor
    · intro h
      exact ⟨h.format, h.size, h.linesize, h.inside, h.rows, h.pts, h.duration,
        h.sideData⟩
    · intro h
      exact ⟨h.format, h.size, h.linesize, h.inside, h.rows, h.pts, h.duration,
        h.sideData⟩
  constructor
  · intro h context message hmem
    exact (hiff context message hmem).mp (h _ (mem_framesMet.mpr hmem))
  · intro h met hmet
    have hmem := mem_framesMet.mp hmet
    exact (hiff met.1 met.2 hmem).mpr (h met.1 met.2 hmem)

theorem length_decodeInputs (packets : List AVPacket) (drains : Nat) :
    (decodeInputs packets drains).length = packets.length + drains := by
  unfold decodeInputs
  rw [List.length_append, List.length_map, List.length_replicate]

theorem map_snd_zip_take {α β : Type} (front : List α) (back : List β) :
    (front.zip back).map Prod.snd = back.take front.length := by
  induction front generalizing back with
  | nil => rfl
  | cons a front ih =>
      cases back with
      | nil => rfl
      | cons b back => exact congrArg (List.cons b) (ih back)

theorem map_snd_callsMeet (packets : List AVPacket) (drains : Nat)
    (events : List (Option (ServerFrame libs wireCompression))) :
    ((callsMeet avctx (decodeInputs packets drains) events).drop packets.length).map
        Prod.snd = (events.drop packets.length).take drains := by
  unfold callsMeet
  rw [List.map_drop, map_snd_zip_take, AVCodecContext.length_during,
    length_decodeInputs, List.drop_take, Nat.add_sub_cancel_left]

theorem drop_eventReturns (packets : List AVPacket) (drains : Nat)
    (events : List (Option (ServerFrame libs wireCompression))) :
    exists n, (eventReturns avctx frame events (decodeInputs packets drains)).drop
        packets.length =
      ((callsMeet avctx (decodeInputs packets drains) events).drop
        packets.length).map (fun call => eventReturn call.1 frame call.2) ++
        List.replicate n doneReturn := by
  unfold eventReturns
  rw [List.drop_append, List.drop_replicate, <- List.map_drop]
  exact ⟨_, rfl⟩

theorem drained_iff (packets : List AVPacket) (drains : Nat)
    (events : List (Option (ServerFrame libs wireCompression))) :
    (forall ret, ret ∈ (eventReturns avctx frame events
        (decodeInputs packets drains)).drop packets.length ->
      ret.endsDraining = false) <->
      none ∉ (events.drop packets.length).take drains := by
  rcases @drop_eventReturns _ _ avctx frame packets drains events with ⟨n, hdrop⟩
  rw [hdrop, <- @map_snd_callsMeet _ _ avctx]
  constructor
  · intro h hmem
    rcases List.mem_map.mp hmem with ⟨⟨context, event⟩, hcall, rfl⟩
    have hends := h _ (List.mem_append_left _ (List.mem_map_of_mem hcall))
    rw [endsDraining_eventReturn] at hends
    cases hends
  · intro hnone ret hret
    rcases List.mem_append.mp hret with hret | hret
    · rcases List.mem_map.mp hret with ⟨⟨context, event⟩, hcall, rfl⟩
      rw [endsDraining_eventReturn]
      cases event with
      | none => exact absurd (List.mem_map_of_mem hcall) hnone
      | some message => rfl
    · rw [List.eq_of_mem_replicate hret]
      rfl

theorem framesMet_complete {packets : List AVPacket} {drains : Nat}
    {events : List (Option (ServerFrame libs wireCompression))}
    (hinTime : none ∉ (events.drop packets.length).take drains)
    (hfew : (serverFrames events).length < drains) :
    (framesMet (callsMeet avctx (decodeInputs packets drains) events)).map Prod.snd =
      serverFrames events := by
  unfold callsMeet
  rw [map_snd_framesMet, AVCodecContext.length_during, length_decodeInputs]
  by_cases hle : events.length ≤ packets.length + drains
  · rw [List.take_of_length_le hle]
  · -- more events than calls: every call that drains met a message
    have hcount := length_serverFrames hinTime
    rw [List.length_take, List.length_drop] at hcount
    have hsub : List.Sublist ((events.drop packets.length).take drains) events :=
      (List.take_sublist _ _).trans (List.drop_sublist _ _)
    have hfewer : (serverFrames ((events.drop packets.length).take drains)).length ≤
        (serverFrames events).length := (hsub.filterMap id).length_le
    omega

/-- The results of a run are what the caller is to get exactly if the calls meet
messages that fit, and no timeout while they drain. -/
theorem decodesStream_eventReturns (packets : List AVPacket) (drains : Nat)
    (events : List (Option (ServerFrame libs wireCompression)))
    (hlinesize : forall i, -2147483648 ≤ avctx.getBuffer.linesize i ∧
      avctx.getBuffer.linesize i ≤ intMax) :
    DecodesStream avctx (serverFrames events) packets.length drains
        (eventReturns avctx frame events (decodeInputs packets drains)) <->
      MeetsFrames avctx packets drains events := by
  have hdescribes := @forall₂_describes_iff _ _ avctx frame
    (decodeInputs packets drains) events hlinesize
  have hdrained := @drained_iff _ _ avctx frame packets drains events
  have hhanded := handed_eventReturns avctx frame events (decodeInputs packets drains)
  have hprefix : (framesMet (callsMeet avctx (decodeInputs packets drains)
      events)).map Prod.snd <+: serverFrames events :=
    framesMet_prefix (avctx.during (decodeInputs packets drains)) events
  constructor
  · intro h
    refine ⟨hdrained.mp h.drained, ?_⟩
    rcases h.ordered with ⟨n, hordered⟩
    rw [hhanded] at hordered
    -- as many messages as frames: those that the calls met
    have hlength := hordered.length_eq
    rw [List.length_map] at hlength
    have hsame : (serverFrames events).take n = (framesMet (callsMeet avctx
        (decodeInputs packets drains) events)).map Prod.snd := by
      apply List.IsPrefix.eq_of_length
      · exact List.prefix_of_prefix_length_le (List.take_prefix _ _) hprefix
          (by rw [hlength, List.length_map])
      · rw [hlength, List.length_map]
    rw [hsame] at hordered
    exact hdescribes.mp hordered
  · intro h
    have hall := hdescribes.mpr h.fits
    constructor
    · refine ⟨((framesMet (callsMeet avctx (decodeInputs packets drains)
        events)).map Prod.snd).length, ?_⟩
      rw [hhanded, <- List.prefix_iff_eq_take.mp hprefix]
      exact hall
    · intro hfew
      rw [hhanded, <- @framesMet_complete _ _ avctx _ _ _ h.inTime hfew]
      exact hall
    · exact hdrained.mpr h.inTime

/-- From the state that init leaves, with a server that sends FRAME and PING
messages and DONE, and timeouts at message boundaries: the run returns, and what
it hands over is what the messages describe exactly if no timeout expires for a
call that drains and every message that is met fits the buffer and the packet
that was passed last. -/
theorem decodeRun_decodesStream_iff (libs : DecompressionLibraries)
    (avctx : AVCodecContext)
    (hlinesize : forall i, -2147483648 ≤ avctx.getBuffer.linesize i ∧
      avctx.getBuffer.linesize i ≤ intMax)
    (frame : AVFrame) (packets : List AVPacket) (drains : Nat) (wireCompression : Int)
    (items : List (DecodeItem libs wireCompression))
    (behind : List (Atom Errno)) (fd : Host) (hworking : fd.Working)
    (hstream : fd.stream = decoderStream behind items)
    (hpackets : forall pkt, pkt ∈ packets ->
      pkt.data.length + 32 ≤ maxAllocSize) :
    (exists results s',
      decodeRun hostLink libs avctx frame (decodeInputs packets drains)
          (VTRemoteDecContext.afterInit fd wireCompression) =
        .returned (.ok results) s' ∧
      DecodesStream avctx (serverFrames (DecodeItem.events items))
        packets.length drains results) <->
      MeetsFrames avctx packets drains (DecodeItem.events items) := by
  have hstreaming : Streaming
      (VTRemoteDecContext.afterInit fd wireCompression)
      (DecodeItem.events items) :=
    ⟨hworking, ⟨Nat.le_refl 0, rfl⟩, rfl, rfl, items, behind, hstream, rfl⟩
  have hcanSend : forall pkt, pkt ∈ decodeInputs packets drains ->
      CanSend (packetToSend pkt) := by
    intro pkt hpkt p hp
    have hsome : pkt = some p := (Option.filter_eq_some_iff.mp hp).1
    rcases List.mem_append.mp hpkt with hmem | hmem
    · rcases List.mem_map.mp hmem with ⟨p', hp', heq⟩
      rw [hsome] at heq
      cases heq
      exact hpackets p hp'
    · rw [hsome] at hmem
      cases List.eq_of_mem_replicate hmem
  rcases decodeRun_events frame avctx (decodeInputs packets drains) hstreaming
    hcanSend with ⟨s', hrun⟩
  rw [<- decodesStream_eventReturns frame packets drains _ hlinesize]
  constructor
  · intro h
    rcases h with ⟨results, s'', hrun', hdecodes⟩
    rw [hrun] at hrun'
    cases hrun'
    exact hdecodes
  · intro hdecodes
    exact ⟨_, s', hrun, hdecodes⟩

/-!
## A timeout while draining
-/

def lateFramePayload : Payload :=
  ⟨List.replicate 15 0 ++ [1] ++ List.replicate 4 0 ++ [2] ++
    [0, 0, 0, 2, 0, 0, 0, 1, 0, 0, 0, 2, 10, 11] ++
    [0, 0, 0, 2, 0, 0, 0, 1, 0, 0, 0, 2, 20, 21], by
    simp only [List.length_append, List.length_replicate, List.length_cons]
    decide⟩

def lateFrameView : VTRemoteFrameView where
  pts := 0
  duration := 1
  flags := 0
  planeCount := 2
  planes := [⟨2, 1, 2, [10, 11]⟩, ⟨2, 1, 2, [20, 21]⟩]
  sideDataCount := 0
  sideData := []

def noDecompression : DecompressionLibraries where
  lz4DecompressSafe src _ := some src
  zstdDecompressDCtx src _ := some src

def lateItems : List (DecodeItem noDecompression 0) :=
  [.timeout, .timeout,
    .frame
      { payload := lateFramePayload
        view := lateFrameView
        parsed := by decide +kernel
        planar := by decide
        shown := lateFrameView
        decompresses := .plain (by decide) }]

def lateFrameHost : Host where
  incoming := .fail eagain :: .fail eagain ::
    unread (wireMessage .frame lateFramePayload ++
      wireMessage .done Payload.empty) [.close]
  outgoing := { next := [], broken := none }
  heap := []
  log := []

/-- A frame after `av_frame_unref`. -/
def unreferencedFrame : AVFrame where
  format := .other (-1)
  data _ := []
  linesize _ := 0
  width := 0
  height := 0
  pts := avNoptsValue
  duration := 0
  pictType := .none
  sideData := []

def narrowCodecContext : AVCodecContext where
  pixFmt := .nv12
  width := 2
  height := 1
  size_pos := by decide
  getBuffer := { data := fun _ => [0, 0], linesize := fun _ => 2 }
  lastPktProps := unreferencedPacket
  propsSideData := fun _ => []

def onePacket : List AVPacket :=
  [{ data := [1], pts := 0, dts := 0, duration := 1, flags := 1 }]

theorem decodeRun_decodesStream_iff_late :
    (exists results s',
      decodeRun hostLink noDecompression narrowCodecContext unreferencedFrame
          (decodeInputs onePacket 2) (VTRemoteDecContext.afterInit lateFrameHost 0) =
        .returned (.ok results) s' ∧
      DecodesStream narrowCodecContext (serverFrames (DecodeItem.events lateItems))
        1 2 results) <->
      MeetsFrames narrowCodecContext onePacket 2 (DecodeItem.events lateItems) := by
  apply decodeRun_decodesStream_iff noDecompression narrowCodecContext
    (Fin.forall_fin_two.mpr (by decide)) unreferencedFrame onePacket 2 0 lateItems
    [.eof] lateFrameHost
  · refine ⟨⟨?_, rfl⟩, ?_⟩
    · intro answer hanswer
      cases hanswer
    · intro grant hgrant
      cases hgrant
  · decide +kernel
  · decide

/-- The first call that drains meets a timeout, and its result ends the draining
before the frame has arrived. -/
theorem not_decodesStream_late :
    ¬ exists results s',
      decodeRun hostLink noDecompression narrowCodecContext unreferencedFrame
          (decodeInputs onePacket 2) (VTRemoteDecContext.afterInit lateFrameHost 0) =
        .returned (.ok results) s' ∧
      DecodesStream narrowCodecContext (serverFrames (DecodeItem.events lateItems))
        1 2 results := by
  intro h
  rcases h with ⟨results, s', hrun, hdecodes⟩
  have hvalue : (decodeRun hostLink noDecompression narrowCodecContext
      unreferencedFrame (decodeInputs onePacket 2)
      (VTRemoteDecContext.afterInit lateFrameHost 0)).value.map
        (fun results => (results.drop 1).map DecodeReturn.endsDraining) =
      some [true, false] := by
    decide +kernel
  rw [hrun] at hvalue
  injection hvalue with hvalue
  rcases List.map_eq_cons_iff.mp hvalue with ⟨ret, rest, hdrop, hends, _⟩
  have hnot := hdecodes.drained ret (by rw [hdrop]; exact List.mem_cons_self)
  rw [hends] at hnot
  cases hnot

end VTRemote
