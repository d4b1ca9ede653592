import VTRemote.Client.FrameSubmission

/-!
# Exactly-once submission over runs

In a run of calls with frames, the FRAME messages on the wire are those of the
accepted frames, after every call, exactly if every call is clean.  The server's
messages come in any grouping and at any time; memory is granted.
-/

namespace VTRemote

variable {libs : CompressionLibraries}

def frameInputs (frames : List AVFrame) : List EncodeInput :=
  frames.map fun frame => ⟨some frame, false⟩

def acceptedFrames (frames : List AVFrame) (results : List EncodeReturn) :
    List AVFrame :=
  ((frames.zip results).filter fun p => p.2.accepted).map Prod.fst

theorem acceptedFrames_cons (frame : AVFrame) (frames : List AVFrame)
    (result : EncodeReturn) (results : List EncodeReturn) :
    acceptedFrames (frame :: frames) (result :: results) =
      List.replicate result.expected frame ++ acceptedFrames frames results := by
  unfold acceptedFrames EncodeReturn.expected
  rw [List.zip_cons_cons]
  cases haccepted : result.accepted with
  | true =>
      rw [List.filter_cons_of_pos (by exact haccepted)]
      rfl
  | false =>
      rw [List.filter_cons_of_neg (by simp [haccepted])]
      rfl

/-- After every number of calls that have returned, the FRAME messages written
are those of the accepted frames, each once and in order. -/
def SubmitsExactlyOnce (libs : CompressionLibraries) (frames : List AVFrame)
    (s : VTRemoteEncContext Host) : Prop :=
  forall k results s',
    encodeRun hostLink libs (frameInputs (frames.take k)) s =
        .returned (.ok results) s' ->
      exists written,
        frameMessages s'.fd.log = frameMessages s.fd.log ++ written ∧
        List.Forall₂ (FrameCarries libs s.wireCompression)
          (acceptedFrames (frames.take k) results) written

def CleanRun (libs : CompressionLibraries) :
    List AVFrame -> VTRemoteEncContext Host -> Prop
  | [], _ => True
  | frame :: frames, s =>
      (ffVtremoteEncode hostLink libs (some frame) false s).Ends
        (fun _ s' => CleanCall libs frame s ∧ CleanRun libs frames s')
        (fun _ => True)

/-!
## One call and the calls behind it
-/

structure Submitting (frames : List AVFrame) (s : VTRemoteEncContext Host) : Prop where
  session : exists offers, FrameSession s offers
  backed : forall frame, frame ∈ frames -> frame.Backed

theorem Submitting.wrote {frame : AVFrame} {frames : List AVFrame}
    {s s1 : VTRemoteEncContext Host} {ret : EncodeReturn}
    (h : Submitting (frame :: frames) s)
    (hcall : ffVtremoteEncode hostLink libs (some frame) false s =
      .returned (.ok ret) s1) :
    Submitting frames s1 ∧ exists n, Wrote libs frame n s s1 ∧
      (n = ret.expected <-> CleanCall libs frame s) := by
  have hsubmits := @ffVtremoteEncode_submits libs _ _ h.session
    (h.backed frame List.mem_cons_self) false
  rw [hcall] at hsubmits
  rcases hsubmits with ⟨ret', hret, hsession, n, hwrote, hclean⟩
  cases hret
  exact ⟨⟨hsession, fun frame hmem => h.backed frame (List.mem_cons_of_mem _ hmem)⟩,
    n, hwrote, hclean⟩

theorem encodeRun_grows {frames : List AVFrame}
    {s s' : VTRemoteEncContext Host} {results : List EncodeReturn}
    (h : Submitting frames s)
    (hrun : encodeRun hostLink libs (frameInputs frames) s =
      .returned (.ok results) s') :
    exists written,
      frameMessages s'.fd.log = frameMessages s.fd.log ++ written := by
  induction frames generalizing s results with
  | nil =>
      cases hrun
      exact ⟨[], (List.append_nil _).symm⟩
  | cons frame frames ih =>
      rcases encodeRun_cons_eq hrun with ⟨ret, rest, s1, _, hcall, hrest⟩
      rcases h.wrote hcall with ⟨h1, n, ⟨_, first, hfirst, _⟩, _⟩
      rcases ih h1 hrest with ⟨second, hsecond⟩
      refine ⟨first ++ second, ?_⟩
      rw [hsecond, hfirst, List.append_assoc]

theorem forall₂_replicate_iff {frame : AVFrame} {wireCompression : Int}
    {n : Nat} {written : List Payload}
    (hcarries : forall payload, payload ∈ written ->
      FrameCarries libs wireCompression frame payload) :
    List.Forall₂ (FrameCarries libs wireCompression)
        (List.replicate n frame) written <-> written.length = n := by
  constructor
  · intro h
    have hlen := h.length_eq
    rw [List.length_replicate] at hlen
    exact hlen.symm
  · intro hlen
    induction written generalizing n with
    | nil =>
        subst hlen
        exact List.Forall₂.nil
    | cons payload written ih =>
        subst hlen
        apply List.Forall₂.cons (hcarries payload List.mem_cons_self)
        apply ih _ rfl
        intro p hp
        exact hcarries p (List.mem_cons_of_mem payload hp)

section Calls

variable {frame : AVFrame} {frames : List AVFrame} {s s1 : VTRemoteEncContext Host}
  {ret : EncodeReturn}
  (hsubmitting : Submitting (frame :: frames) s)
  (hcall : ffVtremoteEncode hostLink libs (some frame) false s =
    .returned (.ok ret) s1)
include hsubmitting hcall

theorem SubmitsExactlyOnce.clean (h : SubmitsExactlyOnce libs (frame :: frames) s) :
    CleanCall libs frame s := by
  rcases hsubmitting.wrote hcall with
    ⟨_, n, ⟨_, first, hfirst, hlen, hcarries⟩, hclean⟩
  have hone : encodeRun hostLink libs (frameInputs ((frame :: frames).take 1)) s =
      .returned (.ok [ret]) s1 := encodeRun_cons hcall rfl
  rcases h 1 [ret] s1 hone with ⟨written, hwritten, hforall⟩
  have heq : first = written := by
    rw [hfirst] at hwritten
    exact List.append_cancel_left hwritten
  rw [List.take_succ_cons, acceptedFrames_cons] at hforall
  have hnil : acceptedFrames (List.take 0 frames) [] = [] := by
    rw [List.take_zero]
    rfl
  rw [hnil, List.append_nil, <- heq, forall₂_replicate_iff hcarries] at hforall
  apply hclean.mp
  rw [<- hlen, hforall]

theorem SubmitsExactlyOnce.tail (h : SubmitsExactlyOnce libs (frame :: frames) s) :
    SubmitsExactlyOnce libs frames s1 := by
  intro k results s' hrun
  have hcleanCall := h.clean hsubmitting hcall
  rcases hsubmitting.wrote hcall with
    ⟨hsubmitting1, n, ⟨hoptions, first, hfirst, hlen, hcarries⟩, hclean⟩
  have hsome : Submitting (frames.take k) s1 :=
    ⟨hsubmitting1.session,
      fun frame hmem => hsubmitting1.backed frame (List.mem_of_mem_take hmem)⟩
  rcases encodeRun_grows hsome hrun with ⟨second, hsecond⟩
  rcases h (k + 1) _ s' (encodeRun_cons hcall hrun) with
    ⟨written, hwritten, hforall⟩
  have heq : first ++ second = written := by
    rw [hsecond, hfirst, List.append_assoc] at hwritten
    exact List.append_cancel_left hwritten
  refine ⟨second, hsecond, ?_⟩
  rw [List.take_succ_cons, acceptedFrames_cons, <- heq] at hforall
  have hdrop := List.forall₂_drop ret.expected hforall
  rw [List.drop_left' (List.length_replicate),
    List.drop_left' (hlen.trans (hclean.mpr hcleanCall))] at hdrop
  rw [wireCompression_of_options hoptions]
  exact hdrop

theorem SubmitsExactlyOnce.cons (hcleanCall : CleanCall libs frame s)
    (h : SubmitsExactlyOnce libs frames s1) :
    SubmitsExactlyOnce libs (frame :: frames) s := by
  intro k results s' hrun
  cases k with
  | zero =>
      cases hrun
      exact ⟨[], (List.append_nil _).symm, List.Forall₂.nil⟩
  | succ k =>
      rcases encodeRun_cons_eq hrun with ⟨ret', rest, s2, rfl, hcall', hrest⟩
      rw [hcall] at hcall'
      cases hcall'
      rcases hsubmitting.wrote hcall with
        ⟨_, n, ⟨hoptions, first, hfirst, hlen, hcarries⟩, hclean⟩
      rcases h k rest s' hrest with ⟨second, hsecond, hforall⟩
      refine ⟨first ++ second, ?_, ?_⟩
      · rw [hsecond, hfirst, List.append_assoc]
      · rw [List.take_succ_cons, acceptedFrames_cons]
        apply List.rel_append
        · rw [forall₂_replicate_iff hcarries, hlen]
          exact hclean.mpr hcleanCall
        · rw [wireCompression_of_options hoptions] at hforall
          exact hforall

end Calls

theorem Submitting.exactlyOnce_iff {frames : List AVFrame}
    {s : VTRemoteEncContext Host} (h : Submitting frames s) :
    SubmitsExactlyOnce libs frames s <-> CleanRun libs frames s := by
  induction frames generalizing s with
  | nil =>
      constructor
      · intro _
        exact trivial
      · intro _ k results s' hrun
        rw [List.take_nil] at hrun ⊢
        cases hrun
        exact ⟨[], (List.append_nil _).symm, List.Forall₂.nil⟩
  | cons frame frames ih =>
      unfold CleanRun
      cases hcall : ffVtremoteEncode hostLink libs (some frame) false s with
      | blocked s1 =>
          constructor
          · intro _
            exact trivial
          · intro _ k results s' hrun
            cases k with
            | zero =>
                cases hrun
                exact ⟨[], (List.append_nil _).symm, List.Forall₂.nil⟩
            | succ k =>
                rcases encodeRun_cons_eq hrun with ⟨_, _, _, _, hcall', _⟩
                rw [hcall] at hcall'
                cases hcall'
      | returned r s1 =>
          have hsubmits := @ffVtremoteEncode_submits libs _ _ h.session
            (h.backed frame List.mem_cons_self) false
          rw [hcall] at hsubmits
          rcases hsubmits with ⟨ret, rfl, _⟩
          have h1 : Submitting frames s1 := (h.wrote hcall).1
          constructor
          · intro honce
            exact ⟨honce.clean h hcall, (ih h1).mp (honce.tail h hcall)⟩
          · intro hclean
            exact SubmitsExactlyOnce.cons h hcall hclean.1 ((ih h1).mpr hclean.2)

/-- In a run of calls with frames, the FRAME messages written are exactly those
of the frames whose call returned a code that is not negative, each once and in
order after every call, if and only if every call is clean. -/
theorem submitsExactlyOnce_iff (libs : CompressionLibraries) (frames : List AVFrame)
    (messages : List WireMessage) (fd : Host) (inflight : Nat)
    (wireCompression : Int) (codecId : AVCodecID)
    (hbacked : forall frame, frame ∈ frames -> frame.Backed) (hgranted : fd.Granted)
    (hstream : fd.Streams messages) :
    SubmitsExactlyOnce libs frames
        (VTRemoteEncContext.afterInit fd inflight wireCompression codecId) <->
      CleanRun libs frames
        (VTRemoteEncContext.afterInit fd inflight wireCompression codecId) := by
  rcases hstream.offers with ⟨offers, hoffers⟩
  apply Submitting.exactlyOnce_iff
  exact ⟨⟨offers, ⟨⟨hgranted, hoffers⟩, rfl, rfl⟩, rfl⟩, hbacked⟩

theorem acceptedFrames_length_le (frames : List AVFrame)
    (results : List EncodeReturn) :
    (acceptedFrames frames results).length ≤ frames.length := by
  unfold acceptedFrames
  rw [List.length_map]
  apply Nat.le_trans (List.length_filter_le _ _)
  rw [List.length_zip]
  exact Nat.min_le_left _ _

def answerPayload : Payload := ⟨List.replicate 32 0, by decide +kernel⟩

def answerMessage : WireMessage :=
  .of .packet answerPayload fun _ =>
    ⟨{ pts := 0, dts := 0, duration := 0, flags := 0, data := [], dataLen := 0 },
      by decide +kernel, by decide +kernel⟩

def answeringHost : Host where
  incoming := .quiet :: unread (wireMessage .packet answerPayload) []
  outgoing := { next := [], broken := none }
  heap := []
  log := []

theorem submitsExactlyOnce_iff_answering :
    SubmitsExactlyOnce noCompression [smallFrame, { smallFrame with pts := 1 }]
        (VTRemoteEncContext.afterInit answeringHost 2 0 .hevc) <->
      CleanRun noCompression [smallFrame, { smallFrame with pts := 1 }]
        (VTRemoteEncContext.afterInit answeringHost 2 0 .hevc) := by
  apply submitsExactlyOnce_iff noCompression _ [answerMessage] answeringHost 2 0 .hevc
  · decide +kernel
  · intro grant hgrant
    cases hgrant
  · decide +kernel

/-- With a window of one frame, the first frame is written twice. -/
theorem not_submitsExactlyOnce_window_one :
    ¬ SubmitsExactlyOnce noCompression [smallFrame]
      (VTRemoteEncContext.afterInit answeringHost 1 0 .hevc) := by
  have htwice : (frameMessages (encodeRun hostLink noCompression
      (frameInputs [smallFrame]) (VTRemoteEncContext.afterInit answeringHost 1 0
        .hevc)).state.fd.log).length = 2 := by
    decide +kernel
  have hvalue : (encodeRun hostLink noCompression (frameInputs [smallFrame])
      (VTRemoteEncContext.afterInit answeringHost 1 0 .hevc)).value.isSome =
        true := by
    decide +kernel
  intro h
  rcases Outcome.eq_of_value hvalue with ⟨results, hrun⟩
  rcases h 1 results _ hrun with ⟨written, hwritten, hforall⟩
  have hle := acceptedFrames_length_le (List.take 1 [smallFrame]) results
  rw [hforall.length_eq] at hle
  rw [hwritten] at htwice
  have hnil : frameMessages (VTRemoteEncContext.afterInit answeringHost 1 0
      AVCodecID.hevc).fd.log = [] := rfl
  rw [hnil, List.nil_append] at htwice
  rw [htwice] at hle
  exact absurd hle (by decide)

end VTRemote
