import VTRemote.Formats.SentFrame
import VTRemote.Formats.StubExchange

/-!
# The frames that the encoder sends

When memory is granted, it depends on the frame and the options alone whether
`ff_vtremote_common_send_frame` sends a FRAME or fails.
-/

namespace VTRemote

open Grammar

attribute [local irreducible] cInt

/-!
## What holds of every write
-/

structure WriteRule (P : WbufPut -> Prop) : Prop where
  done : P .done
  orThen : forall {first second}, P first -> P second -> P (first.orThen second)
  orReturn : forall {first second}, P first -> P second -> P (first.orReturn second)
  wbufPut : forall bytes, P (wbufPut bytes)
  refused : P fun b => ((averror einval).code, b)

namespace WriteRule

variable {P : WbufPut -> Prop} (rule : WriteRule P)
include rule

theorem putBytes (src : Bytes) (len : Int) : P (vtremoteWbufPutBytes src len) := by
  by_cases hneg : len < 0
  · have hput : vtremoteWbufPutBytes src len = fun b => ((averror einval).code, b) := by
      funext b
      exact if_pos hneg
    rw [hput]
    exact rule.refused
  · have hput : vtremoteWbufPutBytes src len = VTRemote.wbufPut (src.take len.toNat) := by
      funext b
      exact if_neg hneg
    rw [hput]
    exact rule.wbufPut _

theorem putPlanes (planes : List FramePlane) : P (VTRemote.putPlanes planes) := by
  induction planes with
  | nil => exact rule.done
  | cons p rest ih =>
      exact rule.orReturn (rule.orReturn (rule.orThen (rule.orThen
        (rule.wbufPut _) (rule.wbufPut _)) (rule.wbufPut _)) (rule.putBytes _ _)) ih

theorem putSideData {first : WbufPut} (hfirst : P first)
    (entries : List VTRemoteSideData) : P (VTRemote.putSideData first entries) := by
  induction entries generalizing first with
  | nil => exact hfirst
  | cons sd rest ih =>
      exact rule.orReturn (rule.orReturn (rule.orThen (rule.orThen hfirst
        (rule.wbufPut _)) (rule.wbufPut _)) (rule.putBytes _ _)) (ih rule.done)

theorem putFrame (frame : AVFrame) (planes : List FramePlane) :
    exists put, P put ∧
      forall b, VTRemote.putFrame frame planes b = put (vtremoteWbufReset b) := by
  have hsection : forall sideData count, P (putSideDataSection sideData count) := by
    intro sideData count
    unfold putSideDataSection
    split
    · split
      · exact rule.done
      · exact rule.putSideData (rule.wbufPut _) _
    · exact rule.done
  have hfixed := rule.orThen (rule.orThen (rule.orThen
    (rule.wbufPut (BigEndian.store64 frame.pts.toUInt64))
    (rule.wbufPut (BigEndian.store64 frame.duration.toUInt64)))
    (rule.wbufPut (BigEndian.store32 (if frame.pictType = .i then 1 else 0))))
    (rule.wbufPut [2])
  exact ⟨_, rule.orReturn hfixed (rule.orReturn (rule.putPlanes _) (hsection _ _)),
    fun _ => rfl⟩

end WriteRule

def KeepsGrants (put : WbufPut) : Prop :=
  forall b : VTRemoteWBuf, b.grants = [] -> (put b).2.grants = []

theorem keepsGrants_rule : WriteRule KeepsGrants where
  done := fun _ h => h
  orThen := fun hf hs b h => hs _ (hf b h)
  orReturn := by
    intro first second hf hs b h
    unfold WbufPut.orReturn
    by_cases hneg : (first b).1 < 0
    · simp only [if_pos hneg]
      exact hf b h
    · simp only [if_neg hneg]
      exact hs _ (hf b h)
  wbufPut := by
    intro bytes b h
    have hrealloc : (b.avFastRealloc (b.size + bytes.length)).grants = [] := by
      unfold VTRemoteWBuf.avFastRealloc
      split
      · exact h
      · split
        · exact h
        · unfold VTRemoteWBuf.avRealloc
          rw [h]
          rfl
    have hreserve : (b.wbufReserve bytes.length).2.grants = [] := by
      unfold VTRemoteWBuf.wbufReserve
      simp only
      split
      · exact hrealloc
      · exact hrealloc
    unfold VTRemote.wbufPut
    simp only
    split
    · exact hreserve
    · exact hreserve
  refused := fun _ h => h

theorem putFrame_keepsGrants (frame : AVFrame) (planes : List FramePlane) :
    KeepsGrants (putFrame frame planes) := by
  rcases keepsGrants_rule.putFrame frame planes with ⟨put, hput, heq⟩
  intro b h
  rw [heq]
  exact hput _ h

/-- A result code that ENOMEM and EINVAL are or'ed to. -/
def SmallCode (code : Int) : Prop :=
  code = 0 ∨ code = -12 ∨ code = -22 ∨ code = -2

theorem smallCode_lor {first second : Int} (hf : SmallCode first)
    (hs : SmallCode second) : SmallCode (Int.lor first second) := by
  rcases hf with rfl | rfl | rfl | rfl <;> rcases hs with rfl | rfl | rfl | rfl <;>
    (unfold SmallCode; decide +kernel)

theorem smallCode_rule : WriteRule fun put => forall b, SmallCode (put b).1 where
  done := fun _ => Or.inl rfl
  orThen := fun hf hs b => smallCode_lor (hf b) (hs _)
  orReturn := by
    intro first second hf hs b
    unfold WbufPut.orReturn
    by_cases hneg : (first b).1 < 0
    · simp only [if_pos hneg]
      exact hf b
    · simp only [if_neg hneg]
      exact smallCode_lor (hf b) (hs _)
  wbufPut := by
    intro bytes b
    rcases wbufPut_cases bytes b with ⟨_, hret⟩ | ⟨_, _, hret⟩
    · rw [hret]
      exact Or.inr (Or.inl rfl)
    · rw [hret]
      exact Or.inl rfl
  refused := fun _ => Or.inr (Or.inr (Or.inl rfl))

/-- A FRAME that cannot be written does not look like the end of the stream. -/
theorem putFrame_ne_eof (frame : AVFrame) (planes : List FramePlane)
    (b : VTRemoteWBuf) : (putFrame frame planes b).1 ≠ averrorEof.code := by
  rcases smallCode_rule.putFrame frame planes with ⟨put, hput, heq⟩
  rw [heq]
  rcases hput (vtremoteWbufReset b) with h | h | h | h <;>
    (rw [h]; decide)

/-!
## Which frames are sent
-/

section Sendable

variable {σ : Type} {link : Link σ} {libs : CompressionLibraries}

def CompressionLibraries.bounded (libs : CompressionLibraries)
    (wireCompression : Int) (frame : AVFrame) (i : Fin 2) : Bool :=
  ¬ ((wireCompression = 1 ∨ wireCompression = 2) ∧
    libs.compressBound wireCompression (cInt (planeSize frame i).toNat) = 0)

def sendPlanes (libs : CompressionLibraries) (wireCompression : Int)
    (frame : AVFrame) : Option (FramePlane × FramePlane) :=
  match sendPlane libs wireCompression frame 0,
    sendPlane libs wireCompression frame 1 with
  | .ok plane0, .ok plane1 => some (plane0, plane1)
  | _, _ => none

/-- The planes of the FRAME, if the format of the frame is supported and its planes
can be compressed. -/
def preparedPlanes (libs : CompressionLibraries) (codecId : AVCodecID)
    (wireCompression : Int) (frame : AVFrame) : Option (FramePlane × FramePlane) :=
  if supportedFormat codecId frame && libs.bounded wireCompression frame 0 &&
    libs.bounded wireCompression frame 1 then
    sendPlanes libs wireCompression frame
  else none

/-- The encoder sends a FRAME for the frame: its format is supported, its planes
can be compressed, and a write buffer can hold the message. -/
def sendable (libs : CompressionLibraries) (codecId : AVCodecID)
    (wireCompression : Int) (frame : AVFrame) : Bool :=
  supportedFormat codecId frame &&
    libs.bounded wireCompression frame 0 &&
    libs.bounded wireCompression frame 1 &&
    (sendPlanes libs wireCompression frame).any fun planes =>
      (sentFrame frame [planes.1, planes.2]).encode.length ≤ maxAllocSize

/-- Behind the pointers are the bytes of the planes. -/
def AVFrame.Backed (frame : AVFrame) : Prop :=
  forall i, (planeSize frame i).toNat ≤ (frame.data i).length

instance (frame : AVFrame) : Decidable frame.Backed :=
  inferInstanceAs (Decidable
    (forall i, (planeSize frame i).toNat ≤ (frame.data i).length))

theorem sendable_eq (libs : CompressionLibraries) (codecId : AVCodecID)
    (wireCompression : Int) (frame : AVFrame) :
    sendable libs codecId wireCompression frame =
      (preparedPlanes libs codecId wireCompression frame).any fun planes =>
        (sentFrame frame [planes.1, planes.2]).encode.length ≤ maxAllocSize := by
  unfold sendable preparedPlanes
  split
  · rename_i hprepared
    rw [hprepared, Bool.true_and]
  · rename_i hprepared
    rw [Bool.eq_false_iff.mpr hprepared, Bool.false_and]
    rfl

theorem sendPlanes_eq_some {wireCompression : Int} {frame : AVFrame}
    {planes : FramePlane × FramePlane}
    (h : sendPlanes libs wireCompression frame = some planes) :
    sendPlane libs wireCompression frame 0 = .ok planes.1 ∧
      sendPlane libs wireCompression frame 1 = .ok planes.2 := by
  unfold sendPlanes at h
  split at h
  · rename_i plane0 plane1 h0 h1
    cases h
    exact ⟨h0, h1⟩
  · cases h

theorem sendPlane_size_le {wireCompression : Int} {frame : AVFrame} {i : Fin 2}
    {plane : FramePlane} (hbacked : frame.Backed)
    (h : sendPlane libs wireCompression frame i = .ok plane) :
    plane.size.toNat ≤ plane.data.length := by
  unfold sendPlane at h
  by_cases hcompress : wireCompression = 1 ∨ wireCompression = 2
  · simp only [if_pos hcompress] at h
    split at h
    · rename_i out _
      cases h
      show (UInt32.ofNat out.length).toNat ≤ out.length
      rw [UInt32.toNat_ofNat']
      exact Nat.mod_le _ _
    · cases h
  · simp only [if_neg hcompress] at h
    cases h
    exact hbacked i

/-!
## Sending one
-/

def Prepared (R : σ -> Prop) (s s' : VTRemoteEncContext σ) : Prop :=
  exists fd compBufCap zstdCctx, R fd ∧ s' = { s with fd, compBufCap, zstdCctx }

def Readies (R : σ -> Prop) (s s' : VTRemoteEncContext σ) : Prop :=
  exists fd frameBuf compBufCap zstdCctx, R fd ∧ frameBuf.grants = [] ∧
    s' = { s with fd, frameBuf, compBufCap, zstdCctx }

variable {R : σ -> Prop}

theorem Prepared.refl {s : VTRemoteEncContext σ} (hfd : R s.fd) : Prepared R s s :=
  ⟨s.fd, s.compBufCap, s.zstdCctx, hfd, rfl⟩

theorem Prepared.trans {s s1 s2 : VTRemoteEncContext σ} (h1 : Prepared R s s1)
    (h2 : Prepared R s1 s2) : Prepared R s s2 := by
  rcases h1 with ⟨_, _, _, _, rfl⟩
  rcases h2 with ⟨fd, compBufCap, zstdCctx, hfd, rfl⟩
  exact ⟨fd, compBufCap, zstdCctx, hfd, rfl⟩

theorem Prepared.fd {s s' : VTRemoteEncContext σ} (h : Prepared R s s') : R s'.fd := by
  rcases h with ⟨_, _, _, hfd, rfl⟩
  exact hfd

theorem Prepared.wireCompression {s s' : VTRemoteEncContext σ}
    (h : Prepared R s s') : s'.wireCompression = s.wireCompression := by
  rcases h with ⟨_, _, _, _, rfl⟩
  rfl

theorem Prepared.frameBuf {s s' : VTRemoteEncContext σ} (h : Prepared R s s') :
    s'.frameBuf = s.frameBuf := by
  rcases h with ⟨_, _, _, _, rfl⟩
  rfl

theorem Prepared.readies {s s' : VTRemoteEncContext σ} (h : Prepared R s s')
    (hgrants : s.frameBuf.grants = []) : Readies R s s' := by
  rcases h with ⟨fd, compBufCap, zstdCctx, hfd, rfl⟩
  exact ⟨fd, s.frameBuf, compBufCap, zstdCctx, hfd, hgrants, rfl⟩

theorem Readies.fd {s s' : VTRemoteEncContext σ} (h : Readies R s s') : R s'.fd := by
  rcases h with ⟨_, _, _, _, hfd, _, rfl⟩
  exact hfd

theorem orFail_ok {α : Type} (a : α) (s : VTRemoteEncContext σ) :
    (orFail (.ok a) : EncCall σ α) s = .returned (.ok a) s := rfl

theorem orFail_error {α : Type} (e : AvError) (s : VTRemoteEncContext σ) :
    (orFail (.error e) : EncCall σ α) s = .returned (.error e) s := rfl

variable (hmalloc : forall fd, R fd ->
  exists fd', link.malloc fd = .returned (.ok ()) fd' ∧ R fd')
include hmalloc

theorem growCompBuf_granted (i : Fin 2) (bound : Int)
    {s : VTRemoteEncContext σ} (hfd : R s.fd) :
    exists fd compBufCap, R fd ∧ growCompBuf link i bound s =
      .returned (.ok ()) { s with fd, compBufCap } := by
  unfold growCompBuf Call.when
  rw [Call.get_bind]
  split
  · rcases hmalloc s.fd hfd with ⟨fd, hcall, hfd'⟩
    refine ⟨fd, Function.update s.compBufCap i bound, hfd', ?_⟩
    rw [Call.bind_of_ok _ (onLink_of_returned hcall)]
    rfl
  · exact ⟨s.fd, s.compBufCap, hfd, rfl⟩

theorem createCctx_granted {s : VTRemoteEncContext σ} (hfd : R s.fd) :
    exists fd zstdCctx, R fd ∧ createCctx link s =
      .returned (.ok ()) { s with fd, zstdCctx } := by
  unfold createCctx Call.when
  rw [Call.get_bind]
  split
  · rcases hmalloc s.fd hfd with ⟨fd, hcall, hfd'⟩
    refine ⟨fd, true, hfd', ?_⟩
    rw [Call.bind_of_ok _ (onLink_of_returned hcall)]
    rfl
  · exact ⟨s.fd, s.zstdCctx, hfd, rfl⟩

theorem prepareCompression_granted {frame : AVFrame} {i : Fin 2}
    {s : VTRemoteEncContext σ} (hfd : R s.fd)
    (hbounded : libs.bounded s.wireCompression frame i = true) :
    exists s1, prepareCompression link libs frame i s =
      .returned (.ok ()) s1 ∧ Prepared R s s1 := by
  have hbound := of_decide_eq_true hbounded
  unfold prepareCompression
  rw [Call.get_bind]
  split
  · rename_i hcompress
    simp only
    rw [if_neg fun hzero => hbound ⟨hcompress, hzero⟩]
    rcases growCompBuf_granted hmalloc i (cInt (libs.compressBound
      s.wireCompression (cInt (planeSize frame i).toNat))) hfd with
      ⟨fd1, compBufCap, hfd1, hgrow⟩
    rcases createCctx_granted hmalloc (s := { s with fd := fd1, compBufCap := compBufCap })
      hfd1 with ⟨fd2, zstdCctx, hfd2, hcctx⟩
    rw [Call.bind_of_ok _ hgrow, hcctx]
    exact ⟨_, rfl, fd2, compBufCap, zstdCctx, hfd2, rfl⟩
  · exact ⟨s, rfl, Prepared.refl hfd⟩

omit hmalloc in
theorem prepareCompression_unbounded {frame : AVFrame} {i : Fin 2}
    {s : VTRemoteEncContext σ}
    (hbounded : libs.bounded s.wireCompression frame i = false) :
    prepareCompression link libs frame i s =
      .returned (.error averrorExternal) s := by
  have hbound := not_not.mp (of_decide_eq_false hbounded)
  unfold prepareCompression
  rw [Call.get_bind, if_pos hbound.1]
  rw [if_pos hbound.2]
  rfl

omit hmalloc in
theorem putFrame_of_le {frame : AVFrame} {plane0 plane1 : FramePlane}
    {b : VTRemoteWBuf} (hgrants : b.grants = [])
    (h0 : plane0.size.toNat ≤ plane0.data.length)
    (h1 : plane1.size.toNat ≤ plane1.data.length)
    (hle : (sentFrame frame [plane0, plane1]).encode.length ≤ maxAllocSize) :
    (putFrame frame [plane0, plane1] (vtremoteWbufReset b)).1 = 0 := by
  have hargs : FrameArguments 2 _ _ (UInt8.ofNat (sendSideData frame).length) :=
    sentFrame_arguments h0 h1
  have hb : (vtremoteWbufReset b).Granted := ⟨b.sound_reset, hgrants⟩
  unfold putFrame
  rw [<- vtremotePayloadFrame_cut]
  exact (vtremotePayloadFrame_succeeds hargs (List.cons_ne_nil _ _) hb hle).1

omit hmalloc in
theorem putFrame_of_lt {frame : AVFrame} {plane0 plane1 : FramePlane}
    {b : VTRemoteWBuf} (h0 : plane0.size.toNat ≤ plane0.data.length)
    (h1 : plane1.size.toNat ≤ plane1.data.length)
    (hlt : maxAllocSize < (sentFrame frame [plane0, plane1]).encode.length) :
    (putFrame frame [plane0, plane1] b).1 < 0 := by
  apply Int.not_le.mp
  intro hret
  have hlen := (putFrame frame [plane0, plane1] b).2.contents_length_le
  rw [putFrame_encode h0 h1 hret] at hlen
  exact Nat.not_le_of_lt hlt hlen

def frameMessage (frame : AVFrame) (plane0 plane1 : FramePlane) : Bytes :=
  (sentFrame frame [plane0, plane1]).encode

def sendCounted (link : Link σ) (payload : Payload) : EncCall σ Unit := do
  onLink (link.sendMsg .frame payload)
  Call.modify fun s =>
    { s with
      inflightFrames := s.inflightFrames + 1
      framesSent := s.framesSent + 1 }

omit hmalloc in
theorem sendCounted_of_ok {payload : Payload} {s : VTRemoteEncContext σ} {fd : σ}
    (hsend : link.sendMsg .frame payload s.fd = .returned (.ok ()) fd) :
    sendCounted link payload s = .returned (.ok ())
      { s with
        fd := fd
        inflightFrames := s.inflightFrames + 1
        framesSent := s.framesSent + 1 } :=
  Call.bind_of_ok _ (onLink_of_returned hsend)

omit hmalloc in
theorem sendCounted_of_error {payload : Payload} {s : VTRemoteEncContext σ} {fd : σ}
    {e : AvError} (hsend : link.sendMsg .frame payload s.fd = .returned (.error e) fd) :
    sendCounted link payload s = .returned (.error e) { s with fd := fd } :=
  Call.bind_of_error _ (onLink_of_returned hsend)

omit hmalloc in
theorem sendPlane_ne_eof {wireCompression : Int} {frame : AVFrame} {i : Fin 2}
    {e : AvError} (h : sendPlane libs wireCompression frame i = .error e) :
    e ≠ averrorEof := by
  unfold sendPlane at h
  by_cases hcompress : wireCompression = 1 ∨ wireCompression = 2
  · simp only [if_pos hcompress] at h
    split at h
    · cases h
    · have he : averrorExternal = e := Except.error.inj h
      rw [<- he]
      decide
  · simp only [if_neg hcompress] at h
    cases h

theorem sendFrame_of_prepared {frame : AVFrame} {s : VTRemoteEncContext σ}
    (hconnected : s.connected = true) (hfd : R s.fd) {plane0 plane1 : FramePlane}
    (h : preparedPlanes libs s.codecId s.wireCompression frame =
      some (plane0, plane1)) :
    exists s1, Prepared R s s1 ∧
      ffVtremoteCommonSendFrame link libs (some frame) s =
        sendPayload link frame [plane0, plane1] s1 := by
  unfold preparedPlanes at h
  split at h
  · rename_i hsupported
    simp only [Bool.and_eq_true] at hsupported
    rcases hsupported with ⟨⟨hformat, hbounded0⟩, hbounded1⟩
    rcases sendPlanes_eq_some h with ⟨hplane0, hplane1⟩
    rcases prepareCompression_granted hmalloc hfd hbounded0 with ⟨s1, hprepare0, hs1⟩
    rw [<- hs1.wireCompression] at hbounded1
    rcases prepareCompression_granted hmalloc hs1.fd hbounded1 with
      ⟨s2, hprepare1, hs2⟩
    refine ⟨s2, hs1.trans hs2, ?_⟩
    rw [ffVtremoteCommonSendFrame, Call.get_bind,
      if_neg (by simp [hconnected]), if_neg (by simp [hformat]),
      Call.bind_of_ok _ hprepare0, hplane0, Call.bind_of_ok _ (orFail_ok _ s1),
      Call.bind_of_ok _ hprepare1, hplane1, Call.bind_of_ok _ (orFail_ok _ s2)]
  · cases h

theorem sendFrame_of_unprepared {frame : AVFrame} {s : VTRemoteEncContext σ}
    (hconnected : s.connected = true) (hfd : R s.fd)
    (h : preparedPlanes libs s.codecId s.wireCompression frame = none) :
    exists e s1, e ≠ averrorEof ∧ Prepared R s s1 ∧
      ffVtremoteCommonSendFrame link libs (some frame) s =
        .returned (.error e) s1 := by
  have hrefl := Prepared.refl hfd
  rw [ffVtremoteCommonSendFrame, Call.get_bind, if_neg (by simp [hconnected])]
  cases hformat : supportedFormat s.codecId frame with
  | false => exact ⟨_, s, by decide, hrefl, rfl⟩
  | true =>
  rw [if_neg (by simp)]
  cases hbounded0 : libs.bounded s.wireCompression frame 0 with
  | false =>
      rw [Call.bind_of_error _ (prepareCompression_unbounded hbounded0)]
      exact ⟨_, s, by decide, hrefl, rfl⟩
  | true =>
  rcases prepareCompression_granted hmalloc hfd hbounded0 with ⟨s1, hprepare0, hs1⟩
  rw [Call.bind_of_ok _ hprepare0]
  cases hplane0 : sendPlane libs s.wireCompression frame 0 with
  | error e =>
      rw [Call.bind_of_error _ (orFail_error e s1)]
      exact ⟨e, s1, sendPlane_ne_eof hplane0, hs1, rfl⟩
  | ok plane0 =>
  rw [Call.bind_of_ok _ (orFail_ok plane0 s1)]
  cases hbounded1 : libs.bounded s.wireCompression frame 1 with
  | false =>
      rw [<- hs1.wireCompression] at hbounded1
      rw [Call.bind_of_error _ (prepareCompression_unbounded hbounded1)]
      exact ⟨_, s1, by decide, hs1, rfl⟩
  | true =>
  have hbounded1' := hbounded1
  rw [<- hs1.wireCompression] at hbounded1'
  rcases prepareCompression_granted hmalloc hs1.fd hbounded1' with
    ⟨s2, hprepare1, hs2⟩
  rw [Call.bind_of_ok _ hprepare1]
  cases hplane1 : sendPlane libs s.wireCompression frame 1 with
  | error e =>
      rw [Call.bind_of_error _ (orFail_error e s2)]
      exact ⟨e, s2, sendPlane_ne_eof hplane1, hs1.trans hs2, rfl⟩
  | ok plane1 =>
  unfold preparedPlanes sendPlanes at h
  simp only [hformat, hbounded0, hbounded1, hplane0, hplane1, Bool.and_self,
    if_true] at h
  cases h

omit hmalloc in
theorem sendPayload_of_put {frame : AVFrame} {planes : List FramePlane}
    {s : VTRemoteEncContext σ}
    (hput : ¬ (putFrame frame planes (vtremoteWbufReset s.frameBuf)).1 < 0) :
    sendPayload link frame planes s =
      sendCounted link (putFrame frame planes (vtremoteWbufReset s.frameBuf)).2.payload
        { s with
          frameBuf := (putFrame frame planes (vtremoteWbufReset s.frameBuf)).2 } := by
  simp only [sendPayload, Call.get_bind, Call.modify_bind, dif_neg hput]
  rfl

omit hmalloc in
theorem sendPayload_of_refused {frame : AVFrame} {planes : List FramePlane}
    {s : VTRemoteEncContext σ}
    (hput : (putFrame frame planes (vtremoteWbufReset s.frameBuf)).1 < 0) :
    exists e, e ≠ averrorEof ∧
      sendPayload link frame planes s = .returned (.error e)
        { s with
          frameBuf := (putFrame frame planes (vtremoteWbufReset s.frameBuf)).2 } := by
  refine ⟨⟨_, hput⟩, ?_, ?_⟩
  · intro heof
    exact putFrame_ne_eof _ _ _ (congrArg AvError.code heof)
  · simp only [sendPayload, Call.get_bind, Call.modify_bind, dif_pos hput]
    rfl

omit hmalloc in
theorem Prepared.put {s s1 : VTRemoteEncContext σ} (h : Prepared R s s1)
    (hgrants : s.frameBuf.grants = []) (frame : AVFrame) (planes : List FramePlane) :
    Readies R s { s1 with
      frameBuf := (putFrame frame planes (vtremoteWbufReset s1.frameBuf)).2 } := by
  rcases h with ⟨fd, compBufCap, zstdCctx, hfd, rfl⟩
  exact ⟨fd, _, compBufCap, zstdCctx, hfd, putFrame_keepsGrants _ _ _ hgrants, rfl⟩

omit hmalloc in
theorem preparedPlanes_size_le {codecId : AVCodecID} {wireCompression : Int}
    {frame : AVFrame} {planes : FramePlane × FramePlane} (hbacked : frame.Backed)
    (h : preparedPlanes libs codecId wireCompression frame = some planes) :
    planes.1.size.toNat ≤ planes.1.data.length ∧
      planes.2.size.toNat ≤ planes.2.data.length := by
  unfold preparedPlanes at h
  split at h
  · rcases sendPlanes_eq_some h with ⟨hplane0, hplane1⟩
    exact ⟨sendPlane_size_le hbacked hplane0, sendPlane_size_le hbacked hplane1⟩
  · cases h

theorem sendFrame_of_sendable {frame : AVFrame} {s : VTRemoteEncContext σ}
    (hconnected : s.connected = true) (hfd : R s.fd) (hgrants : s.frameBuf.grants = [])
    (hbacked : frame.Backed)
    (h : sendable libs s.codecId s.wireCompression frame = true) :
    exists plane0 plane1,
      sendPlanes libs s.wireCompression frame = some (plane0, plane1) ∧
      exists (hle : (frameMessage frame plane0 plane1).length ≤ maxAllocSize),
        exists s1, Readies R s s1 ∧
          ffVtremoteCommonSendFrame link libs (some frame) s =
            sendCounted link ⟨frameMessage frame plane0 plane1, hle⟩ s1 := by
  rw [sendable_eq] at h
  rcases (Option.any_eq_true _ _).mp h with ⟨⟨plane0, plane1⟩, hprepared, hlength⟩
  have hle : (frameMessage frame plane0 plane1).length ≤ maxAllocSize :=
    of_decide_eq_true hlength
  have hplanes : sendPlanes libs s.wireCompression frame = some (plane0, plane1) := by
    have hsome := hprepared
    unfold preparedPlanes at hsome
    split at hsome
    · exact hsome
    · cases hsome
  rcases preparedPlanes_size_le hbacked hprepared with ⟨h0, h1⟩
  rcases sendFrame_of_prepared hmalloc hconnected hfd hprepared with ⟨s1, hs1, hcall⟩
  have hret := putFrame_of_le (b := s1.frameBuf) (hs1.frameBuf ▸ hgrants) h0 h1 hle
  have hpayload : (putFrame frame [plane0, plane1]
      (vtremoteWbufReset s1.frameBuf)).2.payload =
        ⟨frameMessage frame plane0 plane1, hle⟩ := by
    have hcontents := putFrame_encode h0 h1 (Int.le_of_eq hret.symm)
    unfold VTRemoteWBuf.payload
    simp only [hcontents]
    rfl
  refine ⟨plane0, plane1, hplanes, hle, _,
    hs1.put hgrants frame [plane0, plane1], ?_⟩
  rw [hcall, sendPayload_of_put (by rw [hret]; exact Int.lt_irrefl 0), hpayload]

theorem sendFrame_of_unsendable {frame : AVFrame} {s : VTRemoteEncContext σ}
    (hconnected : s.connected = true) (hfd : R s.fd) (hgrants : s.frameBuf.grants = [])
    (hbacked : frame.Backed)
    (h : sendable libs s.codecId s.wireCompression frame = false) :
    exists e s1, e ≠ averrorEof ∧ Readies R s s1 ∧
      ffVtremoteCommonSendFrame link libs (some frame) s =
        .returned (.error e) s1 := by
  cases hprepared : preparedPlanes libs s.codecId s.wireCompression frame with
  | none =>
      rcases sendFrame_of_unprepared hmalloc hconnected hfd hprepared with
        ⟨e, s1, hne, hs1, hcall⟩
      exact ⟨e, s1, hne, hs1.readies hgrants, hcall⟩
  | some planes =>
      rcases sendFrame_of_prepared hmalloc hconnected hfd hprepared with
        ⟨s1, hs1, hcall⟩
      rcases preparedPlanes_size_le hbacked hprepared with ⟨h0, h1⟩
      rw [sendable_eq, hprepared] at h
      have hlong : maxAllocSize < (frameMessage frame planes.1 planes.2).length :=
        Nat.lt_of_not_le (of_decide_eq_false h)
      rcases sendPayload_of_refused (s := s1) (putFrame_of_lt h0 h1 hlong) with
        ⟨e, hne, hrefused⟩
      exact ⟨e, _, hne, hs1.put hgrants frame [planes.1, planes.2],
        hcall.trans hrefused⟩

end Sendable
end VTRemote
