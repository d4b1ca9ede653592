import VTRemote.Server.PacketOrder

/-!
# The frame that warms the encoder up

`configure` submits a frame of its own and waits for its sample, which the
callback discards; a flag tells the callback to, and another one makes the first
frame of the client a key frame.  The flags stand for the frame in every run in
which its sample comes before those of the client.
-/

namespace VTRemote

open EncoderSession PartialRun

/-!
## Runs of an encoder
-/

/-- A frame in the encoder: that of the warm-up or one of the client, by its
number. -/
inductive FrameSource where
  | warmup
  | client (number : Nat)
deriving DecidableEq, Repr

/-- The session, the frames in the encoder, and what has happened: whether the
warm-up submitted a frame and is over, the frames of the client that were
submitted, and the sources of the samples with data, in the order of their
callbacks, and of those that the warm-up branch took. -/
structure Encoding where
  callbacks : Callbacks FrameSource
  warmupSubmitted : Bool
  configured : Bool := false
  encoder : List FrameSource
  submitted : List EncodeFrame := []
  returned : List FrameSource := []
  discarded : List FrameSource := []

/-- The wait of the warm-up ends, for a signal or not; a FRAME comes; the encoder
is done with a frame; a callback sends; the main thread sends. -/
inductive EncodingStep where
  | endWarmup
  | frame (pool : Except VTRemotedError PixelBuffer) (payload : List UInt8)
  | callback (source : FrameSource) (output : EncoderOutput)
  | send (index : Nat)
  | reply (type : VTRemoteMsgType) (bodyParts : List (List UInt8))

namespace Encoding

variable (strerror : Int -> String) (codecs : PlaneCodecs)

/-- `configure` of a new session that encodes, up to the wait of the warm-up. -/
def start (config : ClientConfiguration) (pixelBuffer : Bool)
    (connection : VTRWireConnection) : Except Failure Encoding := do
  let session : EncoderSession := { config := some config, compressionSession := true }
  let (session, warmupSubmitted) ← session.beginWarmup pixelBuffer
  pure
    { callbacks := Callbacks.start session connection
      warmupSubmitted
      encoder := if warmupSubmitted then [.warmup] else [] }

def session (s : Encoding) : EncoderSession := s.callbacks.session

def setSession (s : Encoding) (session : EncoderSession) : Encoding :=
  { s with callbacks := { s.callbacks with session } }

/-- A FRAME that is refused leaves the session as it is. -/
def frameStep (s : Encoding) (pool : Except VTRemotedError PixelBuffer)
    (payload : List UInt8) : Option Encoding :=
  match s.session.handleFrameMessage codecs pool payload with
  | .error .trapped => none
  | .error (.thrown _) => some s
  | .ok (_, none) => some s
  | .ok (session, some frame) =>
      some { s.setSession { s.session with toVideoToolboxCodecSession := session } with
        encoder := s.encoder ++ [.client s.submitted.length]
        submitted := s.submitted ++ [frame] }

def callbackStep (s : Encoding) (source : FrameSource) (output : EncoderOutput) :
    Option Encoding :=
  match s.session.outputCallback output,
      s.callbacks.step strerror (.process source output) with
  | .ok (_, fate), some callbacks =>
      some { s with
        callbacks
        encoder := s.encoder.erase source
        returned := if output.HasData then s.returned ++ [source] else s.returned
        discarded :=
          if fate = .discarded then s.discarded ++ [source] else s.discarded }
  | _, _ => none

def step (s : Encoding) : EncodingStep -> Option Encoding
  | .endWarmup =>
      if s.configured then none
      else some { s.setSession s.session.endWarmup with configured := true }
  | .frame pool payload =>
      if s.configured then s.frameStep codecs pool payload else none
  | .callback source output =>
      if source ∈ s.encoder then s.callbackStep strerror source output else none
  | .send index =>
      (s.callbacks.step strerror (.send index)).map fun callbacks =>
        { s with callbacks }
  | .reply type bodyParts =>
      (s.callbacks.step strerror (.reply type bodyParts)).map fun callbacks =>
        { s with callbacks }

/-!
## What the warm-up is for
-/

def FirstForced (s : Encoding) : Prop :=
  forall frame, frame ∈ s.submitted.head? -> frame.forceKey = true

/-- No sample of the client is discarded, no sample of the warm-up is sent, and
the first frame of the client is a key frame. -/
structure DiscardsWarmup (s : Encoding) : Prop where
  kept : forall number, .client number ∉ s.discarded
  unsent : forall w, w ∈ s.callbacks.senders -> w.callback ≠ .warmup
  forced : s.FirstForced

def requestsKey (payload : List UInt8) : Bool :=
  match readFramePlanes (ByteReader.init payload) with
  | .ok (planes, _) => planes.flags &&& 1 != 0
  | .error _ => false

def submits (s : Encoding) (pool : Except VTRemotedError PixelBuffer)
    (payload : List UInt8) : Bool :=
  match s.session.handleFrameMessage codecs pool payload with
  | .ok (_, some _) => true
  | _ => false

/-- A sample of the client comes back behind that of the warm-up, and the first
FRAME that is submitted comes behind it as well or asks for a key frame. -/
def WarmedUp (s : Encoding) : EncodingStep -> Prop
  | .callback (.client _) output => output.HasData -> s.warmupSubmitted = true ->
      .warmup ∈ s.returned
  | .frame pool payload =>
      s.submitted = [] -> s.submits codecs pool payload = true ->
      requestsKey payload = true ∨ .warmup ∈ s.returned
  | _ => True

def Sound (s : Encoding) : EncodingStep -> Prop
  | .callback (.client _) output => forall session,
      s.session.outputCallback output ≠ .ok (session, .discarded)
  | .frame pool payload => s.submitted = [] -> forall session frame,
      s.session.handleFrameMessage codecs pool payload =
        .ok (session, some frame) -> frame.forceKey = true
  | _ => True

end Encoding

/-!
## One step
-/

theorem VideoToolboxCodecSession.handleFrameMessage_submitted
    {codecs : PlaneCodecs} {s s' : VideoToolboxCodecSession}
    {pool : Except VTRemotedError PixelBuffer} {payload : List UInt8}
    {frame : EncodeFrame}
    (h : s.handleFrameMessage codecs pool payload = .ok (s', some frame)) :
    s' = { s with forceKeyframeNext := false } ∧
      frame.forceKey = (Encoding.requestsKey payload || s.forceKeyframeNext) := by
  rcases handleFrameMessage_eq_ok h with ⟨config, planes, reader, _, hread, hencode⟩
  rcases encodePlanes_eq_ok hencode with
    ⟨_, _, _, _, _, _, _, _, _, _, _, _, _, _, hsession, hforce⟩
  unfold Encoding.requestsKey
  rw [hread]
  exact ⟨hsession, hforce⟩

namespace Encoding

variable {strerror : Int -> String} {codecs : PlaneCodecs} {s s' : Encoding}

theorem submits_iff {pool : Except VTRemotedError PixelBuffer}
    {payload : List UInt8} :
    s.submits codecs pool payload = true <-> exists session frame,
      s.session.handleFrameMessage codecs pool payload =
        .ok (session, some frame) := by
  unfold submits
  constructor
  · intro h
    split at h
    · rename_i session frame hframe
      exact ⟨session, frame, hframe⟩
    · cases h
  · intro h
    rcases h with ⟨session, frame, hframe⟩
    rw [hframe]

theorem frameStep_eq_some {pool : Except VTRemotedError PixelBuffer}
    {payload : List UInt8} (h : s.frameStep codecs pool payload = some s') :
    (s.submits codecs pool payload = false ∧ s' = s) ∨
    exists session frame,
      s.session.handleFrameMessage codecs pool payload =
        .ok (session, some frame) ∧
      s' = { s.setSession { s.session with toVideoToolboxCodecSession := session } with
        encoder := s.encoder ++ [.client s.submitted.length]
        submitted := s.submitted ++ [frame] } := by
  unfold frameStep at h
  unfold submits
  split at h
  · cases h
  · rename_i hframe
    cases h
    rw [hframe]
    exact .inl ⟨rfl, rfl⟩
  · rename_i hframe
    cases h
    rw [hframe]
    exact .inl ⟨rfl, rfl⟩
  · rename_i session frame hframe
    cases h
    exact .inr ⟨session, frame, hframe, rfl⟩

theorem callbackStep_eq_some {source : FrameSource} {output : EncoderOutput}
    (h : s.callbackStep strerror source output = some s') :
    exists fate callbacks,
      s.session.outputCallback output = .ok (callbacks.session, fate) ∧
      callbacks.senders = s.callbacks.senders ∧
      ((exists packet, fate = .emitted packet ∧
          callbacks.emitted = s.callbacks.emitted ++
            [{ callback := source, met := s.session.timestampTracker, packet }]) ∨
        ((forall packet, fate ≠ .emitted packet) ∧
          callbacks.emitted = s.callbacks.emitted)) ∧
      s' = { s with
        callbacks
        encoder := s.encoder.erase source
        returned := if output.HasData then s.returned ++ [source] else s.returned
        discarded :=
          if fate = .discarded then s.discarded ++ [source] else s.discarded } := by
  unfold callbackStep at h
  split at h
  · rename_i session fate callbacks hcallback hprocess
    cases h
    have hsenders := Callbacks.senders_of_process hprocess
    rcases Callbacks.process_eq_some hprocess with ⟨_, hsame, _, _, hfate⟩
    cases hcallback.symm.trans hsame
    exact ⟨fate, callbacks, hsame, hsenders, hfate, rfl⟩
  · cases h

theorem send_eq_some {index : Nat}
    (h : s.step strerror codecs (.send index) = some s') :
    exists callbacks, s.callbacks.step strerror (.send index) = some callbacks ∧
      s' = { s with callbacks } := by
  rcases Option.map_eq_some_iff.mp h with ⟨callbacks, hsend, rfl⟩
  exact ⟨callbacks, hsend, rfl⟩

theorem reply_eq_some {type : VTRemoteMsgType} {bodyParts : List (List UInt8)}
    (h : s.step strerror codecs (.reply type bodyParts) = some s') :
    exists callbacks,
      s.callbacks.step strerror (.reply type bodyParts) = some callbacks ∧
      s' = { s with callbacks } := by
  rcases Option.map_eq_some_iff.mp h with ⟨callbacks, hsend, rfl⟩
  exact ⟨callbacks, hsend, rfl⟩

theorem endWarmup_eq_some (h : s.step strerror codecs .endWarmup = some s') :
    s' = { s.setSession s.session.endWarmup with configured := true } := by
  unfold step at h
  dsimp only at h
  split at h
  · cases h
  · cases h
    rfl

theorem frame_eq_some {pool : Except VTRemotedError PixelBuffer}
    {payload : List UInt8}
    (h : s.step strerror codecs (.frame pool payload) = some s') :
    s.frameStep codecs pool payload = some s' := by
  unfold step at h
  dsimp only at h
  split at h
  · exact h
  · cases h

theorem callback_eq_some {source : FrameSource} {output : EncoderOutput}
    (h : s.step strerror codecs (.callback source output) = some s') :
    source ∈ s.encoder ∧ s.callbackStep strerror source output = some s' := by
  unfold step at h
  dsimp only at h
  split at h
  · rename_i hsource
    exact ⟨hsource, h⟩
  · cases h

/-!
## What is kept
-/

def Kept (s : Encoding) : Prop :=
  (forall number, .client number ∉ s.discarded) ∧ s.FirstForced

theorem kept_frame {pool : Except VTRemotedError PixelBuffer}
    {payload : List UInt8} (h : s.frameStep codecs pool payload = some s') :
    s'.Kept <-> s.Kept ∧ s.Sound codecs (.frame pool payload) := by
  rcases frameStep_eq_some h with ⟨hnot, rfl⟩ | ⟨session, frame, hframe, rfl⟩
  · refine (and_iff_left ?_).symm
    intro _ session frame hframe
    rw [submits_iff.mpr ⟨session, frame, hframe⟩] at hnot
    cases hnot
  · show (_ ∧ forall first, first ∈ (s.submitted ++ [frame]).head? ->
        first.forceKey = true) <-> (_ ∧ forall first,
          first ∈ s.submitted.head? -> first.forceKey = true) ∧ _
    rw [and_assoc]
    apply and_congr_right
    intro _
    cases hsubmitted : s.submitted with
    | nil =>
        constructor
        · intro hforced
          refine ⟨nofun, ?_⟩
          intro _ session' frame' hframe'
          cases hframe.symm.trans hframe'
          exact hforced frame rfl
        · intro h first hfirst
          rcases h with ⟨_, hsound⟩
          cases hfirst
          exact hsound hsubmitted session frame hframe
    | cons first rest =>
        refine (and_iff_left ?_).symm
        intro hnil
        rw [hsubmitted] at hnil
        cases hnil

theorem kept_callback {source : FrameSource} {output : EncoderOutput}
    (h : s.callbackStep strerror source output = some s') :
    s'.Kept <-> s.Kept ∧ s.Sound codecs (.callback source output) := by
  rcases callbackStep_eq_some h with ⟨fate, callbacks, hcallback, _, _, rfl⟩
  show (_ ∧ s.FirstForced) <-> (_ ∧ s.FirstForced) ∧ _
  rw [and_right_comm]
  apply and_congr_left
  intro _
  dsimp only
  cases source with
  | warmup =>
      rw [and_iff_left (show s.Sound codecs (.callback .warmup output) from trivial)]
      apply forall_congr'
      intro number
      split
      · rw [List.mem_append, List.mem_singleton]
        rw [or_iff_left (nofun : FrameSource.client number ≠ .warmup)]
      · exact Iff.rfl
  | client number =>
      split
      · rename_i hdiscarded
        refine iff_of_false ?_ ?_
        · intro hkept
          exact hkept number (List.mem_append_right _ List.mem_cons_self)
        · intro h
          rcases h with ⟨_, hsound⟩
          exact hsound callbacks.session (hdiscarded ▸ hcallback)
      · rename_i hnot
        refine (and_iff_left ?_).symm
        intro session' hdiscarded
        cases hcallback.symm.trans hdiscarded
        exact hnot rfl

theorem kept_step {a : EncodingStep} (h : s.step strerror codecs a = some s') :
    s'.Kept <-> s.Kept ∧ s.Sound codecs a := by
  cases a with
  | endWarmup =>
      rw [endWarmup_eq_some h]
      exact (and_iff_left trivial).symm
  | frame pool payload => exact kept_frame (frame_eq_some h)
  | callback source output => exact kept_callback (callback_eq_some h).2
  | send index =>
      rcases send_eq_some h with ⟨_, _, rfl⟩
      exact (and_iff_left trivial).symm
  | reply type bodyParts =>
      rcases reply_eq_some h with ⟨_, _, rfl⟩
      exact (and_iff_left trivial).symm

/-!
## The flags
-/

/-- The flags in terms of the samples that came back, as long as that of the
warm-up was the first of them. -/
structure Tracks (s : Encoding) : Prop where
  config : s.session.config.isSome = true
  pending : s.session.warmupPending = true <->
    s.warmupSubmitted = true ∧ s.returned = []
  behind : s.warmupSubmitted = true -> s.returned ≠ [] -> .warmup ∈ s.returned
  once : s.encoder.count .warmup + s.returned.count .warmup ≤ 1
  absent : .warmup ∈ s.encoder ++ s.returned -> s.warmupSubmitted = true
  first : s.submitted = [] -> forall source, source ∈ s.encoder ->
    source = .warmup
  forced : s.submitted = [] ->
    (s.session.forceKeyframeNext = true <-> .warmup ∈ s.returned)
  emitted : forall e, e ∈ s.callbacks.emitted -> e.callback ≠ .warmup
  unsent : forall w, w ∈ s.callbacks.senders -> w.callback ≠ .warmup

theorem Tracks.sound_iff (ht : s.Tracks) (a : EncodingStep) :
    s.Sound codecs a <-> s.WarmedUp codecs a := by
  cases a with
  | endWarmup => exact Iff.rfl
  | send index => exact Iff.rfl
  | reply type bodyParts => exact Iff.rfl
  | frame pool payload =>
      apply imp_congr_right
      intro hfirst
      rw [← ht.forced hfirst, submits_iff]
      constructor
      · intro hsound h
        rcases h with ⟨session, frame, hframe⟩
        have hforced := hsound session frame hframe
        rw [(VideoToolboxCodecSession.handleFrameMessage_submitted hframe).2] at hforced
        exact Bool.or_eq_true_iff.mp hforced
      · intro hwarm session frame hframe
        rw [(VideoToolboxCodecSession.handleFrameMessage_submitted hframe).2]
        exact Bool.or_eq_true_iff.mpr (hwarm ⟨session, frame, hframe⟩)
  | callback source output =>
      cases source with
      | warmup => exact Iff.rfl
      | client number =>
          constructor
          · intro hsound hdata hsubmitted
            by_contra hnot
            have hreturned : s.returned = [] := by
              by_contra hreturned
              exact hnot (ht.behind hsubmitted hreturned)
            rcases outputCallback_discards hdata ht.config
              (ht.pending.mpr ⟨hsubmitted, hreturned⟩) with ⟨session, hdiscarded⟩
            exact hsound session hdiscarded
          · intro hwarm session hdiscarded
            rcases outputCallback_flags hdiscarded with
              ⟨_, ⟨hdata, _, hpending, _⟩ | ⟨_, hkept, _⟩⟩
            · rcases ht.pending.mp hpending with ⟨hsubmitted, hreturned⟩
              have hmem := hwarm hdata hsubmitted
              rw [hreturned] at hmem
              cases hmem
            · exact hkept rfl

namespace Tracks

theorem endWarmup (ht : s.Tracks) :
    Tracks { s.setSession s.session.endWarmup with configured := true } where
  config := ht.config
  pending := ht.pending
  behind := ht.behind
  once := ht.once
  absent := ht.absent
  first := ht.first
  forced := ht.forced
  emitted := ht.emitted
  unsent := ht.unsent

theorem frame (ht : s.Tracks) {pool : Except VTRemotedError PixelBuffer}
    {payload : List UInt8} (h : s.frameStep codecs pool payload = some s') :
    s'.Tracks := by
  rcases frameStep_eq_some h with ⟨_, rfl⟩ | ⟨session, frame, hframe, rfl⟩
  · exact ht
  · have hnew : FrameSource.warmup ∉ [FrameSource.client s.submitted.length] := by
      rw [List.mem_singleton]
      exact nofun
    have hnot : s.submitted ++ [frame] ≠ [] :=
      List.append_ne_nil_of_right_ne_nil _ (List.cons_ne_nil _ _)
    rcases VideoToolboxCodecSession.handleFrameMessage_submitted hframe with ⟨rfl, _⟩
    refine
      { config := ht.config
        pending := ht.pending
        behind := ht.behind
        once := ?_
        absent := ?_
        first := fun hnil => absurd hnil hnot
        forced := fun hnil => absurd hnil hnot
        emitted := ht.emitted
        unsent := ht.unsent }
    · show (s.encoder ++ [FrameSource.client s.submitted.length]).count .warmup +
        s.returned.count .warmup ≤ 1
      rw [List.count_append, List.count_eq_zero.mpr hnew]
      exact ht.once
    · intro hmem
      change FrameSource.warmup ∈ (s.encoder ++ [_]) ++ s.returned at hmem
      rw [List.mem_append, List.mem_append, or_iff_left hnew] at hmem
      exact ht.absent (List.mem_append.mpr hmem)

/-- What the warm-up branch takes, it takes rightly. -/
theorem source_eq (ht : s.Tracks) {source : FrameSource} {output : EncoderOutput}
    (hsource : source ∈ s.encoder) (hdata : output.HasData)
    (hsound : s.Sound codecs (.callback source output)) :
    s.session.warmupPending = true <-> source = .warmup := by
  constructor
  · intro hpending
    rcases outputCallback_discards hdata ht.config hpending with ⟨session, hdiscarded⟩
    cases source with
    | warmup => rfl
    | client number => exact absurd hdiscarded (hsound session)
  · intro h
    subst h
    have hsubmitted := ht.absent (List.mem_append_left _ hsource)
    refine ht.pending.mpr ⟨hsubmitted, ?_⟩
    by_contra hreturned
    have hencoder := List.count_pos_iff.mpr hsource
    have hagain := List.count_pos_iff.mpr (ht.behind hsubmitted hreturned)
    have honce := ht.once
    omega

theorem callback_warmup (ht : s.Tracks) {output : EncoderOutput}
    (hsource : .warmup ∈ s.encoder) (hdata : output.HasData)
    (hpending : s.session.warmupPending = true)
    (h : s.callbackStep strerror .warmup output = some s') : s'.Tracks := by
  rcases callbackStep_eq_some h with ⟨fate, callbacks, hcallback, hsenders, hfate, rfl⟩
  rcases outputCallback_flags hcallback with
    ⟨hconfig, ⟨_, _, _, rfl, hdone, hforce⟩ | ⟨hnot, _⟩⟩
  · rcases hfate with ⟨packet, hemit, _⟩ | ⟨_, hemitted⟩
    · cases hemit
    · rcases ht.pending.mp hpending with ⟨hsubmitted, hreturned⟩
      have hmem : FrameSource.warmup ∈ s.returned ++ [.warmup] :=
        List.mem_append_right _ List.mem_cons_self
      have honce := ht.once
      have hcount := List.count_pos_iff.mpr hsource
      have hleft : (s.encoder.erase .warmup).count .warmup =
          s.encoder.count .warmup - 1 := List.count_erase_self
      rw [if_pos hdata]
      refine
        { config := ?_
          pending := ?_
          behind := fun _ _ => hmem
          once := ?_
          absent := fun _ => hsubmitted
          first := ?_
          forced := fun _ => iff_of_true hforce hmem
          emitted := ?_
          unsent := ?_ }
      · exact hconfig ▸ ht.config
      · refine iff_of_false (Bool.eq_false_iff.mp hdone) ?_
        exact fun hnil => List.append_ne_nil_of_right_ne_nil s.returned
          (List.cons_ne_nil _ _) hnil.2
      · dsimp only
        rw [hleft, hreturned, List.nil_append, List.count_singleton_self]
        rw [hreturned, List.count_nil] at honce
        omega
      · intro hfirst source hmem
        exact ht.first hfirst source (List.mem_of_mem_erase hmem)
      · intro e he
        exact ht.emitted e (hemitted ▸ he)
      · intro w hw
        exact ht.unsent w (hsenders ▸ hw)
  · exact absurd ⟨hdata, ht.config, hpending⟩ hnot

theorem callback_client (ht : s.Tracks) {source : FrameSource}
    {output : EncoderOutput} (hsource : source ∈ s.encoder)
    (hdata : output.HasData) (hdone : s.session.warmupPending = false)
    (hclient : source ≠ .warmup)
    (h : s.callbackStep strerror source output = some s') : s'.Tracks := by
  rcases callbackStep_eq_some h with ⟨fate, callbacks, hcallback, hsenders, hfate, rfl⟩
  rcases outputCallback_flags hcallback with
    ⟨hconfig, ⟨_, _, hpending, _⟩ | ⟨_, _, hpending, _⟩⟩
  · rw [hdone] at hpending
    cases hpending
  · have hwarm : s.warmupSubmitted = true -> FrameSource.warmup ∈ s.returned := by
      intro hsubmitted
      apply ht.behind hsubmitted
      intro hnil
      rw [ht.pending.mpr ⟨hsubmitted, hnil⟩] at hdone
      cases hdone
    have hnew : FrameSource.warmup ∉ [source] := by
      rw [List.mem_singleton]
      exact hclient.symm
    rw [if_pos hdata]
    refine
      { config := hconfig ▸ ht.config
        pending := ?_
        behind := fun hsubmitted _ =>
          List.mem_append_left _ (hwarm hsubmitted)
        once := ?_
        absent := ?_
        first := fun hfirst source hmem =>
          ht.first hfirst source (List.mem_of_mem_erase hmem)
        forced := fun hfirst => absurd (ht.first hfirst source hsource) hclient
        emitted := ?_
        unsent := fun w hw => ht.unsent w (hsenders ▸ hw) }
    · refine iff_of_false (Bool.eq_false_iff.mp (hpending.trans hdone)) ?_
      exact fun hnil => List.append_ne_nil_of_right_ne_nil s.returned
        (List.cons_ne_nil _ _) hnil.2
    · dsimp only
      rw [List.count_append, List.count_eq_zero.mpr hnew]
      rw [List.count_erase_of_ne hclient.symm]
      exact ht.once
    · intro hmem
      dsimp only at hmem
      rw [← List.append_assoc, List.mem_append, or_iff_left hnew] at hmem
      rcases List.mem_append.mp hmem with hencoder | hreturned
      · exact ht.absent (List.mem_append_left _ (List.mem_of_mem_erase hencoder))
      · exact ht.absent (List.mem_append_right _ hreturned)
    · intro e he
      rcases hfate with ⟨packet, _, hemitted⟩ | ⟨_, hemitted⟩
      · dsimp only at he
        rw [hemitted] at he
        rcases List.mem_append.mp he with hold | hlast
        · exact ht.emitted e hold
        · rw [List.mem_singleton.mp hlast]
          exact hclient
      · exact ht.emitted e (hemitted ▸ he)

theorem callback_nothing (ht : s.Tracks) {source : FrameSource}
    {output : EncoderOutput} (hdata : ¬ output.HasData)
    (h : s.callbackStep strerror source output = some s') : s'.Tracks := by
  rcases callbackStep_eq_some h with ⟨fate, callbacks, hcallback, hsenders, hfate, rfl⟩
  rcases outputCallback_flags hcallback with
    ⟨hconfig, ⟨hsome, _⟩ | ⟨_, _, hpending, hforce⟩⟩
  · exact absurd hsome hdata
  · rw [if_neg hdata]
    refine
      { config := hconfig ▸ ht.config
        pending := hpending ▸ ht.pending
        behind := ht.behind
        once := ?_
        absent := ?_
        first := fun hfirst source hmem =>
          ht.first hfirst source (List.mem_of_mem_erase hmem)
        forced := fun hfirst => hforce ▸ ht.forced hfirst
        emitted := ?_
        unsent := fun w hw => ht.unsent w (hsenders ▸ hw) }
    · exact Nat.le_trans (Nat.add_le_add_right
        (List.Sublist.count_le _ List.erase_sublist) _) ht.once
    · intro hmem
      rcases List.mem_append.mp hmem with hencoder | hreturned
      · exact ht.absent (List.mem_append_left _ (List.mem_of_mem_erase hencoder))
      · exact ht.absent (List.mem_append_right _ hreturned)
    · intro e he
      rcases hfate with ⟨packet, rfl, _⟩ | ⟨_, hemitted⟩
      · exact absurd (hasData_of_emitted hcallback) hdata
      · exact ht.emitted e (hemitted ▸ he)

theorem callback (ht : s.Tracks) {source : FrameSource} {output : EncoderOutput}
    (hsource : source ∈ s.encoder)
    (hsound : s.Sound codecs (.callback source output))
    (h : s.callbackStep strerror source output = some s') : s'.Tracks := by
  rcases Classical.em output.HasData with hdata | hnothing
  · have hiff := ht.source_eq hsource hdata hsound
    rcases eq_or_ne source .warmup with rfl | hclient
    · exact ht.callback_warmup hsource hdata (hiff.mpr rfl) h
    · have hdone := Bool.eq_false_iff.mpr (mt hiff.mp hclient)
      exact ht.callback_client hsource hdata hdone hclient h
  · exact ht.callback_nothing hnothing h

theorem sends (ht : s.Tracks) {callbacks : Callbacks FrameSource}
    (hsession : callbacks.session = s.callbacks.session)
    (hemitted : callbacks.emitted = s.callbacks.emitted)
    (hsenders : forall w, w ∈ callbacks.senders ->
      w ∈ s.callbacks.senders ∨ w.toEmitted ∈ s.callbacks.emitted) :
    Tracks { s with callbacks } where
  config := congrArg EncoderSession.toVideoToolboxCodecSession hsession ▸ ht.config
  pending := by
    show callbacks.session.warmupPending = true <-> _
    rw [hsession]
    exact ht.pending
  behind := ht.behind
  once := ht.once
  absent := ht.absent
  first := ht.first
  forced := by
    show _ -> (callbacks.session.forceKeyframeNext = true <-> _)
    rw [hsession]
    exact ht.forced
  emitted := by
    show forall e, e ∈ callbacks.emitted -> _
    rw [hemitted]
    exact ht.emitted
  unsent := by
    intro w hw
    rcases hsenders w hw with hold | hnew
    · exact ht.unsent w hold
    · exact ht.emitted w.toEmitted hnew

theorem step (ht : s.Tracks) {a : EncodingStep} (hsound : s.Sound codecs a)
    (h : s.step strerror codecs a = some s') : s'.Tracks := by
  cases a with
  | endWarmup =>
      rw [endWarmup_eq_some h]
      exact ht.endWarmup
  | frame pool payload => exact ht.frame (frame_eq_some h)
  | callback source output =>
      rcases callback_eq_some h with ⟨hsource, hstep⟩
      exact ht.callback hsource hsound hstep
  | send index =>
      rcases send_eq_some h with ⟨callbacks, hsend, rfl⟩
      rcases Callbacks.send_eq_some hsend with ⟨e, body, hindex, _, hwrite⟩
      rcases Callbacks.senders_of_write hwrite with ⟨hsession, hemitted, hsenders⟩
      refine ht.sends hsession hemitted ?_
      intro w hw
      rw [hsenders] at hw
      rcases List.mem_append.mp hw with hold | hnew
      · exact .inl hold
      · cases List.mem_singleton.mp hnew
        exact .inr (List.mem_of_getElem? hindex)
  | reply type bodyParts =>
      rcases reply_eq_some h with ⟨callbacks, hreply, rfl⟩
      rcases Callbacks.senders_of_write hreply with ⟨hsession, hemitted, hsenders⟩
      refine ht.sends hsession hemitted ?_
      intro w hw
      rw [hsenders, Option.toList_none, List.append_nil] at hw
      exact .inl hw

end Tracks

theorem start_eq_ok {config : ClientConfiguration} {pixelBuffer : Bool}
    {connection : VTRWireConnection}
    (h : start config pixelBuffer connection = .ok s) : s.Tracks ∧ s.Kept := by
  unfold start at h
  rcases swift_bind_eq_ok h with ⟨⟨session, warmupSubmitted⟩, hwarmup, h⟩
  cases h
  cases pixelBuffer with
  | true =>
      rcases swift_bind_eq_ok hwarmup with ⟨_, _, hwarmup⟩
      cases hwarmup
      refine ⟨?_, nofun, nofun⟩
      exact
        { config := rfl
          pending := iff_of_true rfl ⟨rfl, rfl⟩
          behind := fun _ hne => absurd rfl hne
          once := Nat.le_refl 1
          absent := fun _ => rfl
          first := fun _ _ hmem => List.mem_singleton.mp hmem
          forced := fun _ => iff_of_false Bool.false_ne_true List.not_mem_nil
          emitted := nofun
          unsent := nofun }
  | false =>
      cases hwarmup
      refine ⟨?_, nofun, nofun⟩
      exact
        { config := rfl
          pending := iff_of_false Bool.false_ne_true (fun h => nomatch h.1)
          behind := nofun
          once := Nat.zero_le 1
          absent := nofun
          first := nofun
          forced := fun _ => iff_of_false Bool.false_ne_true List.not_mem_nil
          emitted := nofun
          unsent := nofun }

end Encoding

/-!
## Every run
-/

open Encoding

/-- The warm-up discards its own frame and no other exactly if its sample comes
back first, and in time for the first frame unless that asks for a key frame. -/
theorem discards_warmup_iff {strerror : Int -> String} {codecs : PlaneCodecs}
    {config : ClientConfiguration} {pixelBuffer : Bool}
    {connection : VTRWireConnection} {first s : Encoding}
    {steps : List EncodingStep}
    (hstart : start config pixelBuffer connection = .ok first)
    (hrun : run (step strerror codecs) first steps = some s) :
    s.DiscardsWarmup <->
      Along (step strerror codecs) (WarmedUp codecs) first steps := by
  rcases start_eq_ok hstart with ⟨htracks, hkept⟩
  have hholds := holds_iff_along (fun _ _ _ h => kept_step h) hrun
  rw [and_iff_right hkept] at hholds
  have hall : Along (step strerror codecs) (fun _ _ => True) first steps :=
    along_true first steps
  have hcongr := along_congr (Q := Sound codecs) (R := WarmedUp codecs)
    (fun _ _ _ ht _ hsound h => Tracks.step ht hsound h)
    (fun _ a ht _ => ht.sound_iff a) htracks hall
  rw [← hcongr]
  constructor
  · intro h
    exact hholds.mp ⟨h.kept, h.forced⟩
  · intro h
    have htracked := invariant (fun _ _ _ ht hsound h => Tracks.step ht hsound h)
      htracks h hrun
    rcases hholds.mpr h with ⟨hclient, hforced⟩
    exact ⟨hclient, htracked.unsent, hforced⟩

private def warmupConfiguration : ClientConfiguration where
  mode := .encode
  width := 16
  height := 16
  pixelFormat := 1
  wireCompression := 0
  codec := .h264
  timebase := { num := 1, den := 1 }

private def plainCodecs : PlaneCodecs where
  lz4Compress _ := none
  lz4DecompressSafe _ _ := none
  zstdCompress _ := none
  zstdDecompressRaw _ _ := none

private def warmupBegun : Encoding where
  callbacks := Callbacks.start
    { config := some warmupConfiguration
      compressionSession := true
      warmupPending := true } openConnection
  warmupSubmitted := true
  encoder := [.warmup]

private def zeroFrame : EncodingStep :=
  .frame (.ok { plane := fun _ => none })
    (List.replicate 20 0 ++ 2 :: List.replicate 24 0)

private def warmupFails : List EncodingStep :=
  [.callback .warmup .failed, .endWarmup, zeroFrame,
    .callback (.client 0) (smallOutput 0)]

private def warmupReturns : List EncodingStep :=
  [.callback .warmup (smallOutput 0), .endWarmup, zeroFrame,
    .callback (.client 0) (smallOutput 0), .send 0]

theorem discards_warmup_fails :
    exists first s : Encoding,
      start warmupConfiguration true openConnection = .ok first ∧
      run (step (fun _ => "") plainCodecs) first warmupFails = some s ∧
      ¬ s.DiscardsWarmup := by
  have hdiscarded :
      (run (step (fun _ => "") plainCodecs) warmupBegun warmupFails).map Encoding.discarded =
        some [.client 0] := by
    decide +kernel
  rcases Option.map_eq_some_iff.mp hdiscarded with ⟨s, hrun, hclient⟩
  refine ⟨warmupBegun, s, rfl, hrun, ?_⟩
  intro h
  exact h.kept 0 (hclient ▸ List.mem_cons_self)

theorem discards_warmup_iff_returned :
    exists first s : Encoding,
      start warmupConfiguration true openConnection = .ok first ∧
      run (step (fun _ => "") plainCodecs) first warmupReturns = some s ∧
      (s.DiscardsWarmup <->
        Along (step (fun _ => "") plainCodecs) (WarmedUp plainCodecs) first
          warmupReturns) := by
  have hsome :
      (run (step (fun _ => "") plainCodecs) warmupBegun
        warmupReturns).isSome = true := by
    decide +kernel
  rcases Option.isSome_iff_exists.mp hsome with ⟨s, hrun⟩
  have hstart : start warmupConfiguration true openConnection = .ok warmupBegun := rfl
  exact ⟨warmupBegun, s, hstart, hrun, discards_warmup_iff hstart hrun⟩

end VTRemote
