import VTRemote.Client.FilledRows
import VTRemote.Client.WorkingHost

/-!
# What one call of the decoder reads

The server sends FRAME and PING messages and DONE, and timeouts expire between
them.  A call answers the PINGs and ends at the first thing behind them.
-/

namespace VTRemote

attribute [local irreducible] cInt

/-!
## The stream
-/

/-- What `decompress_frame` makes of a frame, if it is called at all. -/
inductive Decompresses (libs : DecompressionLibraries) (wireCompression : Int)
    (view : VTRemoteFrameView) : VTRemoteFrameView -> Prop where
  | plain (hplain : ¬ (wireCompression = 1 ∨ wireCompression = 2)) :
      Decompresses libs wireCompression view view
  | planes (plane0 plane1 : VTRemotePlaneView)
      (hcompressed : wireCompression = 1 ∨ wireCompression = 2)
      (hpos : forall i, 0 < (view.plane i).expected)
      (hplane0 : libs.decompress wireCompression (view.plane 0) = .ok plane0)
      (hplane1 : libs.decompress wireCompression (view.plane 1) = .ok plane1) :
      Decompresses libs wireCompression view
        { view with planes := plane0 :: plane1 :: view.planes.drop 2 }

/-- A FRAME that can be parsed and decompressed. -/
structure ServerFrame (libs : DecompressionLibraries)
    (wireCompression : Int) where
  payload : Payload
  view : VTRemoteFrameView
  parsed : vtremoteParseFrame payload.bytes payload.bytes.length = .ok view
  planar : ¬ view.planeCount < 2
  shown : VTRemoteFrameView
  decompresses : Decompresses libs wireCompression view shown

variable {libs : DecompressionLibraries} {wireCompression : Int}

def VTRemoteFrameView.entries (view : VTRemoteFrameView) : List AVFrameSideData :=
  (view.sideData.take view.sideDataCount.toNat).map
    VTRemoteSideData.toAVFrameSideData

/-- The frame that `fill_frame_from_view` leaves when memory is granted. -/
def grantedFrame (avctx : AVCodecContext) (frame : AVFrame)
    (view : VTRemoteFrameView) : AVFrame :=
  { filledFrame avctx frame view with
    sideData := (filledFrame avctx frame view).sideData ++ view.entries }

def ServerFrame.decoded (message : ServerFrame libs wireCompression)
    (avctx : AVCodecContext) (frame : AVFrame) : AVFrame :=
  grantedFrame avctx frame message.shown

/-- What arrives before DONE.  A timeout expires at a message boundary. -/
inductive DecodeItem (libs : DecompressionLibraries) (wireCompression : Int)
    where
  | frame (message : ServerFrame libs wireCompression)
  | ping (payload : Payload)
  | timeout

namespace DecodeItem

def arrives : DecodeItem libs wireCompression -> List (Atom Errno)
  | frame message => (wireMessage .frame message.payload).map .byte
  | ping payload => (wireMessage .ping payload).map .byte
  | timeout => [.fail eagain]

def events : List (DecodeItem libs wireCompression) ->
    List (Option (ServerFrame libs wireCompression))
  | [] => []
  | frame message :: rest => some message :: events rest
  | ping _ :: rest => events rest
  | timeout :: rest => none :: events rest

end DecodeItem

def decoderStream (behind : List (Atom Errno)) :
    List (DecodeItem libs wireCompression) -> List (Atom Errno)
  | [] => (wireMessage .done Payload.empty).map .byte ++ behind
  | item :: rest => item.arrives ++ decoderStream behind rest

/-- The decoder has yet to see these events, and then DONE. -/
structure Streaming (s : VTRemoteDecContext Host)
    (events : List (Option (ServerFrame libs wireCompression))) : Prop where
  working : s.fd.Working
  buffer : s.pktBuf.Granted
  options : s.wireCompression = wireCompression
  streaming : s.done = false
  ahead : exists items behind,
    s.fd.stream = @decoderStream libs wireCompression behind items ∧
    events = DecodeItem.events items

/-!
## Decoding a frame
-/

/-- The context is the same but for the buffers for compression and for what
the connection does while nothing is read. -/
def DecKeeps (s s' : VTRemoteDecContext Host) : Prop :=
  Idles s.fd s'.fd ∧ s'.wireCompression = s.wireCompression ∧
    s'.done = s.done ∧ s'.pktBuf = s.pktBuf

instance : IsPreorder (VTRemoteDecContext Host) DecKeeps where
  refl s := ⟨refl_of Idles s.fd, rfl, rfl, rfl⟩
  trans _ _ _ h1 h2 :=
    ⟨trans_of Idles h1.1 h2.1, h2.2.1.trans h1.2.1, h2.2.2.1.trans h1.2.2.1,
      h2.2.2.2.trans h1.2.2.2⟩

def Gives {α : Type} (m : DecCall Host α) (a : α) : Prop :=
  forall s, s.fd.Working -> exists s', m s = .returned (.ok a) s' ∧ DecKeeps s s'

theorem Gives.pure {α : Type} (a : α) : Gives (Pure.pure a : DecCall Host α) a :=
  fun s _ => ⟨s, rfl, refl_of DecKeeps s⟩

theorem Gives.bind {α β : Type} {m : DecCall Host α}
    {next : α -> DecCall Host β} {a : α} {b : β} (h : Gives m a)
    (hnext : Gives (next a) b) : Gives (m >>= next) b := by
  intro s hs
  rcases h s hs with ⟨s1, hm, hkeeps⟩
  rcases hnext s1 (hkeeps.1.2 hs) with ⟨s2, hn, hkeeps'⟩
  refine ⟨s2, ?_, trans_of DecKeeps hkeeps hkeeps'⟩
  rw [Call.bind_of_ok _ hm, hn]

theorem malloc_gives : Gives (onDecLink hostLink.malloc) () := by
  intro s hs
  refine ⟨_, Call.zoom_of_returned hs.granted.malloc.1, ?_, rfl, rfl, rfl⟩
  exact ⟨rfl, fun hworking => ⟨hworking.reliable, hworking.granted.malloc.2⟩⟩

theorem growDecBuf_gives (i : Fin 2) (expected : Int) :
    Gives (growDecBuf hostLink i expected) () := by
  intro s hs
  unfold growDecBuf Call.when
  rw [Call.get_bind]
  split
  · rcases malloc_gives s hs with ⟨s1, hmalloc, hkeeps⟩
    refine ⟨_, Call.bind_of_ok _ hmalloc, ?_⟩
    exact hkeeps
  · exact Gives.pure () s hs

theorem createDctx_gives : Gives (createDctx hostLink) () := by
  intro s hs
  unfold createDctx Call.when
  rw [Call.get_bind]
  split
  · rcases malloc_gives s hs with ⟨s1, hmalloc, hkeeps⟩
    refine ⟨_, Call.bind_of_ok _ hmalloc, ?_⟩
    exact hkeeps
  · exact Gives.pure () s hs

theorem decompressPlane_gives {view : VTRemoteFrameView} {i : Fin 2}
    {plane : VTRemotePlaneView} {s : VTRemoteDecContext Host}
    (hs : s.fd.Working) (hpos : 0 < (view.plane i).expected)
    (hplane : libs.decompress s.wireCompression (view.plane i) = .ok plane) :
    exists s', decompressPlane hostLink libs view i s =
      .returned (.ok plane) s' ∧ DecKeeps s s' := by
  rcases growDecBuf_gives i (view.plane i).expected s hs with
    ⟨s1, hgrow, hkeeps1⟩
  rcases createDctx_gives s1 (hkeeps1.1.2 hs) with ⟨s2, hcreate, hkeeps2⟩
  have hkeeps := trans_of DecKeeps hkeeps1 hkeeps2
  refine ⟨s2, ?_, hkeeps⟩
  unfold decompressPlane
  rw [if_neg (Int.not_le.mpr hpos), Call.bind_of_ok _ hgrow,
    Call.bind_of_ok _ hcreate, Call.get_bind, hkeeps.2.1]
  simp only [hplane]
  rfl

theorem addSideData_gives (entries : List VTRemoteSideData) :
    Gives (addSideData hostLink entries)
      (entries.map VTRemoteSideData.toAVFrameSideData) := by
  induction entries with
  | nil => exact Gives.pure []
  | cons sd rest ih =>
      intro s hs
      rcases malloc_gives s hs with ⟨s1, hmalloc, hkeeps⟩
      rcases ih s1 (hkeeps.1.2 hs) with ⟨s2, hrest, hkeeps'⟩
      refine ⟨s2, ?_, trans_of DecKeeps hkeeps hkeeps'⟩
      unfold addSideData
      rw [Call.bind_of_ok _ (Call.attempt_of_returned hmalloc),
        Call.bind_of_ok _ hrest]
      rfl

theorem fillFrameFromView_gives (avctx : AVCodecContext) (frame : AVFrame)
    {view : VTRemoteFrameView} (hplanar : ¬ view.planeCount < 2) :
    Gives (fillFrameFromView hostLink avctx frame view)
      (grantedFrame avctx frame view) := by
  unfold fillFrameFromView
  rw [if_neg hplanar]
  apply Gives.bind malloc_gives
  apply Gives.bind (addSideData_gives _)
  exact Gives.pure _

theorem decodeView_gives {view shown : VTRemoteFrameView}
    {s : VTRemoteDecContext Host} (hs : s.fd.Working)
    (hplanar : ¬ view.planeCount < 2)
    (hshown : Decompresses libs s.wireCompression view shown)
    (avctx : AVCodecContext) (frame : AVFrame) :
    exists s', (if s.wireCompression = 1 ∨ s.wireCompression = 2 then do
        let view ← decompressFrame hostLink libs view
        fillFrameFromView hostLink avctx frame view
      else fillFrameFromView hostLink avctx frame view) s =
        .returned (.ok (grantedFrame avctx frame shown)) s' ∧ DecKeeps s s' := by
  cases hshown with
  | plain hplain =>
      rw [if_neg hplain]
      exact fillFrameFromView_gives avctx frame hplanar s hs
  | planes plane0 plane1 hcompressed hpos hplane0 hplane1 =>
      rw [if_pos hcompressed]
      rcases decompressPlane_gives hs (hpos 0) hplane0 with ⟨s1, h0, hkeeps1⟩
      rw [<- hkeeps1.2.1] at hplane1
      rcases decompressPlane_gives (hkeeps1.1.2 hs) (hpos 1) hplane1 with
        ⟨s2, h1, hkeeps2⟩
      have hkeeps := trans_of DecKeeps hkeeps1 hkeeps2
      have hframe : decompressFrame hostLink libs view s = .returned
          (.ok { view with planes := plane0 :: plane1 :: view.planes.drop 2 })
          s2 := by
        unfold decompressFrame
        rw [if_neg hplanar, Call.bind_of_ok _ h0, Call.bind_of_ok _ h1]
        rfl
      have hplanar' : ¬ ({ view with
          planes := plane0 :: plane1 :: view.planes.drop 2 } :
            VTRemoteFrameView).planeCount < 2 := hplanar
      rcases fillFrameFromView_gives avctx frame hplanar' s2 (hkeeps.1.2 hs)
        with ⟨s3, hfill, hkeeps3⟩
      refine ⟨s3, ?_, trans_of DecKeeps hkeeps hkeeps3⟩
      rw [Call.bind_of_ok _ hframe]
      exact hfill

theorem decodeFrame_of_parsed {payload : Bytes} {payloadSize : Int}
    {view : VTRemoteFrameView} {avctx : AVCodecContext} {frame : AVFrame}
    {s : VTRemoteDecContext Host}
    (h : vtremoteParseFrame payload payloadSize = .ok view) :
    decodeFrame hostLink libs avctx frame payload payloadSize s =
      (if s.wireCompression = 1 ∨ s.wireCompression = 2 then do
        let view ← decompressFrame hostLink libs view
        fillFrameFromView hostLink avctx frame view
      else fillFrameFromView hostLink avctx frame view) s := by
  unfold decodeFrame
  simp only [h]
  rfl

theorem decodeFrame_gives (message : ServerFrame libs wireCompression)
    (avctx : AVCodecContext) (frame : AVFrame) {s : VTRemoteDecContext Host}
    (hs : s.fd.Working) (hoptions : s.wireCompression = wireCompression) :
    exists s', decodeFrame hostLink libs avctx frame message.payload.bytes
        (cInt (messageHeader .frame message.payload).length.toNat) s =
          .returned (.ok (message.decoded avctx frame)) s' ∧ DecKeeps s s' := by
  subst hoptions
  rcases decodeView_gives hs message.planar message.decompresses avctx frame with
    ⟨s', hview, hkeeps⟩
  refine ⟨s', ?_, hkeeps⟩
  rw [messageHeader_payloadLength, decodeFrame_of_parsed message.parsed]
  exact hview

end VTRemote
