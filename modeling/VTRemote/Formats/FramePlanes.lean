import VTRemote.Formats.Frame
import VTRemote.Server.EncoderSession

/-!
# The planes of a FRAME and what follows them

`handleFrameMessage` of the VideoToolbox session reads a FRAME in two parts,
`handleFrameMessage` of the stub plane by plane.  Their readers succeed with
what the grammar's decoders give, throw where these fail, and never trap.
-/

namespace VTRemote

open Grammar Format

namespace Grammar

def frameHead : Decoder (UInt64 × UInt64 × UInt32) := do
  let pts ← u64.decode
  let duration ← u64.decode
  let flags ← u32.decode
  let count ← u8.decode
  Decoder.require (count == 2)
  pure (pts, duration, flags)

def framePlanes : Decoder FramePlanes := do
  let (pts, duration, flags) ← frameHead
  let y ← Plane.decode
  let uv ← Plane.decode
  pure
    { ptsTicks := pts.toInt64
      durationTicks := duration.toInt64
      flags
      y := y.toMessage
      uv := uv.toMessage }

end Grammar

open ByteReader

def readFrameHead : ReaderM (UInt64 × UInt64 × UInt32) := do
  let pts ← readBEUInt64
  let duration ← readBEUInt64
  let flags ← readBEUInt32
  let count ← readUInt8
  readRequire (count == 2) expectedTwoPlanes
  pure (pts, duration, flags)

theorem readFramePlanes_eq :
    readFramePlanes = (do
      let (pts, duration, flags) ← readFrameHead
      let y ← readPlane
      let uv ← readPlane
      pure
        { ptsTicks := pts.toInt64
          durationTicks := duration.toInt64
          flags, y, uv }) := by
  simp only [readFramePlanes, readFrameHead, bind_assoc, pure_bind]

theorem readStubFrame_eq (codecs : PlaneCodecs) (wireCompression : Int) :
    StubCodecSession.readStubFrame codecs wireCompression = (do
      let (pts, dur, flags) ← readFrameHead
      let planes ← readTimes
        (StubCodecSession.readStubPlane codecs wireCompression) 2
      pure { pts := pts.toInt64, dur := dur.toInt64, flags, planes }) := by
  simp only [StubCodecSession.readStubFrame, readFrameHead, bind_assoc,
    pure_bind]

/-!
## Refused parts
-/

theorem readPlane_refuses :
    SwiftRefuses readPlane (Plane.toMessage <$> Plane.decode) := by
  unfold readPlane Plane.decode
  simp only [map_bind, map_pure, blobDecoder_count32, bind_assoc]
  apply Refuses.bind readBEUInt32_follows readBEUInt32_refuses
  intro stride
  apply Refuses.bind readBEUInt32_follows readBEUInt32_refuses
  intro height
  apply Refuses.bind readBEUInt32_follows readBEUInt32_refuses
  intro len
  unfold sliceRange
  rw [readBytes_natCast]
  apply Refuses.bind (consume_follows len.toNat) (consume_refuses len.toNat)
  intro data
  exact Refuses.pure _

theorem readSideDataEntry_refuses :
    SwiftRefuses readSideDataEntry
      (SideData.toMessage <$> SideData.decode) := by
  unfold readSideDataEntry SideData.decode
  simp only [map_bind, map_pure, blobDecoder_count32, bind_assoc]
  apply Refuses.bind readBEUInt32_follows readBEUInt32_refuses
  intro type
  apply Refuses.bind readBEUInt32_follows readBEUInt32_refuses
  intro size
  rw [readBytes_natCast]
  apply Refuses.bind (consume_follows size.toNat) (consume_refuses size.toNat)
  intro data
  exact Refuses.pure _

theorem readSideData_refuses :
    SwiftRefuses readSideData
      (List.map SideData.toMessage <$> Frame.decodeSideData) := by
  unfold Frame.decodeSideData
  rw [Decoder.map_ifAny]
  simp only [map_bind]
  apply Refuses.ifAny (do
    let sideDataCount ← readUInt8
    readTimes readSideDataEntry sideDataCount.toNat)
  · apply Refuses.bind readUInt8_follows readUInt8_refuses
    intro count
    exact Refuses.times_map readSideDataEntry_follows readSideDataEntry_refuses
      count.toNat
  · intro r _ hne
    exact if_pos ((remaining_pos_iff r).mpr hne)

theorem readFrameHead_follows : SwiftFollows readFrameHead frameHead := by
  unfold readFrameHead frameHead
  apply Follows.bind readBEUInt64_follows
  intro pts
  apply Follows.bind readBEUInt64_follows
  intro duration
  apply Follows.bind readBEUInt32_follows
  intro flags
  apply Follows.bind readUInt8_follows
  intro count
  apply Follows.require_bind
  intro _
  exact Follows.pure _

theorem readFrameHead_refuses : SwiftRefuses readFrameHead frameHead := by
  unfold readFrameHead frameHead
  apply Refuses.bind readBEUInt64_follows readBEUInt64_refuses
  intro pts
  apply Refuses.bind readBEUInt64_follows readBEUInt64_refuses
  intro duration
  apply Refuses.bind readBEUInt32_follows readBEUInt32_refuses
  intro flags
  apply Refuses.bind readUInt8_follows readUInt8_refuses
  intro count
  apply Refuses.require_bind
  intro _
  exact Refuses.pure _

theorem readFramePlanes_follows :
    SwiftFollows readFramePlanes framePlanes := by
  rw [readFramePlanes_eq]
  unfold framePlanes
  apply Follows.bind readFrameHead_follows
  intro head
  apply Follows.bind_map readPlane_follows
  intro y
  apply Follows.bind_map readPlane_follows
  intro uv
  exact Follows.pure _

theorem readFramePlanes_refuses :
    SwiftRefuses readFramePlanes framePlanes := by
  rw [readFramePlanes_eq]
  unfold framePlanes
  apply Refuses.bind readFrameHead_follows readFrameHead_refuses
  intro head
  apply Refuses.bind_map readPlane_follows readPlane_refuses
  intro y
  apply Refuses.bind_map readPlane_follows readPlane_refuses
  intro uv
  exact Refuses.pure _

/-!
## Parts that never trap
-/

theorem readRequire_neverTraps (c : Bool) (error : VTRemotedError) :
    NeverTraps (readRequire c (Failure.thrown error)) := by
  intro r h
  unfold readRequire at h
  split at h
  · cases h
  · cases h

theorem readTimes_neverTraps {α : Type} {read : ReaderM α}
    (h : NeverTraps read) (n : Nat) : NeverTraps (readTimes read n) := by
  induction n with
  | zero => exact NeverTraps.pure []
  | succ n ih =>
      exact h.bind fun _ => ih.bind fun _ => NeverTraps.pure _

theorem readPlane_neverTraps : NeverTraps readPlane :=
  readBEUInt32_neverTraps.bind fun _ =>
    readBEUInt32_neverTraps.bind fun _ =>
      readBEUInt32_neverTraps.bind fun _ =>
        (readBytes_neverTraps _).bind fun _ => NeverTraps.pure _

theorem readSideDataEntry_neverTraps : NeverTraps readSideDataEntry :=
  readBEUInt32_neverTraps.bind fun _ =>
    readBEUInt32_neverTraps.bind fun _ =>
      (readBytes_neverTraps _).bind fun _ => NeverTraps.pure _

theorem readSideData_neverTraps : NeverTraps readSideData := by
  intro r h
  unfold readSideData at h
  split at h
  · have hbody := readUInt8_neverTraps.bind fun count =>
      readTimes_neverTraps readSideDataEntry_neverTraps count.toNat
    exact hbody r h
  · cases h

theorem readFrameHead_neverTraps : NeverTraps readFrameHead :=
  readBEUInt64_neverTraps.bind fun _ =>
    readBEUInt64_neverTraps.bind fun _ =>
      readBEUInt32_neverTraps.bind fun _ =>
        readUInt8_neverTraps.bind fun _ =>
          (readRequire_neverTraps _ _).bind fun _ => NeverTraps.pure _

theorem readFramePlanes_neverTraps : NeverTraps readFramePlanes := by
  rw [readFramePlanes_eq]
  exact readFrameHead_neverTraps.bind fun _ =>
    readPlane_neverTraps.bind fun _ =>
      readPlane_neverTraps.bind fun _ => NeverTraps.pure _

end VTRemote
