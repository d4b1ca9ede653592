import VTRemote.Client.Handshake
import VTRemote.Formats.Grammar
import VTRemote.Server.Messages

/-!
# Control messages from the server to the client

The server announces the extradata of a CONFIGURE_ACK and the text of an ERROR
with a clamped 16-bit length and then writes all of it.
-/

namespace VTRemote

open Grammar Format

/-!
## CONFIGURE_ACK
-/

theorem configureAckResponse_encode (r : ConfigureAckResponse) :
    r.encode = u8.encode r.status ++
      (u16.encode (uint16Clamping r.extradata.length) ++
        (r.extradata ++ (u8.encode r.pixelFormat ++ u8.encode r.warnings))) := by
  simp [ConfigureAckResponse.encode, ByteWriter.writeUInt8,
    ByteWriter.writeBE16, ByteWriter.write]
  rfl

theorem vtremoteHandleConfigureAck_length {payload : Bytes} {len : Int}
    {view : ConfigureAckView}
    (h : vtremoteHandleConfigureAck payload len = .ok view) :
    view.extradata.length ≤ 65535 := by
  unfold vtremoteHandleConfigureAck at h
  cases hview : configureAckView (vtremoteRbufInit payload len) with
  | error e =>
      rw [hview] at h
      cases h
  | ok p =>
      rcases p with ⟨v, r⟩
      rw [hview] at h
      cases h
      unfold configureAckView at hview
      rcases bind_eq_ok hview with ⟨status, r1, _, hview⟩
      rcases bind_eq_ok hview with ⟨_, r2, _, hview⟩
      rcases bind_eq_ok hview with ⟨extralen, r3, _, hview⟩
      rcases bind_eq_ok hview with ⟨extradata, r4, hextra, hview⟩
      rcases bind_eq_ok hview with ⟨pix, r5, _, hview⟩
      rcases bind_eq_ok hview with ⟨warn, r6, _, hview⟩
      cases hview
      exact rbufExtradata_length hextra

/-- What the reading sequence decodes, whatever its status word says. -/
def configureAckDecoder : Decoder ConfigureAckView := do
  let status ← u8.decode
  Decoder.require (status == 0)
  let extradata ← blobDecoder count16
  let pix ← u8.decode
  let warn ← u8.decode
  pure ⟨extradata, pix, warn⟩

theorem configureAckView_follows :
    RbufFollows configureAckView configureAckDecoder := by
  unfold configureAckView configureAckDecoder
  simp only [blobDecoder_count16, bind_assoc]
  apply Follows.bind vtremoteRbufReadU8_follows
  intro status
  apply Follows.require_bind
  intro _
  apply Follows.bind (readOr_follows 0 vtremoteRbufReadU16_follows)
  intro extralen
  apply Follows.bind (rbufExtradata_follows extralen)
  intro extradata
  apply Follows.bind (readOr_follows 0 vtremoteRbufReadU8_follows)
  intro pix
  apply Follows.bind (readOr_follows 0 vtremoteRbufReadU8_follows)
  intro warn
  exact Follows.pure _

theorem vtremoteHandleConfigureAck_encode {extradata : Bytes}
    {pixelFormat warnings : UInt8} (h : extradata.length ≤ 65535) :
    vtremoteHandleConfigureAck
        (ConfigureAckResponse.mk 0 extradata pixelFormat warnings).encode
        (cInt (ConfigureAckResponse.mk 0 extradata pixelFormat
          warnings).encode.length) =
      .ok ⟨extradata, pixelFormat, warnings⟩ := by
  have hbytes := configureAckResponse_encode
    ⟨0, extradata, pixelFormat, warnings⟩
  generalize (ConfigureAckResponse.mk 0 extradata pixelFormat
    warnings).encode = payload at hbytes ⊢
  simp only [uint16Clamping_of_le h] at hbytes
  have hblob := blob16_decode (Nat.lt_succ_of_le h)
    (u8.encode pixelFormat ++ u8.encode warnings)
  have hd : configureAckDecoder payload =
      some (⟨extradata, pixelFormat, warnings⟩, []) := by
    unfold configureAckDecoder
    unfold blob16 at hblob
    rw [List.append_assoc] at hblob
    rw [hbytes, Decoder.bind_of_some _ (u8.decode_encode 0 _),
      Decoder.bind_of_some _ (if_pos rfl : Decoder.require _ _ = some ((), _)),
      Decoder.bind_of_some _ hblob]
    rfl
  have hlength : payload.length = 5 + extradata.length := by
    rw [hbytes]
    simp [u8, u16]
    omega
  have hmax : (payload.length : Int) ≤ intMax := by
    unfold intMax
    omega
  rw [cInt_eq (by omega) hmax]
  rcases configureAckView_follows _ _ _ (VTRemoteRBuf.wellFormed_init hmax) hd
    with ⟨r, hview, _, _⟩
  unfold vtremoteHandleConfigureAck
  rw [hview]
  rfl

/-!
## ERROR
-/

theorem errorResponse_encode (r : ErrorResponse) :
    r.encode = u32.encode r.code ++
      (u16.encode (uint16Clamping (utf8Data r.message).length) ++
        utf8Data r.message) := by
  simp [ErrorResponse.encode, ByteWriter.writeLengthPrefixedUTF8,
    ByteWriter.writeBE32, ByteWriter.writeBE16, ByteWriter.write]
  rfl

theorem vtremoteRbufReadStr_length {r r' : VTRemoteRBuf} {str : Bytes}
    (h : vtremoteRbufReadStr r = .ok (str, r')) : str.length ≤ 65535 := by
  rcases bind_eq_ok h with ⟨l, r1, _, h⟩
  have hword : l.toNat < 65536 := l.toNat_lt
  rcases bind_eq_ok h with ⟨_, r2, _, h⟩
  split at h
  · cases h
    rw [List.length_take]
    omega
  · cases h

theorem vtremoteHandleError_length {payload : Bytes} {len : Int}
    {code : UInt32} {msg : Bytes}
    (h : vtremoteHandleError payload len = .ok (code, some msg)) :
    msg.length ≤ 65535 := by
  unfold vtremoteHandleError at h
  cases hview : errorView (vtremoteRbufInit payload len) with
  | error e =>
      rw [hview] at h
      cases h
  | ok p =>
      rcases p with ⟨v, r⟩
      rw [hview] at h
      cases h
      unfold errorView at hview
      rcases bind_eq_ok hview with ⟨code', r1, _, hview⟩
      rcases bind_eq_ok hview with ⟨msg', r2, hmsg, hview⟩
      cases hview
      unfold readOr at hmsg
      split at hmsg
      · rename_i hread
        cases hmsg
        rcases bind_eq_ok hread with ⟨str, r3, hstr, hpure⟩
        cases hpure
        exact vtremoteRbufReadStr_length hstr
      · cases hmsg
      · cases hmsg

def errorDecoder : Decoder (UInt32 × Option Bytes) := do
  let code ← u32.decode
  let msg ← (do
    let str ← blobDecoder count16
    pure (some str))
  pure (code, msg)

theorem errorView_follows : RbufFollows errorView errorDecoder := by
  unfold errorView errorDecoder
  apply Follows.bind (readOr_follows 0 vtremoteRbufReadU32_follows)
  intro code
  have hstr : RbufFollows (do
      let str ← vtremoteRbufReadStr
      pure (some str)) (do
      let str ← blobDecoder count16
      pure (some str)) := by
    apply Follows.bind vtremoteRbufReadStr_follows
    intro str
    exact Follows.pure _
  apply Follows.bind (readOr_follows none hstr)
  intro msg
  exact Follows.pure _

theorem vtremoteHandleError_encode {code : UInt32} {message : String}
    (h : (utf8Data message).length ≤ 65535) :
    vtremoteHandleError (ErrorResponse.mk code message).encode
        (cInt (ErrorResponse.mk code message).encode.length) =
      .ok (code, some (utf8Data message)) := by
  have hbytes := errorResponse_encode ⟨code, message⟩
  generalize (ErrorResponse.mk code message).encode = payload at hbytes ⊢
  simp only [uint16Clamping_of_le h] at hbytes
  have hblob := blob16_decode (Nat.lt_succ_of_le h) []
  have hd : errorDecoder payload =
      some ((code, some (utf8Data message)), []) := by
    unfold errorDecoder
    unfold blob16 at hblob
    rw [List.append_nil] at hblob
    rw [hbytes, Decoder.bind_of_some _ (u32.decode_encode code _), bind_assoc,
      Decoder.bind_of_some _ hblob]
    rfl
  have hlength : payload.length = 6 + (utf8Data message).length := by
    rw [hbytes]
    simp [u32, u16]
    omega
  have hmax : (payload.length : Int) ≤ intMax := by
    unfold intMax
    omega
  rw [cInt_eq (by omega) hmax]
  rcases errorView_follows _ _ _ (VTRemoteRBuf.wellFormed_init hmax) hd
    with ⟨r, hview, _, _⟩
  unfold vtremoteHandleError
  rw [hview]
  rfl

/-!
## Which messages are read back
-/

/-- The client reads back what the server encoded exactly when the length that
the server wrote was not clamped. -/
theorem control_messages_read_back_iff (extradata : Bytes)
    (pixelFormat : UInt8) (code : UInt32) (message : String) :
    (vtremoteHandleConfigureAck
        (ConfigureAckResponse.mk 0 extradata pixelFormat 0).encode
        (cInt (ConfigureAckResponse.mk 0 extradata pixelFormat
          0).encode.length) =
      .ok ⟨extradata, pixelFormat, 0⟩ <-> extradata.length ≤ 65535) ∧
    (vtremoteHandleError (ErrorResponse.mk code message).encode
        (cInt (ErrorResponse.mk code message).encode.length) =
      .ok (code, some (utf8Data message)) <->
        (utf8Data message).length ≤ 65535) := by
  constructor
  · constructor
    · intro h
      exact vtremoteHandleConfigureAck_length h
    · intro h
      exact vtremoteHandleConfigureAck_encode h
  · constructor
    · intro h
      exact vtremoteHandleError_length h
    · intro h
      exact vtremoteHandleError_encode h

/-- One byte more than a 16-bit length can announce. -/
theorem control_messages_clamped :
    ¬ forall (extradata : Bytes) (pixelFormat : UInt8),
      vtremoteHandleConfigureAck
          (ConfigureAckResponse.mk 0 extradata pixelFormat 0).encode
          (cInt (ConfigureAckResponse.mk 0 extradata pixelFormat
            0).encode.length) = .ok ⟨extradata, pixelFormat, 0⟩ := by
  intro h
  have hread := h (List.replicate 65536 7) 1
  have hlength := vtremoteHandleConfigureAck_length hread
  rw [List.length_replicate] at hlength
  exact absurd hlength (by decide)

end VTRemote
