import VTRemote.Proto.Payload

/-!
# Server messages that the client reads field by field

The reading sequence of `vtremote_handle_configure_ack` and of the ERROR
branches.  Both ignore the result of reads whose target has a default.
-/

namespace VTRemote

/-- A read whose result code is ignored: its target keeps its initial value. -/
def readOr {α : Type} (initial : α) (read : RbufRead α) : RbufRead α := fun r =>
  match read r with
  | .ok (a, r) => .ok (a, r)
  | .error (.returned _) => .ok (initial, r)
  | .error .outOfRange => .error .outOfRange

/-- The bytes behind a nonzero `extralen`, after the check
`if (extralen > len - r.pos) return AVERROR_INVALIDDATA;`: the reader was set
up with `len` as its size. -/
def rbufExtradata (extralen : UInt16) : RbufRead Bytes := fun r =>
  if extralen = 0 then .ok ([], r)
  else if r.size - r.pos < extralen.toNat then .error (.returned averrorInvaliddata)
  else .ok (r.ahead.take extralen.toNat, r.advance extralen.toNat)

structure ConfigureAckView where
  extradata : Bytes
  reportedPix : UInt8
  warnCount : UInt8
deriving DecidableEq, Repr

def configureAckView : RbufRead ConfigureAckView := do
  let status ← vtremoteRbufReadU8
  readRequire (status == 0) (.returned averrorInvaliddata)
  let extralen ← readOr 0 vtremoteRbufReadU16
  let extradata ← rbufExtradata extralen
  let reportedPix ← readOr 0 vtremoteRbufReadU8
  let warnCount ← readOr 0 vtremoteRbufReadU8
  pure { extradata, reportedPix, warnCount }

/-- `len` is the header's length, converted to `int`. -/
def vtremoteHandleConfigureAck (payload : Bytes) (len : Int) :
    Except (AccessError AvError) ConfigureAckView :=
  (configureAckView (vtremoteRbufInit payload len)).map Prod.fst

def errorView : RbufRead (UInt32 × Option Bytes) := do
  let code ← readOr 0 vtremoteRbufReadU32
  let msg ← readOr none (do
    let str ← vtremoteRbufReadStr
    pure (some str))
  pure (code, msg)

def vtremoteHandleError (payload : Bytes) (len : Int) :
    Except (AccessError AvError) (UInt32 × Option Bytes) :=
  (errorView (vtremoteRbufInit payload len)).map Prod.fst

theorem readOr_follows {α : Type} {read : RbufRead α} {d : Decoder α}
    (initial : α) (h : RbufFollows read d) :
    RbufFollows (readOr initial read) d := by
  intro r a rest hok hd
  rcases h r a rest hok hd with ⟨r', hread, hok', hrest⟩
  refine ⟨r', ?_, hok', hrest⟩
  unfold readOr
  rw [hread]

theorem rbufExtradata_follows (extralen : UInt16) :
    RbufFollows (rbufExtradata extralen) (Decoder.take extralen.toNat) := by
  intro r bytes rest hok hd
  rcases Decoder.take_eq_some hd with ⟨hahead, hlen⟩
  have hlength := hok.ahead_length
  have hadv := hok.advance hahead
  rw [hahead, List.length_append, hlen] at hlength
  push_cast at hlength
  unfold rbufExtradata
  by_cases hzero : extralen = 0
  · have hnil : bytes = [] := by
      apply List.eq_nil_of_length_eq_zero
      rw [hlen, hzero]
      rfl
    subst hnil
    exact ⟨r, if_pos hzero, hok, hahead⟩
  · refine ⟨r.advance bytes.length, ?_, hadv.1, hadv.2⟩
    rw [if_neg hzero, if_neg (by omega), hahead, <- hlen, List.take_left]

theorem rbufExtradata_length {extralen : UInt16} {r r' : VTRemoteRBuf}
    {bytes : Bytes} (h : rbufExtradata extralen r = .ok (bytes, r')) :
    bytes.length ≤ 65535 := by
  have hword : extralen.toNat < 65536 := extralen.toNat_lt
  unfold rbufExtradata at h
  split at h
  · cases h
    exact Nat.zero_le _
  · split at h
    · cases h
    · cases h
      rw [List.length_take]
      omega

end VTRemote
