import VTRemote.Library.Shortage
import VTRemote.Proto.Payload

/-!
# Reads past the end of a payload

`rbuf_need` adds `int`s.  Near the largest `int` the sum wraps, so the test lets
a word be read that is not there.
-/

namespace VTRemote

structure VTRemoteRBuf.Over (payload : Bytes) (r : VTRemoteRBuf) : Prop where
  wellFormed : r.WellFormed
  data_eq : r.data = payload

theorem VTRemoteRBuf.over_init {payload : Bytes}
    (h : (payload.length : Int) ≤ intMax) :
    (vtremoteRbufInit payload payload.length).Over payload :=
  ⟨wellFormed_init h, rfl⟩

theorem VTRemoteRBuf.Over.pos_eq {payload : Bytes} {r : VTRemoteRBuf}
    (h : r.Over payload) : r.pos = payload.length - r.ahead.length := by
  have hlength := h.wellFormed.ahead_length
  have hsize := h.wellFormed.size_eq
  rw [h.data_eq] at hsize
  omega

/-!
## Reads that stay with their payload
-/

def KeepsData {α : Type} (read : RbufRead α) : Prop :=
  forall r a r', read r = .ok (a, r') -> r'.data = r.data

theorem KeepsData.pure {α : Type} (a : α) : KeepsData (Pure.pure a) := by
  intro r b r' h
  cases h
  rfl

theorem KeepsData.bind {α β : Type} {read : RbufRead α} {next : α -> RbufRead β}
    (h : KeepsData read) (hnext : forall a, KeepsData (next a)) :
    KeepsData (read >>= next) := by
  intro r b r' hread
  rcases bind_eq_ok hread with ⟨a, r1, hfirst, hrest⟩
  exact (hnext a r1 b r' hrest).trans (h r a r1 hfirst)

theorem rbufNeed_keepsData (n : Int) : KeepsData (rbufNeed n) := by
  intro r _ r' h
  unfold rbufNeed at h
  split at h
  · cases h
  · split at h
    · cases h
    · cases h
      rfl

theorem rbufTake_keepsData {α : Type} (n : Nat) (value : VTRemoteRBuf -> α) :
    KeepsData (rbufTake n value) := by
  apply KeepsData.bind (rbufNeed_keepsData n)
  intro _ r a r' h
  dsimp only at h
  split at h
  · cases h
    rfl
  · cases h

theorem rbufPeek_keepsData (n : UInt32) : KeepsData (rbufPeek n) := by
  intro r _ r' h
  unfold rbufPeek at h
  split at h
  · cases h
  · cases h
    rfl

theorem rbufSection_keepsData (n : UInt32) : KeepsData (rbufSection n) := by
  apply KeepsData.bind (rbufPeek_keepsData n)
  intro data r _ r' h
  cases h
  rfl

theorem planeView_keepsData : KeepsData planeView := by
  apply KeepsData.bind (rbufTake_keepsData 4 _)
  intro stride
  apply KeepsData.bind (rbufTake_keepsData 4 _)
  intro height
  apply KeepsData.bind (rbufTake_keepsData 4 _)
  intro dataLen
  apply KeepsData.bind (rbufSection_keepsData dataLen)
  intro data
  exact KeepsData.pure _

theorem sideDataView_keepsData : KeepsData sideDataView := by
  apply KeepsData.bind (rbufTake_keepsData 4 _)
  intro type
  apply KeepsData.bind (rbufTake_keepsData 4 _)
  intro size
  apply KeepsData.bind (rbufSection_keepsData size)
  intro data
  exact KeepsData.pure _

theorem KeepsData.times {α : Type} {read : RbufRead α} (h : KeepsData read)
    (n : Nat) : KeepsData (readTimes read n) := by
  induction n with
  | zero => exact KeepsData.pure []
  | succ n ih =>
      apply h.bind
      intro a
      apply ih.bind
      intro rest
      exact KeepsData.pure (a :: rest)

theorem sideDataSection_keepsData : KeepsData sideDataSection := by
  intro r entries r' h
  unfold sideDataSection at h
  split at h
  · have hbody := (rbufTake_keepsData 1 fun r => r.byte 0).bind fun count =>
      sideDataView_keepsData.times count.toNat
    exact hbody r entries r' h
  · cases h
    rfl

abbrev OverFollows {α : Type} (payload : Bytes) (read : RbufRead α)
    (d : Decoder α) : Prop :=
  Follows (VTRemoteRBuf.Over payload) VTRemoteRBuf.ahead read d

abbrev OverRefuses {α : Type} (payload : Bytes) (read : RbufRead α)
    (d : Decoder α) : Prop :=
  Refuses (VTRemoteRBuf.Over payload) VTRemoteRBuf.ahead read d

theorem RbufFollows.over {α : Type} {read : RbufRead α} {d : Decoder α}
    (h : RbufFollows read d) (hkeeps : KeepsData read) (payload : Bytes) :
    OverFollows payload read d := by
  intro r a rest hr hd
  rcases h r a rest hr.wellFormed hd with ⟨r', hread, hr', hrest⟩
  exact ⟨r', hread, ⟨hr', (hkeeps r a r' hread).trans hr.data_eq⟩, hrest⟩

theorem OverFollows.read_encode {α : Type} {payload : Bytes} {read : RbufRead α}
    {f : Format α} (h : OverFollows payload read f.decode) {r : VTRemoteRBuf}
    (hr : r.Over payload) {a : α} {rest : Bytes}
    (hahead : r.ahead = f.encode a ++ rest) :
    exists r', read r = .ok (a, r') ∧ r'.Over payload ∧ r'.ahead = rest := by
  apply h r a rest hr
  rw [hahead]
  exact f.decode_encode a rest

/-!
## Short reads
-/

/-- The rest of a payload that a read of four bytes meets in vain, but runs past
because of the sum. -/
structure WrapsAt (payload cut : Bytes) : Prop where
  short : cut.length < 4
  wraps : intMax < payload.length - cut.length + 4

abbrev Overreads {α : Type} (payload : Bytes) (read : RbufRead α)
    (due : Bytes -> Prop) : Prop :=
  FailsBehind (VTRemoteRBuf.Over payload) VTRemoteRBuf.ahead (WrapsAt payload)
    .outOfRange read due

theorem cInt_neg {n : Int} (h0 : intMax < n) (h1 : n < 4294967296) : cInt n < 0 := by
  unfold intMax at h0
  unfold cInt
  rw [Int.bmod_def]
  split
  · omega
  · omega

theorem rbufTake_of_short {α : Type} {r : VTRemoteRBuf} (h : r.WellFormed)
    {n : Nat} (hn : (n : Int) ≤ intMax) (hshort : r.ahead.length < n)
    (value : VTRemoteRBuf -> α) :
    rbufTake n value r =
      if intMax < r.pos + n then .error .outOfRange
      else .error (.returned (averror einval)) := by
  have hlength := h.ahead_length
  have hsize := h.size_eq
  have hle := h.size_le
  have hpos := h.pos_nonneg
  have hmax : intMax = 2147483647 := rfl
  by_cases hwraps : intMax < r.pos + n
  · have hsum : cInt (r.pos + n) < 0 := cInt_neg hwraps (by omega)
    have hneed : rbufNeed n r = .ok ((), r) := by
      unfold rbufNeed
      rw [if_neg (by omega), if_neg (by omega)]
    unfold rbufTake
    rw [if_pos hwraps, bind_of_ok hneed, if_neg (by omega)]
  · have hsum : cInt (r.pos + n) = r.pos + n :=
      cInt_eq (by omega) (by omega)
    have hneed : rbufNeed n r = .error (.returned (averror einval)) := by
      unfold rbufNeed
      rw [if_neg (by omega), if_pos (by rw [hsum]; omega)]
    unfold rbufTake
    rw [if_neg hwraps, bind_of_error hneed]

theorem rbufTake_refuses {α : Type} (f : Format α) {n : Nat}
    (hn : (n : Int) ≤ intMax) {value : VTRemoteRBuf -> α}
    (hnone : forall bytes, f.decode bytes = none -> bytes.length < n)
    (payload : Bytes) : OverRefuses payload (rbufTake n value) f.decode := by
  intro r hr hd
  rw [rbufTake_of_short hr.wellFormed hn (hnone _ hd)]
  split
  · exact ⟨_, rfl⟩
  · exact ⟨_, rfl⟩

section Words

variable (payload : Bytes)

theorem vtremoteRbufReadU8_over :
    OverFollows payload vtremoteRbufReadU8 Format.u8.decode :=
  vtremoteRbufReadU8_follows.over (rbufTake_keepsData 1 _) payload

theorem vtremoteRbufReadU8_refuses :
    OverRefuses payload vtremoteRbufReadU8 Format.u8.decode :=
  rbufTake_refuses Format.u8 (by decide) (fun _ => Format.u8_decode_none) payload

theorem vtremoteRbufReadU32_over :
    OverFollows payload vtremoteRbufReadU32 Format.u32.decode :=
  vtremoteRbufReadU32_follows.over (rbufTake_keepsData 4 _) payload

theorem vtremoteRbufReadU32_refuses :
    OverRefuses payload vtremoteRbufReadU32 Format.u32.decode :=
  rbufTake_refuses Format.u32 (by decide) (fun _ => Format.u32_decode_none) payload

theorem vtremoteRbufReadU64_over :
    OverFollows payload vtremoteRbufReadU64 Format.u64.decode :=
  vtremoteRbufReadU64_follows.over (rbufTake_keepsData 8 _) payload

theorem vtremoteRbufReadU64_refuses :
    OverRefuses payload vtremoteRbufReadU64 Format.u64.decode :=
  rbufTake_refuses Format.u64 (by decide) (fun _ => Format.u64_decode_none) payload

theorem vtremoteRbufReadU32_overreads :
    Overreads payload vtremoteRbufReadU32 fun front => front = [] := by
  intro r hr
  have hpos := hr.pos_eq
  constructor
  · intro hread
    cases hd : Format.u32.decode r.ahead with
    | some p =>
        rcases p with ⟨word, rest⟩
        rcases vtremoteRbufReadU32_over payload r word rest hr hd with ⟨r', hok, _⟩
        rw [hok] at hread
        cases hread
    | none =>
        have hshort := Format.u32_decode_none hd
        have hfails := rbufTake_of_short hr.wellFormed (by decide) hshort
          fun r => BigEndian.load32 (r.byte 0) (r.byte 1) (r.byte 2) (r.byte 3)
        refine ⟨[], r.ahead, rfl, rfl, hshort, ?_⟩
        by_cases hwraps : intMax < r.pos + (4 : Nat)
        · rw [hpos] at hwraps
          exact hwraps
        · rw [if_neg hwraps] at hfails
          cases hfails.symm.trans hread
  · intro h
    rcases h with ⟨front, cut, hahead, hfront, hcut⟩
    subst hfront
    rw [List.nil_append] at hahead
    subst hahead
    have hwraps : intMax < r.pos + (4 : Nat) := by
      rw [hpos]
      exact hcut.wraps
    have hfails := rbufTake_of_short hr.wellFormed (by decide) hcut.short
      fun r => BigEndian.load32 (r.byte 0) (r.byte 1) (r.byte 2) (r.byte 3)
    rw [if_pos hwraps] at hfails
    exact hfails

theorem rbufSection_cases {r : VTRemoteRBuf} (h : r.WellFormed) (n : UInt32) :
    rbufSection n r =
      if r.ahead.length < n.toNat then .error (.returned averrorInvaliddata)
      else .ok (r.ahead.take n.toNat, r.advance n.toNat) := by
  have hpeek := rbufPeek_eq h n
  unfold rbufSection
  by_cases hshort : r.ahead.length < n.toNat
  · rw [if_pos hshort] at hpeek ⊢
    exact bind_of_error hpeek
  · rw [if_neg hshort] at hpeek ⊢
    exact bind_of_ok hpeek

theorem rbufSection_over (n : UInt32) :
    OverFollows payload (rbufSection n) (Decoder.take n.toNat) :=
  (rbufSection_follows n).over (rbufSection_keepsData n) payload

theorem rbufSection_refuses (n : UInt32) :
    OverRefuses payload (rbufSection n) (Decoder.take n.toNat) := by
  intro r hr hd
  rw [rbufSection_cases hr.wellFormed, if_pos (Decoder.take_eq_none.mp hd)]
  exact ⟨_, rfl⟩

theorem rbufSection_overreads (n : UInt32) :
    Overreads payload (rbufSection n) fun _ => False := by
  apply FailsBehind.never
  · intro r hr hread
    rw [rbufSection_cases hr.wellFormed] at hread
    split at hread
    · cases hread
    · cases hread
  · exact fun _ h => h

/-!
## Heads of words
-/

abbrev WordsDue (n : Nat) : Bytes -> Prop :=
  DueAmong Format.u32.encode (fun _ => True) (fun front => front = []) n

variable {payload}

theorem Overreads.word {α : Type} {next : UInt32 -> RbufRead α} {n : Nat}
    (hnext : forall word, Overreads payload (next word) (WordsDue n)) :
    Overreads payload (vtremoteRbufReadU32 >>= next) (WordsDue (n + 1)) := by
  have hid : id <$> Format.u32.decode = Format.u32.decode := id_map _
  apply FailsBehind.among Format.u32.reads
  · rw [hid]
    exact vtremoteRbufReadU32_over payload
  · rw [hid]
    exact vtremoteRbufReadU32_refuses payload
  · exact vtremoteRbufReadU32_overreads payload
  · exact fun word _ => hnext word

theorem Overreads.tail {β : Type} (n : UInt32) (view : Bytes -> β) :
    Overreads payload (rbufSection n >>= fun data => pure (view data))
      (WordsDue 0) := by
  apply ((rbufSection_overreads payload n).map view).of_iff
  exact fun front => iff_of_false id (dueAmong_zero front)

theorem planeView_overreads : Overreads payload planeView (WordsDue 3) := by
  apply Overreads.word
  intro stride
  apply Overreads.word
  intro height
  apply Overreads.word
  intro dataLen
  exact Overreads.tail dataLen _

theorem sideDataView_overreads : Overreads payload sideDataView (WordsDue 2) := by
  apply Overreads.word
  intro type
  apply Overreads.word
  intro size
  exact Overreads.tail size _

end Words
end VTRemote
