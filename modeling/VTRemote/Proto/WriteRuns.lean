import VTRemote.Proto.Growth

/-!
# Runs of writes

Calls on one write buffer, whose results the caller may ignore.  A buffer that
was cleared collects the encodings of the writes that succeed; a write that is
refused memory gives up the block.
-/

namespace VTRemote

/-!
## Calls
-/

/-- The writes with their arguments.  The caller passes at least the bytes that
it announces. -/
inductive WbufWrite where
  | putU8 (v : UInt8)
  | putU16 (v : UInt16)
  | putU32 (v : UInt32)
  | putU64 (v : UInt64)
  | putBytes (src : Bytes) (len : Int) (readable : len ≤ src.length)
  | putStr (s : Option Bytes)

namespace WbufWrite

def put : WbufWrite -> WbufPut
  | putU8 v => vtremoteWbufPutU8 v
  | putU16 v => vtremoteWbufPutU16 v
  | putU32 v => vtremoteWbufPutU32 v
  | putU64 v => vtremoteWbufPutU64 v
  | putBytes src len _ => vtremoteWbufPutBytes src len
  | putStr s => vtremoteWbufPutStr s

def encoding : WbufWrite -> Bytes
  | putU8 v => [v]
  | putU16 v => BigEndian.store16 v
  | putU32 v => BigEndian.store32 v
  | putU64 v => BigEndian.store64 v
  | putBytes src len _ => src.take len.toNat
  | putStr s => BigEndian.store16 (UInt16.ofNat (s.getD []).length) ++ s.getD []

/-- The lengths of the pieces that the write makes room for, one after the
other.  There are none if it does not accept its argument. -/
def pieces : WbufWrite -> List Nat
  | putU8 _ => [1]
  | putU16 _ => [2]
  | putU32 _ => [4]
  | putU64 _ => [8]
  | putBytes _ len _ => if len < 0 then [] else [len.toNat]
  | putStr s =>
      if 65535 < (s.getD []).length then [] else [2, (s.getD []).length]

theorem put_appends (w : WbufWrite) : Appends w.put w.encoding := by
  cases w with
  | putU8 v => exact wbufPut_appends _
  | putU16 v => exact wbufPut_appends _
  | putU32 v => exact wbufPut_appends _
  | putU64 v => exact wbufPut_appends _
  | putBytes src len _ => exact Appends.putBytes src len
  | putStr s => exact vtremoteWbufPutStr_appends s

end WbufWrite

inductive WbufCall where
  | write (w : WbufWrite)
  | reset

namespace VTRemoteWBuf

def call (b : VTRemoteWBuf) : WbufCall -> VTRemoteWBuf
  | .write w => (w.put b).2
  | .reset => vtremoteWbufReset b

def after (b : VTRemoteWBuf) (calls : List WbufCall) : VTRemoteWBuf :=
  calls.foldl call b

theorem after_cons (b : VTRemoteWBuf) (c : WbufCall) (calls : List WbufCall) :
    b.after (c :: calls) = (b.call c).after calls := rfl

/-!
## Writes that succeed
-/

def Accepts (b : VTRemoteWBuf) : List WbufWrite -> Prop
  | [] => True
  | w :: writes => 0 ≤ (w.put b).1 ∧ (w.put b).2.Accepts writes

structure Holds (b : VTRemoteWBuf) (bytes : Bytes) : Prop where
  size : b.size = bytes.length
  contents : b.contents = bytes

theorem Sound.holds {b : VTRemoteWBuf} (h : b.Sound) : b.Holds b.contents where
  size := by
    unfold contents
    rw [List.length_take]
    exact (Nat.min_eq_left h).symm
  contents := rfl

theorem sound_init (grants : List Bool) : (vtremoteWbufInit grants).Sound :=
  Nat.le_refl 0

theorem after_writes {b : VTRemoteWBuf} (hb : b.Sound) {writes : List WbufWrite}
    (h : b.Accepts writes) :
    (b.after (writes.map .write)).Holds
      (b.contents ++ writes.flatMap WbufWrite.encoding) := by
  induction writes generalizing b with
  | nil =>
      rw [List.flatMap_nil, List.append_nil]
      exact hb.holds
  | cons w writes ih =>
      rcases h with ⟨hret, hrest⟩
      have happends := w.put_appends
      have hzero : (w.put b).1 = 0 := Int.le_antisymm (happends.nonpos b) hret
      have hwhole := ih (happends.sound b hb hzero) hrest
      rw [happends.contents b hb hzero, List.append_assoc] at hwhole
      rw [List.map_cons, after_cons, List.flatMap_cons]
      exact hwhole

/-- Behind `vtremote_wbuf_init`, or behind a reset after any calls. -/
def Cleared (grants : List Bool) (b : VTRemoteWBuf) : Prop :=
  b = vtremoteWbufInit grants ∨
    exists calls, b = vtremoteWbufReset ((vtremoteWbufInit grants).after calls)

theorem Cleared.sound {grants : List Bool} {b : VTRemoteWBuf}
    (h : Cleared grants b) : b.Sound ∧ b.contents = [] := by
  rcases h with rfl | ⟨calls, rfl⟩
  · exact ⟨sound_init grants, rfl⟩
  · exact ⟨sound_reset _, contents_reset _⟩

/-!
## Writes that are refused memory
-/

def Empty (b : VTRemoteWBuf) : Prop := b.size = 0 ∨ b.data = none

def Whole (b : VTRemoteWBuf) : Prop := b.data = none ∨ b.Sound

theorem Whole.contents_eq_nil {b : VTRemoteWBuf} (h : b.Whole) :
    b.contents = [] <-> b.Empty := by
  constructor
  · intro hnil
    rcases h with hnone | hsound
    · exact Or.inr hnone
    · have hsize := hsound.holds.size
      rw [hnil] at hsize
      exact Or.inl hsize
  · intro hempty
    unfold contents
    rcases hempty with hsize | hnone
    · rw [hsize, List.take_zero]
    · rw [hnone]
      exact List.take_nil

end VTRemoteWBuf

def Room.refusal (r : Room) (grants : List Bool) : List Nat -> Option Nat
  | [] => none
  | n :: rest =>
      if r.Refuses grants n then some 0
      else ((r.grow n).refusal (grants.drop (r.requests [n])) rest).map (· + 1)

namespace WbufWrite

def refusal (w : WbufWrite) (b : VTRemoteWBuf) : Option Nat :=
  b.room.refusal b.grants w.pieces

/-- If the write fails, the buffer has the size and the bytes that it had. -/
def Unchanged (w : WbufWrite) (b : VTRemoteWBuf) : Prop :=
  (w.put b).1 < 0 ->
    (w.put b).2.size = b.size ∧ (w.put b).2.contents = b.contents

/-- No piece of the write is refused memory, or the first one, where there is
nothing to lose. -/
def Kept (w : WbufWrite) (b : VTRemoteWBuf) : Prop :=
  w.refusal b = none ∨ w.refusal b = some 0 ∧ b.Empty

section Refusals

variable {w : WbufWrite} {b : VTRemoteWBuf}

theorem unchanged_iff_of_rejected (hput : (w.put b).2 = b) (hpieces : w.pieces = []) :
    w.Unchanged b <-> w.Kept b := by
  have hrefusal : w.refusal b = none := by
    unfold refusal
    rw [hpieces]
    rfl
  apply iff_of_true
  · intro _
    rw [hput]
    exact ⟨rfl, rfl⟩
  · exact Or.inl hrefusal

/-- Where the first piece is refused, the bytes of the buffer are gone. -/
theorem unchanged_iff_of_refused (hb : b.Whole) {first : Bytes} {rest : List Nat}
    (hpieces : w.pieces = first.length :: rest)
    (hrefuses : b.room.Refuses b.grants first.length)
    (hstops : w.put b = wbufPut first b) : w.Unchanged b <-> w.Kept b := by
  have hrefusal : w.refusal b = some 0 := by
    unfold refusal
    rw [hpieces, Room.refusal]
    exact if_pos hrefuses
  rcases wbufPut_of_refuses hrefuses with ⟨hret, hsize, hnone⟩
  have hlost : (wbufPut first b).2.contents = [] := by
    unfold VTRemoteWBuf.contents
    rw [hnone]
    exact List.take_nil
  unfold Unchanged Kept
  rw [hstops, hlost, hrefusal, <- hb.contents_eq_nil]
  constructor
  · intro h
    exact Or.inr ⟨rfl, (h hret).2.symm⟩
  · intro h
    rcases h with h | h
    · cases h
    · exact fun _ => ⟨hsize, h.2.symm⟩

theorem unchanged_iff_of_piece (hb : b.Whole) {bytes : Bytes}
    (hput : w.put b = wbufPut bytes b) (hpieces : w.pieces = [bytes.length]) :
    w.Unchanged b <-> w.Kept b := by
  by_cases hrefuses : b.room.Refuses b.grants bytes.length
  · exact unchanged_iff_of_refused hb hpieces hrefuses hput
  · have hrefusal : w.refusal b = none := by
      unfold refusal Room.refusal
      rw [hpieces]
      exact if_neg hrefuses
    have hunchanged : w.Unchanged b := by
      unfold Unchanged
      rw [hput]
      rcases wbufPut_of_not_refuses hrefuses with hpiece | ⟨_, _, hsame⟩
      · rw [hpiece.ret]
        exact fun hret => absurd hret (Int.lt_irrefl 0)
      · rw [hsame]
        exact fun _ => ⟨rfl, rfl⟩
    exact iff_of_true hunchanged (Or.inl hrefusal)

theorem unchanged_iff_of_pair (hb : b.Whole) {first second : Bytes}
    (hput : w.put b = (wbufPut first).orReturn (wbufPut second) b)
    (hpieces : w.pieces = [first.length, second.length])
    (hfirst : 0 < first.length) : w.Unchanged b <-> w.Kept b := by
  by_cases hrefuses : b.room.Refuses b.grants first.length
  · have hstops : w.put b = wbufPut first b := by
      rw [hput, WbufPut.orReturn]
      exact if_pos (wbufPut_of_refuses hrefuses).1
    exact unchanged_iff_of_refused hb hpieces hrefuses hstops
  · rcases wbufPut_of_not_refuses hrefuses with hpiece | ⟨_, hzero, _⟩
    · have hgoes : w.put b = wbufPut second (wbufPut first b).2 := by
        rw [hput]
        simp only [WbufPut.orReturn, hpiece.ret, if_neg (Int.lt_irrefl 0), zero_lor]
      have hwide : (wbufPut first b).2.size = b.size + first.length := by
        have hsize := congrArg Room.size hpiece.room
        rw [Room.grow_size] at hsize
        exact hsize
      have hrefusal : w.refusal b =
          ((wbufPut first b).2.room.refusal (wbufPut first b).2.grants
            [second.length]).map (· + 1) := by
        rw [hpiece.room, hpiece.grants]
        unfold refusal
        rw [hpieces, Room.refusal]
        exact if_neg hrefuses
      by_cases hlater : (wbufPut first b).2.room.Refuses (wbufPut first b).2.grants
          second.length
      · -- the first piece stays counted
        rcases wbufPut_of_refuses hlater with ⟨hret, hsize, _⟩
        rw [Room.refusal, if_pos hlater] at hrefusal
        unfold Unchanged Kept
        rw [hgoes, hrefusal, hsize, hwide]
        apply iff_of_false
        · intro h
          have hsame := (h hret).1
          omega
        · intro h
          rcases h with h | h
          · cases h
          · cases h.1
      · rw [Room.refusal, if_neg hlater] at hrefusal
        have hblock := (wbufPut_sound hpiece.ret).1
        have hunchanged : w.Unchanged b := by
          unfold Unchanged
          rw [hgoes]
          rcases wbufPut_of_not_refuses hlater with hpiece' | ⟨hnone, _, _⟩
          · rw [hpiece'.ret]
            exact fun hret => absurd hret (Int.lt_irrefl 0)
          · rcases hblock with ⟨block, hblock⟩
            rw [hnone] at hblock
            cases hblock
        exact iff_of_true hunchanged (Or.inl hrefusal)
    · omega

/-- A failing write changes nothing exactly if no memory was refused, but for a
first piece where there was nothing to lose. -/
theorem unchanged_iff (w : WbufWrite) (hb : b.Whole) : w.Unchanged b <-> w.Kept b := by
  cases w with
  | putU8 v => exact unchanged_iff_of_piece hb rfl rfl
  | putU16 v => exact unchanged_iff_of_piece hb rfl rfl
  | putU32 v => exact unchanged_iff_of_piece hb rfl rfl
  | putU64 v => exact unchanged_iff_of_piece hb rfl rfl
  | putBytes src len readable =>
      by_cases hlen : len < 0
      · apply unchanged_iff_of_rejected
        · show (vtremoteWbufPutBytes src len b).2 = b
          rw [vtremoteWbufPutBytes, if_pos hlen]
        · exact if_pos hlen
      · have htake : (src.take len.toNat).length = len.toNat :=
          List.length_take_of_le (Int.toNat_le.mpr readable)
        have hput : vtremoteWbufPutBytes src len b = wbufPut (src.take len.toNat) b :=
          if_neg hlen
        have hpieces : (putBytes src len readable).pieces = [len.toNat] := if_neg hlen
        rw [<- htake] at hpieces
        exact unchanged_iff_of_piece hb hput hpieces
  | putStr s =>
      by_cases hlen : 65535 < (s.getD []).length
      · apply unchanged_iff_of_rejected
        · show (vtremoteWbufPutStr s b).2 = b
          simp only [vtremoteWbufPutStr, if_pos hlen]
        · exact if_pos hlen
      · have hwrite : vtremoteWbufPutBytes (s.getD []) (s.getD []).length =
            wbufPut (s.getD []) :=
          funext (vtremoteWbufPutBytes_length (s.getD []))
        have hput := vtremoteWbufPutStr_of_le (Nat.le_of_not_lt hlen) b
        rw [hwrite] at hput
        exact unchanged_iff_of_pair hb hput (if_neg hlen) Nat.two_pos

end Refusals
end WbufWrite

/-!
## Every run
-/

namespace VTRemoteWBuf

theorem whole_of_piece {b : VTRemoteWBuf} (hb : b.Whole) (bytes : Bytes) :
    (wbufPut bytes b).2.Whole := by
  by_cases hrefuses : b.room.Refuses b.grants bytes.length
  · exact Or.inl (wbufPut_of_refuses hrefuses).2.2
  · rcases wbufPut_of_not_refuses hrefuses with hpiece | ⟨_, _, hsame⟩
    · exact Or.inr (wbufPut_sound hpiece.ret).2
    · rw [hsame]
      exact hb

theorem Whole.orReturn {b : VTRemoteWBuf} {first second : WbufPut} (hb : b.Whole)
    (hfirst : forall {b : VTRemoteWBuf}, b.Whole -> (first b).2.Whole)
    (hsecond : forall {b : VTRemoteWBuf}, b.Whole -> (second b).2.Whole) :
    (first.orReturn second b).2.Whole := by
  unfold WbufPut.orReturn
  dsimp only
  split
  · exact hfirst hb
  · exact hsecond (hfirst hb)

theorem Whole.put {b : VTRemoteWBuf} (hb : b.Whole) (w : WbufWrite) :
    (w.put b).2.Whole := by
  cases w with
  | putU8 v => exact whole_of_piece hb [v]
  | putU16 v => exact whole_of_piece hb _
  | putU32 v => exact whole_of_piece hb _
  | putU64 v => exact whole_of_piece hb _
  | putBytes src len _ =>
      show (vtremoteWbufPutBytes src len b).2.Whole
      unfold vtremoteWbufPutBytes
      split
      · exact hb
      · exact whole_of_piece hb _
  | putStr s =>
      show (vtremoteWbufPutStr s b).2.Whole
      by_cases hlen : 65535 < (s.getD []).length
      · simp only [vtremoteWbufPutStr, if_pos hlen]
        exact hb
      · rw [vtremoteWbufPutStr_of_le (Nat.le_of_not_lt hlen)]
        apply hb.orReturn
        · exact fun h => whole_of_piece h _
        · intro b h
          rw [vtremoteWbufPutBytes_length]
          exact whole_of_piece h _

theorem Whole.call {b : VTRemoteWBuf} (hb : b.Whole) (c : WbufCall) :
    (b.call c).Whole := by
  cases c with
  | write w => exact hb.put w
  | reset => exact Or.inr (sound_reset b)

theorem Whole.after {b : VTRemoteWBuf} (hb : b.Whole) (calls : List WbufCall) :
    (b.after calls).Whole := by
  induction calls generalizing b with
  | nil => exact hb
  | cons c calls ih => exact ih (hb.call c)

theorem whole_after_init (grants : List Bool) (calls : List WbufCall) :
    ((vtremoteWbufInit grants).after calls).Whole :=
  Whole.after (Or.inl rfl) calls

end VTRemoteWBuf

open VTRemoteWBuf

/-- Behind any calls, a write that fails changes nothing exactly if no piece of it
was refused memory, but for a first one where there was nothing to lose.  Writes
that succeed on a cleared buffer leave their encodings in it. -/
theorem wbufWrite_unchanged_iff (grants : List Bool) (calls : List WbufCall)
    (w : WbufWrite) :
    (w.Unchanged ((vtremoteWbufInit grants).after calls) <->
      w.Kept ((vtremoteWbufInit grants).after calls)) ∧
    forall b, Cleared grants b -> forall writes, b.Accepts writes ->
      (b.after (writes.map .write)).Holds (writes.flatMap WbufWrite.encoding) := by
  constructor
  · exact w.unchanged_iff (whole_after_init grants calls)
  · intro b hcleared writes haccepts
    rcases hcleared.sound with ⟨hsound, hnil⟩
    have hholds := after_writes hsound haccepts
    rw [hnil, List.nil_append] at hholds
    exact hholds

/-- The larger block is refused, and the byte that was there is gone. -/
theorem refused_write_loses_byte :
    ¬ (WbufWrite.putBytes (List.replicate 40 1) 40 (Int.le_refl 40)).Unchanged
      ((vtremoteWbufInit [true, false]).after [.write (.putU8 7)]) := by
  intro h
  have hcontents := (h (by decide)).2
  revert hcontents
  decide

/-- A write with a negative length fails and leaves the byte that is there; writes
that succeed leave theirs. -/
theorem wbufWrite_unchanged_iff_byte :
    (((WbufWrite.putBytes [1] (-1) (by decide)).put
        ((vtremoteWbufInit [true, false]).after [.write (.putU8 7)])).1 < 0 ∧
      (WbufWrite.putBytes [1] (-1) (by decide)).Unchanged
        ((vtremoteWbufInit [true, false]).after [.write (.putU8 7)])) ∧
    ((vtremoteWbufInit []).after [.write (.putU8 7), .write (.putU16 258)]).Holds
      [7, 1, 2] :=
  ⟨⟨by decide, (wbufWrite_unchanged_iff [true, false] [.write (.putU8 7)]
      (.putBytes [1] (-1) (by decide))).1.mpr (Or.inl (by decide))⟩,
    (wbufWrite_unchanged_iff [] [] (.putU8 7)).2 (vtremoteWbufInit []) (Or.inl rfl)
      [.putU8 7, .putU16 258] ⟨by decide, by decide, trivial⟩⟩

end VTRemote
