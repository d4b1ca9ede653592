import VTRemote.Library.Format

/-!
# Byte buffers of the server

`ByteWriter` and `ByteReader` of the daemon, with the errors it throws.  A
Swift operation that would trap is a failure of its own, which no handler of
the daemon catches.
-/

namespace VTRemote

inductive VTRemotedError where
  | protocolViolation (msg : String)
  | ioError (code : Int) (message : String)
  | unsupported (msg : String)
  | videoToolboxUnavailable
deriving DecidableEq, Repr

inductive Failure where
  | thrown (error : VTRemotedError)
  | trapped
deriving DecidableEq, Repr

theorem swift_bind_eq_ok {α β : Type} {x : Except Failure α}
    {next : α -> Except Failure β} {b : β} (h : (x >>= next) = .ok b) :
    exists a, x = .ok a ∧ next a = .ok b := by
  cases x with
  | error e => cases h
  | ok a => exact ⟨a, rfl, h⟩

/-!
## Swift strings
-/

/-- `string.data(using: .utf8)`. -/
def utf8Data (string : String) : List UInt8 := string.toByteArray.data.toList

/-- `String(data: bytes, encoding: .utf8)`. -/
def utf8String (bytes : List UInt8) : Option String :=
  String.fromUTF8? ⟨⟨bytes⟩⟩

@[simp] theorem utf8String_utf8Data (string : String) :
    utf8String (utf8Data string) = some string := by
  unfold utf8String utf8Data String.fromUTF8?
  exact dif_pos string.isValidUTF8

/-!
## ByteWriter
-/

/-- `UInt16(clamping:)` on a count. -/
def uint16Clamping (n : Nat) : UInt16 := UInt16.ofNat (min n 65535)

structure ByteWriter where
  data : List UInt8 := []
deriving DecidableEq, Repr

namespace ByteWriter

def write (w : ByteWriter) (bytes : List UInt8) : ByteWriter :=
  { data := w.data ++ bytes }

def writeUInt8 (w : ByteWriter) (value : UInt8) : ByteWriter := w.write [value]

def writeBE16 (w : ByteWriter) (value : UInt16) : ByteWriter :=
  w.write (BigEndian.store16 value)

def writeBE32 (w : ByteWriter) (value : UInt32) : ByteWriter :=
  w.write (BigEndian.store32 value)

def writeBE64 (w : ByteWriter) (value : UInt64) : ByteWriter :=
  w.write (BigEndian.store64 value)

def writeLengthPrefixedUTF8 (w : ByteWriter) (string : String) : ByteWriter :=
  (w.writeBE16 (uint16Clamping (utf8Data string).length)).write
    (utf8Data string)

end ByteWriter

theorem uint16Clamping_of_le {n : Nat} (h : n ≤ 65535) :
    uint16Clamping n = UInt16.ofNat n := by
  unfold uint16Clamping
  rw [Nat.min_eq_left h]

/-!
## ByteReader
-/

structure ByteReader where
  data : List UInt8
  index : Nat
  inBounds : index ≤ data.length

/-- A read of the daemon: it moves the reader or fails. -/
abbrev ReaderM (α : Type) := StateT ByteReader (Except Failure) α

def unexpectedEOF : Failure := .thrown (.protocolViolation "unexpected EOF")

namespace ByteReader

def init (data : List UInt8) : ByteReader :=
  { data := data, index := 0, inBounds := Nat.zero_le _ }

def remaining (r : ByteReader) : Nat := r.data.length - r.index

def ahead (r : ByteReader) : List UInt8 := r.data.drop r.index

@[simp] theorem ahead_init (data : List UInt8) : (init data).ahead = data :=
  rfl

theorem ahead_length (r : ByteReader) : r.ahead.length = r.remaining :=
  List.length_drop

/-- `guard index + count <= data.count`, the bytes there, `index += count`. -/
def consume (count : Nat) : ReaderM (List UInt8) := fun r =>
  if h : r.index + count ≤ r.data.length then
    .ok (r.ahead.take count,
      { data := r.data, index := r.index + count, inBounds := h })
  else .error unexpectedEOF

def readBytes (count : Int) : ReaderM (List UInt8) :=
  if 0 ≤ count then consume count.toNat
  else throw (.thrown (.protocolViolation "negative length"))

/-- The range of a slice stands for the bytes in it. -/
def sliceRange (count : Int) : ReaderM (List UInt8) := readBytes count

def readUInt8 : ReaderM UInt8 := do
  let base ← consume 1
  pure (base.getD 0 0)

def readBEUInt16 : ReaderM UInt16 := do
  let base ← consume 2
  pure (BigEndian.load16 (base.getD 0 0) (base.getD 1 0))

def readBEUInt32 : ReaderM UInt32 := do
  let base ← consume 4
  pure (BigEndian.load32 (base.getD 0 0) (base.getD 1 0) (base.getD 2 0)
    (base.getD 3 0))

def readBEUInt64 : ReaderM UInt64 := do
  let base ← consume 8
  pure (BigEndian.load64 (base.getD 0 0) (base.getD 1 0) (base.getD 2 0)
    (base.getD 3 0) (base.getD 4 0) (base.getD 5 0) (base.getD 6 0)
    (base.getD 7 0))

def readLengthPrefixedUTF8 : ReaderM String := do
  let length ← readBEUInt16
  let bytes ← readBytes length.toNat
  pure ((utf8String bytes).getD "")

end ByteReader

/-!
## Readers follow the wire formats
-/

abbrev SwiftFollows {α : Type} (read : ReaderM α) (d : Decoder α) : Prop :=
  Follows (fun _ => True) ByteReader.ahead read d

abbrev SwiftRefuses {α : Type} (read : ReaderM α) (d : Decoder α) : Prop :=
  Refuses (fun _ => True) ByteReader.ahead read d

theorem SwiftFollows.read_init {α β : Type} {read : ReaderM β} {d : Decoder α}
    {view : α -> β} (h : SwiftFollows read (view <$> d))
    {data rest : List UInt8} {a : α} (hd : d data = some (a, rest)) :
    exists r, read (ByteReader.init data) = .ok (view a, r) ∧
      r.ahead = rest := by
  rcases h.of_map (r := ByteReader.init data) trivial hd
    with ⟨r, hread, _, hrest⟩
  exact ⟨r, hread, hrest⟩

theorem SwiftFollows.read_encode {α : Type} {read : ReaderM α} {f : Format α}
    (h : SwiftFollows read f.decode) {r : ByteReader} {a : α}
    {rest : List UInt8} (hahead : r.ahead = f.encode a ++ rest) :
    exists r', read r = .ok (a, r') ∧ r'.ahead = rest := by
  have hd := f.decode_encode a rest
  rw [<- hahead] at hd
  rcases h r a rest trivial hd with ⟨r', hread, _, hrest⟩
  exact ⟨r', hread, hrest⟩

theorem SwiftRefuses.read_init {α β : Type} {read : ReaderM β} {d : Decoder α}
    {view : α -> β} (h : SwiftRefuses read (view <$> d)) {data : List UInt8}
    (hd : d data = none) :
    exists e, read (ByteReader.init data) = .error e :=
  h.of_map (r := ByteReader.init data) trivial hd

namespace ByteReader

theorem consume_follows (count : Nat) :
    SwiftFollows (consume count) (Decoder.take count) := by
  intro r bytes rest _ hd
  rcases Decoder.take_eq_some hd with ⟨hahead, hlen⟩
  have hroom : r.index + count ≤ r.data.length := by
    have h := r.ahead_length
    have hin := r.inBounds
    rw [hahead, List.length_append, hlen] at h
    unfold remaining at h
    omega
  subst hlen
  refine ⟨⟨r.data, r.index + bytes.length, hroom⟩, ?_, trivial, ?_⟩
  · unfold consume
    rw [dif_pos hroom, hahead, List.take_left]
  · show r.data.drop (r.index + bytes.length) = rest
    rw [<- List.drop_drop]
    show r.ahead.drop bytes.length = rest
    rw [hahead, List.drop_left]

theorem consume_refuses (count : Nat) :
    SwiftRefuses (consume count) (Decoder.take count) := by
  intro r _ hd
  have hlen := Decoder.take_eq_none.mp hd
  have hin := r.inBounds
  rw [r.ahead_length] at hlen
  unfold remaining at hlen
  refine ⟨unexpectedEOF, ?_⟩
  unfold consume
  exact dif_neg (by omega)

theorem readBytes_natCast (count : Nat) :
    readBytes (count : Int) = consume count :=
  if_pos (Int.natCast_nonneg count)

theorem word_follows {α : Type} (f : Format α) {n : Nat}
    {value : List UInt8 -> α}
    (hlen : forall a, (f.encode a).length = n)
    (hvalue : forall a, value (f.encode a) = a) :
    SwiftFollows (do
      let base ← consume n
      pure (value base)) f.decode := by
  intro r a rest hok hd
  have hahead := f.encode_decode _ _ _ hd
  have htake := Decoder.take_append rest (hlen a)
  rw [<- hahead] at htake
  rcases consume_follows n r _ _ hok htake with ⟨r', hread, hok', hrest⟩
  refine ⟨r', ?_, hok', hrest⟩
  rw [bind_of_ok hread, hvalue]
  rfl

theorem word_refuses {α : Type} (f : Format α) {n : Nat}
    {value : List UInt8 -> α}
    (hnone : forall bytes, f.decode bytes = none -> bytes.length < n) :
    SwiftRefuses (do
      let base ← consume n
      pure (value base)) f.decode := by
  intro r hok hd
  have htake := Decoder.take_eq_none.mpr (hnone _ hd)
  rcases consume_refuses n r hok htake with ⟨e, he⟩
  exact ⟨e, bind_of_error he⟩

theorem readUInt8_follows : SwiftFollows readUInt8 Format.u8.decode :=
  word_follows Format.u8 (fun _ => rfl) (fun _ => rfl)

theorem readBEUInt16_follows : SwiftFollows readBEUInt16 Format.u16.decode :=
  word_follows Format.u16 (fun _ => rfl) Format.load16_store16

theorem readBEUInt32_follows : SwiftFollows readBEUInt32 Format.u32.decode :=
  word_follows Format.u32 (fun _ => rfl) Format.load32_store32

theorem readBEUInt64_follows : SwiftFollows readBEUInt64 Format.u64.decode :=
  word_follows Format.u64 (fun _ => rfl) Format.load64_store64

theorem readUInt8_refuses : SwiftRefuses readUInt8 Format.u8.decode :=
  word_refuses Format.u8 fun _ => Format.u8_decode_none

theorem readBEUInt32_refuses : SwiftRefuses readBEUInt32 Format.u32.decode :=
  word_refuses Format.u32 fun _ => Format.u32_decode_none

theorem readBEUInt64_refuses : SwiftRefuses readBEUInt64 Format.u64.decode :=
  word_refuses Format.u64 fun _ => Format.u64_decode_none

/-!
## Readers that never trap
-/

def NeverTraps {α : Type} (read : ReaderM α) : Prop :=
  forall r, read r ≠ .error .trapped

theorem NeverTraps.pure {α : Type} (a : α) : NeverTraps (Pure.pure a) := by
  intro r h
  cases h

theorem NeverTraps.thrown {α : Type} (error : VTRemotedError) :
    NeverTraps (throw (.thrown error) : ReaderM α) := by
  intro r h
  cases h

theorem NeverTraps.bind {α β : Type} {read : ReaderM α} {next : α -> ReaderM β}
    (h : NeverTraps read) (hnext : forall a, NeverTraps (next a)) :
    NeverTraps (read >>= next) := by
  intro r htrap
  cases hread : read r with
  | error e =>
      rw [bind_of_error hread] at htrap
      cases htrap
      exact h r hread
  | ok p =>
      rcases p with ⟨a, r'⟩
      rw [bind_of_ok hread] at htrap
      exact hnext a r' htrap

theorem consume_neverTraps (count : Nat) : NeverTraps (consume count) := by
  intro r h
  unfold consume at h
  split at h
  · cases h
  · cases h

theorem readBytes_neverTraps (count : Int) : NeverTraps (readBytes count) := by
  unfold readBytes
  split
  · exact consume_neverTraps _
  · exact NeverTraps.thrown _

theorem readUInt8_neverTraps : NeverTraps readUInt8 :=
  (consume_neverTraps 1).bind fun _ => NeverTraps.pure _

theorem readBEUInt16_neverTraps : NeverTraps readBEUInt16 :=
  (consume_neverTraps 2).bind fun _ => NeverTraps.pure _

theorem readBEUInt32_neverTraps : NeverTraps readBEUInt32 :=
  (consume_neverTraps 4).bind fun _ => NeverTraps.pure _

theorem readBEUInt64_neverTraps : NeverTraps readBEUInt64 :=
  (consume_neverTraps 8).bind fun _ => NeverTraps.pure _

theorem readLengthPrefixedUTF8_neverTraps : NeverTraps readLengthPrefixedUTF8 :=
  readBEUInt16_neverTraps.bind fun _ =>
    (readBytes_neverTraps _).bind fun _ => NeverTraps.pure _

end ByteReader
end VTRemote
