import VTRemote.Server.ByteBuffer

/-!
# Session messages of the server

`HelloRequest`, `HelloAckResponse`, `ConfigureRequest`, `ConfigureAckResponse`
and `ErrorResponse`.

Swift compares strings by canonical equivalence.  The canonical form of a
string is an argument of every definition that compares option names.
-/

namespace VTRemote

/-!
## HELLO
-/

structure HelloRequest where
  token : String
  codec : String
  clientName : String
  build : String
deriving DecidableEq, Repr

namespace HelloRequest

open ByteReader

def read : ReaderM HelloRequest := do
  let token ← readLengthPrefixedUTF8
  let codec ← readLengthPrefixedUTF8
  let clientName ← readLengthPrefixedUTF8
  let build ← readLengthPrefixedUTF8
  pure { token, codec, clientName, build }

def decode (payload : List UInt8) : Except Failure HelloRequest :=
  (read (ByteReader.init payload)).map Prod.fst

theorem read_neverTraps : NeverTraps read :=
  readLengthPrefixedUTF8_neverTraps.bind fun _ =>
    readLengthPrefixedUTF8_neverTraps.bind fun _ =>
      readLengthPrefixedUTF8_neverTraps.bind fun _ =>
        readLengthPrefixedUTF8_neverTraps.bind fun _ => NeverTraps.pure _

theorem decode_ne_trapped (payload : List UInt8) :
    decode payload ≠ .error .trapped := by
  intro h
  unfold decode at h
  cases hread : read (ByteReader.init payload) with
  | ok p =>
      rw [hread] at h
      cases h
  | error e =>
      rw [hread] at h
      cases h
      exact read_neverTraps _ hread

end HelloRequest

structure HelloAckResponse where
  status : UInt8
  supportedCodecs : List String
  warnings : UInt8
deriving DecidableEq, Repr

/-- The count of codecs is clamped; the warnings are not written. -/
def HelloAckResponse.encode (r : HelloAckResponse) : List UInt8 :=
  let writer := (ByteWriter.mk []).writeUInt8 r.status
  let writer := (writer.writeBE16 0).writeBE16 0
  let writer := writer.writeUInt8 (UInt8.ofNat (min r.supportedCodecs.length 255))
  let writer := r.supportedCodecs.foldl ByteWriter.writeLengthPrefixedUTF8 writer
  ((writer.writeBE16 4).writeBE16 1).data

/-!
## Dictionaries of options
-/

/-- `[String: String]`, with at most one entry for a key. -/
structure OptionsDictionary (canonical : String -> String) where
  entries : List (String × String)
  distinct : entries.Pairwise fun a b => canonical a.1 ≠ canonical b.1

namespace OptionsDictionary

variable {canonical : String -> String}

/-- An entry with an equal key keeps its key and takes the new value. -/
def updateEntries (canonical : String -> String) (key val : String) :
    List (String × String) -> List (String × String)
  | [] => [(key, val)]
  | entry :: rest =>
      if canonical entry.1 = canonical key then (entry.1, val) :: rest
      else entry :: updateEntries canonical key val rest

theorem mem_updateEntries {key val : String} {entries : List (String × String)}
    {entry : String × String}
    (h : entry ∈ updateEntries canonical key val entries) :
    canonical entry.1 = canonical key ∨ entry ∈ entries := by
  induction entries with
  | nil =>
      left
      rw [List.mem_singleton.mp h]
  | cons first rest ih =>
      unfold updateEntries at h
      split at h
      · rename_i heq
        rcases List.mem_cons.mp h with hfirst | hrest
        · left
          rw [hfirst, heq]
        · right
          exact List.mem_cons_of_mem first hrest
      · rcases List.mem_cons.mp h with hfirst | hrest
        · right
          rw [hfirst]
          exact List.mem_cons_self
        · rcases ih hrest with hkey | hmem
          · exact Or.inl hkey
          · exact Or.inr (List.mem_cons_of_mem first hmem)

theorem updateEntries_distinct {entries : List (String × String)}
    (key val : String)
    (h : entries.Pairwise fun a b => canonical a.1 ≠ canonical b.1) :
    (updateEntries canonical key val entries).Pairwise
      fun a b => canonical a.1 ≠ canonical b.1 := by
  induction entries with
  | nil => exact List.pairwise_singleton _ _
  | cons first rest ih =>
      rcases List.pairwise_cons.mp h with ⟨hfirst, hrest⟩
      unfold updateEntries
      split
      · exact List.pairwise_cons.mpr ⟨hfirst, hrest⟩
      · rename_i hne
        refine List.pairwise_cons.mpr ⟨?_, ih hrest⟩
        intro entry hentry
        rcases mem_updateEntries hentry with hkey | hmem
        · rw [hkey]
          exact hne
        · exact hfirst entry hmem

def empty : OptionsDictionary canonical :=
  { entries := [], distinct := List.Pairwise.nil }

/-- `options[key] = val`. -/
def update (d : OptionsDictionary canonical) (key val : String) :
    OptionsDictionary canonical :=
  { entries := updateEntries canonical key val d.entries
    distinct := updateEntries_distinct key val d.distinct }

/-- `options[key]`. -/
def lookup (d : OptionsDictionary canonical) (key : String) : Option String :=
  (d.entries.find? fun entry => canonical entry.1 = canonical key).map Prod.snd

theorem updateEntries_of_new {key val : String}
    {entries : List (String × String)}
    (h : forall entry, entry ∈ entries -> canonical entry.1 ≠ canonical key) :
    updateEntries canonical key val entries = entries ++ [(key, val)] := by
  induction entries with
  | nil => rfl
  | cons first rest ih =>
      have hfirst := h first List.mem_cons_self
      have hrest := ih fun entry hentry =>
        h entry (List.mem_cons_of_mem first hentry)
      unfold updateEntries
      rw [if_neg hfirst, hrest]
      rfl

theorem lookup_of_mem (d : OptionsDictionary canonical) {key val : String}
    (h : (key, val) ∈ d.entries) : d.lookup key = some val := by
  have hdistinct := d.distinct
  unfold lookup
  generalize d.entries = entries at h hdistinct ⊢
  induction entries with
  | nil => cases h
  | cons first rest ih =>
      rcases List.pairwise_cons.mp hdistinct with ⟨hfirst, hrest⟩
      rcases List.mem_cons.mp h with heq | hmem
      · rw [List.find?_cons_of_pos (by simp [<- heq]), <- heq]
        rfl
      · have hne := hfirst (key, val) hmem
        rw [List.find?_cons_of_neg (by simpa using hne)]
        exact ih hmem hrest

end OptionsDictionary

/-!
## ConfigureRequest
-/

structure Timebase where
  num : Nat
  den : Nat
deriving DecidableEq, Repr

def Timebase.init (num den : Nat) : Timebase :=
  { num := max 1 num, den := max 1 den }

structure ConfigureRequest (canonical : String -> String) where
  width : Nat
  height : Nat
  pixelFormat : UInt8
  timebase : Timebase
  frameRate : Nat × Nat
  options : OptionsDictionary canonical
  extradata : Option (List UInt8)

namespace ConfigureRequest

open ByteReader

variable (canonical : String -> String)

/-- Keys and values that are not UTF-8 are skipped. -/
def assign (options : OptionsDictionary canonical) (keyData valData : List UInt8) :
    OptionsDictionary canonical :=
  match utf8String keyData, utf8String valData with
  | some key, some val => options.update key val
  | _, _ => options

def readOptionsLoop (options : OptionsDictionary canonical) :
    Nat -> ReaderM (OptionsDictionary canonical)
  | 0 => pure options
  | n + 1 => do
      let keyLen ← readBEUInt16
      let keyData ← readBytes keyLen.toNat
      let valLen ← readBEUInt16
      let valData ← readBytes valLen.toNat
      readOptionsLoop (assign canonical options keyData valData) n

def readOptions : ReaderM (OptionsDictionary canonical) := fun r =>
  if 2 ≤ r.remaining then
    (do
      let count ← readBEUInt16
      readOptionsLoop canonical OptionsDictionary.empty count.toNat) r
  else .ok (OptionsDictionary.empty, r)

def readExtradata : ReaderM (Option (List UInt8)) := fun r =>
  if 4 ≤ r.remaining then
    (do
      let extraLen ← readBEUInt32
      if 0 < extraLen.toNat then some <$> readBytes extraLen.toNat
      else pure none) r
  else .ok (none, r)

def read : ReaderM (ConfigureRequest canonical) := do
  let width ← readBEUInt32
  let height ← readBEUInt32
  let pix ← readUInt8
  let tbNum ← readBEUInt32
  let tbDen ← readBEUInt32
  let frNum ← readBEUInt32
  let frDen ← readBEUInt32
  let options ← readOptions canonical
  let extradata ← readExtradata
  pure
    { width := width.toNat
      height := height.toNat
      pixelFormat := pix
      timebase := Timebase.init tbNum.toNat tbDen.toNat
      frameRate := (frNum.toNat, frDen.toNat)
      options
      extradata }

def decode (payload : List UInt8) :
    Except Failure (ConfigureRequest canonical) :=
  (read canonical (ByteReader.init payload)).map Prod.fst

theorem readOptionsLoop_neverTraps (options : OptionsDictionary canonical)
    (n : Nat) : NeverTraps (readOptionsLoop canonical options n) := by
  induction n generalizing options with
  | zero => exact NeverTraps.pure options
  | succ n ih =>
      exact readBEUInt16_neverTraps.bind fun _ =>
        (readBytes_neverTraps _).bind fun _ =>
          readBEUInt16_neverTraps.bind fun _ =>
            (readBytes_neverTraps _).bind fun _ => ih _

theorem readOptions_neverTraps : NeverTraps (readOptions canonical) := by
  intro r
  unfold readOptions
  split
  · exact (readBEUInt16_neverTraps.bind fun _ =>
      readOptionsLoop_neverTraps canonical _ _) r
  · intro h
    cases h

theorem readExtradata_neverTraps : NeverTraps readExtradata := by
  intro r
  unfold readExtradata
  split
  · apply readBEUInt32_neverTraps.bind
    intro extraLen
    split
    · rw [map_eq_pure_bind]
      exact (readBytes_neverTraps _).bind fun _ => NeverTraps.pure _
    · exact NeverTraps.pure _
  · intro h
    cases h

theorem read_neverTraps : NeverTraps (read canonical) :=
  readBEUInt32_neverTraps.bind fun _ => readBEUInt32_neverTraps.bind fun _ =>
    readUInt8_neverTraps.bind fun _ => readBEUInt32_neverTraps.bind fun _ =>
      readBEUInt32_neverTraps.bind fun _ => readBEUInt32_neverTraps.bind fun _ =>
        readBEUInt32_neverTraps.bind fun _ =>
          (readOptions_neverTraps canonical).bind fun _ =>
            readExtradata_neverTraps.bind fun _ => NeverTraps.pure _

theorem decode_ne_trapped (payload : List UInt8) :
    decode canonical payload ≠ .error .trapped := by
  intro h
  unfold decode at h
  cases hread : read canonical (ByteReader.init payload) with
  | ok p =>
      rw [hread] at h
      cases h
  | error e =>
      rw [hread] at h
      cases h
      exact read_neverTraps canonical _ hread

end ConfigureRequest

/-!
## Responses
-/

structure ConfigureAckResponse where
  status : UInt8
  extradata : List UInt8
  pixelFormat : UInt8
  warnings : UInt8
deriving DecidableEq, Repr

def ConfigureAckResponse.encode (r : ConfigureAckResponse) : List UInt8 :=
  let writer := (ByteWriter.mk []).writeUInt8 r.status
  let writer := writer.writeBE16 (uint16Clamping r.extradata.length)
  let writer := writer.write r.extradata
  let writer := writer.writeUInt8 r.pixelFormat
  (writer.writeUInt8 r.warnings).data

structure ErrorResponse where
  code : UInt32
  message : String
deriving DecidableEq, Repr

def ErrorResponse.encode (r : ErrorResponse) : List UInt8 :=
  let writer := (ByteWriter.mk []).writeBE32 r.code
  (writer.writeLengthPrefixedUTF8 r.message).data

end VTRemote
