import VTRemote.Client.Delivery
import VTRemote.Client.SessionHandshake
import VTRemote.Formats.Grammar
import VTRemote.Proto.Growth
import VTRemote.Server.Messages

/-!
# HELLO from the client to the server

Four strings, each behind its length word.  The client ignores a write that
failed, and the strings after it take the place of the one that is missing.
-/

namespace VTRemote

attribute [local irreducible] cInt

open Grammar ByteReader

/-!
## Reading a string
-/

theorem utf8Data_of_utf8String {bytes : List UInt8} {string : String}
    (h : utf8String bytes = some string) : utf8Data string = bytes := by
  unfold utf8String String.fromUTF8? at h
  split at h
  · cases h
    rfl
  · cases h

theorem readLengthPrefixedUTF8_encode {string : String} {rest : List UInt8}
    (hlen : (utf8Data string).length ≤ 65535) {r : ByteReader}
    (hahead : r.ahead = blob16 (utf8Data string) ++ rest) :
    exists r', readLengthPrefixedUTF8 r = .ok (string, r') ∧
      r'.ahead = rest := by
  have hword : (UInt16.ofNat (utf8Data string).length).toNat =
      (utf8Data string).length := UInt16.toNat_ofNat_of_lt' (Nat.lt_succ_of_le hlen)
  have hfront : r.ahead =
      Format.u16.encode (UInt16.ofNat (utf8Data string).length) ++
        (utf8Data string ++ rest) := by
    rw [hahead]
    unfold blob16
    rw [List.append_assoc]
  rcases readBEUInt16_follows.read_encode hfront with ⟨r1, hread, hrest⟩
  have htake := Decoder.take_append rest hword.symm
  rw [<- hrest] at htake
  rcases consume_follows _ r1 _ _ trivial htake with ⟨r2, hbytes, _, hrest2⟩
  refine ⟨r2, ?_, hrest2⟩
  unfold readLengthPrefixedUTF8
  rw [bind_of_ok hread, readBytes_natCast, bind_of_ok hbytes,
    utf8String_utf8Data]
  rfl

theorem consume_remaining {count : Nat} {r r' : ByteReader}
    {bytes : List UInt8} (h : consume count r = .ok (bytes, r')) :
    bytes.length = count ∧ r'.remaining + count = r.remaining := by
  unfold consume at h
  split at h
  · rename_i hroom
    cases h
    have hlen := r.ahead_length
    unfold remaining at hlen ⊢
    rw [List.length_take, hlen]
    constructor
    · omega
    · show r.data.length - (r.index + count) + count = _
      omega
  · cases h

theorem readLengthPrefixedUTF8_remaining {r r' : ByteReader} {string : String}
    (h : readLengthPrefixedUTF8 r = .ok (string, r')) :
    r'.remaining + (2 + (utf8Data string).length) ≤ r.remaining := by
  rcases bind_eq_ok h with ⟨length, r1, hlength, h⟩
  rcases bind_eq_ok hlength with ⟨base, r2, hbase, hpure⟩
  cases hpure
  rcases bind_eq_ok h with ⟨bytes, r3, hbytes, hpure⟩
  rw [readBytes_natCast] at hbytes
  cases hpure
  have hword := (consume_remaining hbase).2
  rcases consume_remaining hbytes with ⟨hlen, hrest⟩
  have hle : (utf8Data ((utf8String bytes).getD "")).length ≤ bytes.length := by
    cases hstring : utf8String bytes with
    | none => exact Nat.zero_le _
    | some string =>
        rw [Option.getD_some, utf8Data_of_utf8String hstring]
  omega

/-!
## HELLO as a whole
-/

namespace HelloRequest

def strings (hello : HelloRequest) : List String :=
  [hello.token, hello.codec, hello.clientName, hello.build]

def encode (hello : HelloRequest) : List UInt8 :=
  hello.strings.flatMap fun string => blob16 (utf8Data string)

def size (hello : HelloRequest) : Nat :=
  (hello.strings.map fun string => 2 + (utf8Data string).length).sum

theorem decode_encode {hello : HelloRequest}
    (h : forall string, string ∈ hello.strings ->
      (utf8Data string).length ≤ 65535) :
    decode hello.encode = .ok hello := by
  rcases hello with ⟨token, codec, clientName, build⟩
  simp only [strings, List.forall_mem_cons] at h
  rcases h with ⟨htoken, hcodec, hname, hbuild, _⟩
  rcases readLengthPrefixedUTF8_encode htoken
    (ahead_init (encode ⟨token, codec, clientName, build⟩)) with ⟨r1, h1, hr1⟩
  rcases readLengthPrefixedUTF8_encode hcodec hr1 with ⟨r2, h2, hr2⟩
  rcases readLengthPrefixedUTF8_encode hname hr2 with ⟨r3, h3, hr3⟩
  rcases readLengthPrefixedUTF8_encode hbuild hr3 with ⟨r4, h4, hr4⟩
  unfold decode read
  rw [bind_of_ok h1, bind_of_ok h2, bind_of_ok h3, bind_of_ok h4]
  rfl

theorem size_le_of_decode {payload : List UInt8} {hello : HelloRequest}
    (h : decode payload = .ok hello) : hello.size ≤ payload.length := by
  unfold decode at h
  cases hread : read (ByteReader.init payload) with
  | error e =>
      rw [hread] at h
      cases h
  | ok p =>
      rw [hread] at h
      cases h
      rcases p with ⟨hello, r⟩
      rcases bind_eq_ok hread with ⟨token, r1, htoken, hread⟩
      rcases bind_eq_ok hread with ⟨codec, r2, hcodec, hread⟩
      rcases bind_eq_ok hread with ⟨name, r3, hname, hread⟩
      rcases bind_eq_ok hread with ⟨build, r4, hbuild, hpure⟩
      cases hpure
      have h1 := readLengthPrefixedUTF8_remaining htoken
      have h2 := readLengthPrefixedUTF8_remaining hcodec
      have h3 := readLengthPrefixedUTF8_remaining hname
      have h4 := readLengthPrefixedUTF8_remaining hbuild
      have hall : (ByteReader.init payload).remaining = payload.length := rfl
      simp only [size, strings, List.map_cons, List.map_nil, List.sum_cons,
        List.sum_nil]
      omega

end HelloRequest

/-!
## What the client writes
-/

section Writer

variable (ffmpegVersion : CString) (token : Option CString) (codecId : AVCodecID)

/-- What HELLO is meant to say. -/
def helloRequest : HelloRequest where
  token := CString.textOf token
  codec := codecNameForId codecId
  clientName := clientName
  build := ffmpegVersion.text

def helloPieces : List Nat :=
  (helloRequest ffmpegVersion token codecId).strings.flatMap fun string =>
    [2, (utf8Data string).length]

/-- The writes of `vtremote_payload_hello`, joined by `ret |=`. -/
def helloPut : WbufPut :=
  (((vtremoteWbufPutStr (token.map CString.bytes)).orThen
    (vtremoteWbufPutStr (some (utf8Data (codecNameForId codecId))))).orThen
    (vtremoteWbufPutStr (some (utf8Data clientName)))).orThen
    (vtremoteWbufPutStr (some ffmpegVersion.bytes))

theorem helloPayload_eq (grants : List Bool) :
    helloPayload ffmpegVersion token codecId grants =
      (helloPut ffmpegVersion token codecId (vtremoteWbufInit grants)).2 := rfl

theorem helloPut_appends :
    Appends (helloPut ffmpegVersion token codecId)
      (helloRequest ffmpegVersion token codecId).encode := by
  have hput := (((vtremoteWbufPutStr_appends (token.map CString.bytes)).orThen
    (vtremoteWbufPutStr_appends
      (some (utf8Data (codecNameForId codecId))))).orThen
    (vtremoteWbufPutStr_appends (some (utf8Data clientName)))).orThen
    (vtremoteWbufPutStr_appends (some ffmpegVersion.bytes))
  rw [CString.bytes_getD, List.append_assoc, List.append_assoc,
    <- List.append_nil (_ ++ Option.getD (some ffmpegVersion.bytes) [])] at hput
  exact hput

theorem helloPut_leavesOut :
    LeavesOut (helloPut ffmpegVersion token codecId)
      (helloRequest ffmpegVersion token codecId).size := by
  have hput := (((vtremoteWbufPutStr_leavesOut (token.map CString.bytes)).orThen
    (vtremoteWbufPutStr_leavesOut
      (some (utf8Data (codecNameForId codecId))))).orThen
    (vtremoteWbufPutStr_leavesOut (some (utf8Data clientName)))).orThen
    (vtremoteWbufPutStr_leavesOut (some ffmpegVersion.bytes))
  rw [CString.bytes_getD, Nat.add_assoc, Nat.add_assoc] at hput
  exact hput

def HelloFits : Prop :=
  (utf8Data (CString.textOf token)).length ≤ 65535 ∧
    (utf8Data ffmpegVersion.text).length ≤ 65535

theorem codecNameForId_length : (utf8Data (codecNameForId codecId)).length ≤ 65535 := by
  cases codecId with
  | h264 => decide
  | hevc => decide

theorem clientName_length : (utf8Data clientName).length ≤ 65535 := by decide

variable {ffmpegVersion token codecId}

theorem HelloFits.strings (h : HelloFits ffmpegVersion token) :
    forall string, string ∈ (helloRequest ffmpegVersion token codecId).strings ->
      (utf8Data string).length ≤ 65535 := by
  intro string hmem
  simp only [HelloRequest.strings, List.mem_cons, List.not_mem_nil, or_false]
    at hmem
  rcases hmem with heq | heq | heq | heq
  · rw [heq]
    exact h.1
  · rw [heq]
    exact codecNameForId_length codecId
  · rw [heq]
    exact clientName_length
  · rw [heq]
    exact h.2

theorem helloFits_of_zero {b : VTRemoteWBuf}
    (h : (helloPut ffmpegVersion token codecId b).1 = 0) :
    HelloFits ffmpegVersion token := by
  have h1 := vtremoteWbufPutStr_appends (token.map CString.bytes)
  have h2 := vtremoteWbufPutStr_appends
    (some (utf8Data (codecNameForId codecId)))
  have h3 := vtremoteWbufPutStr_appends (some (utf8Data clientName))
  have h4 := vtremoteWbufPutStr_appends (some ffmpegVersion.bytes)
  rcases ((h1.orThen h2).orThen h3).zero_of_orThen h4 h with ⟨h123, hversion⟩
  have h12 := ((h1.orThen h2).zero_of_orThen h3 h123).1
  have htoken := vtremoteWbufPutStr_length (h1.zero_of_orThen h2 h12).1
  rw [CString.bytes_getD] at htoken
  exact ⟨Nat.le_of_lt_succ htoken,
    Nat.le_of_lt_succ (vtremoteWbufPutStr_length hversion)⟩

theorem helloPut_grows (h : HelloFits ffmpegVersion token) :
    Grows (helloPut ffmpegVersion token codecId)
      (helloPieces ffmpegVersion token codecId) := by
  have h1 := vtremoteWbufPutStr_appends (token.map CString.bytes)
  have h2 := vtremoteWbufPutStr_appends
    (some (utf8Data (codecNameForId codecId)))
  have h3 := vtremoteWbufPutStr_appends (some (utf8Data clientName))
  have h4 := vtremoteWbufPutStr_appends (some ffmpegVersion.bytes)
  have htoken : ((token.map CString.bytes).getD []).length ≤ 65535 := by
    rw [CString.bytes_getD]
    exact h.1
  have g1 := vtremoteWbufPutStr_grows htoken
  have g2 := vtremoteWbufPutStr_grows
    (s := some (utf8Data (codecNameForId codecId)))
    (codecNameForId_length codecId)
  have g3 := vtremoteWbufPutStr_grows (s := some (utf8Data clientName))
    clientName_length
  have g4 := vtremoteWbufPutStr_grows (s := some ffmpegVersion.bytes) h.2
  have g12 := Grows.orThen h1 h2 g1 g2 Nat.two_pos
  have g123 := Grows.orThen (h1.orThen h2) h3 g12 g3 Nat.two_pos
  have hall := Grows.orThen ((h1.orThen h2).orThen h3) h4 g123 g4 Nat.two_pos
  rw [CString.bytes_getD] at hall
  exact hall

/-- Every write succeeds exactly when the strings fit and the allocator grants
what they ask for. -/
theorem helloPut_zero_iff (grants : List Bool) :
    (helloPut ffmpegVersion token codecId (vtremoteWbufInit grants)).1 = 0 <->
      HelloFits ffmpegVersion token ∧
        false ∉ grants.take
          ((Room.mk 0 0).requests (helloPieces ffmpegVersion token codecId)) := by
  have hsound : (vtremoteWbufInit grants).Sound := Nat.zero_le _
  have hgrows : HelloFits ffmpegVersion token -> _ := fun hfits => by
    have htakes : (vtremoteWbufInit grants).room.Takes
        (helloPieces ffmpegVersion token codecId) := by
      constructor
      · exact Nat.two_pos
      · have hcodec := codecNameForId_length codecId
        have hname := clientName_length
        have htoken := hfits.1
        have hversion := hfits.2
        simp only [helloPieces, helloRequest, HelloRequest.strings,
          List.flatMap_cons, List.flatMap_nil, List.sum_append, List.sum_cons,
          List.sum_nil]
        show 0 + _ ≤ maxAllocSize
        unfold maxAllocSize
        omega
    exact (helloPut_grows hfits _ hsound htakes).1
  constructor
  · intro hzero
    have hfits := helloFits_of_zero hzero
    exact ⟨hfits, (hgrows hfits).mp hzero⟩
  · intro ⟨hfits, hgranted⟩
    exact (hgrows hfits).mpr hgranted

/-- The bytes of the buffer decode to what was meant exactly when every write
succeeds. -/
theorem helloPayload_decode_iff (grants : List Bool) :
    HelloRequest.decode
        (helloPayload ffmpegVersion token codecId grants).contents =
        .ok (helloRequest ffmpegVersion token codecId) <->
      (helloPut ffmpegVersion token codecId (vtremoteWbufInit grants)).1 = 0 := by
  rw [helloPayload_eq]
  constructor
  · intro hdecode
    by_contra hne
    have hlt := (helloPut_leavesOut ffmpegVersion token codecId
      (vtremoteWbufInit grants)).2 hne
    have hle := HelloRequest.size_le_of_decode hdecode
    have hsize : (helloPut ffmpegVersion token codecId
        (vtremoteWbufInit grants)).2.contents.length ≤
        (helloPut ffmpegVersion token codecId
          (vtremoteWbufInit grants)).2.size := by
      unfold VTRemoteWBuf.contents
      exact List.length_take_le _ _
    have hzero : (vtremoteWbufInit grants).size = 0 := rfl
    omega
  · intro hzero
    have hput := helloPut_appends ffmpegVersion token codecId
    have hcontents := (hput.contents_of_reset (b := vtremoteWbufInit grants)
      hzero).2
    have hfits := helloFits_of_zero hzero
    rw [show (helloPut ffmpegVersion token codecId
      (vtremoteWbufInit grants)).2.contents = _ from hcontents]
    exact HelloRequest.decode_encode hfits.strings

end Writer

/-!
## The exchange
-/

theorem vtremoteSendBuffer_record (type : VTRemoteMsgType) (b : VTRemoteWBuf)
    (h : Host) :
    exists record result s, vtremoteSendBuffer type b h = .returned result s ∧
      s.log = h.log ++ [record] ∧ record.type = type ∧
      record.payload = b.payload := by
  unfold vtremoteSendBuffer
  by_cases hlost : b.data = none ∧ 0 < b.size
  · simp only [if_pos hlost]
    generalize writeFull _ h.outgoing = header
    cases header.stop with
    | some stop => exact ⟨_, _, _, rfl, rfl, rfl, rfl⟩
    | none => exact ⟨_, _, _, rfl, rfl, rfl, rfl⟩
  · simp only [if_neg hlost]
    rcases vtremoteSendMsg_sent type b.payload h with ⟨r, result, hsent, hcall⟩
    exact ⟨r, result, _, hcall, rfl, hsent.type_eq, hsent.payload_eq⟩

section Exchange

variable (ffmpegVersion : CString) (token : Option CString) (codecId : AVCodecID)

theorem awaitHelloAck_sendsNothing : Call.Moves SendsNothing awaitHelloAck := by
  apply Call.Moves.bind vtremoteReadMsg_sendsNothing
  intro message
  rcases message with ⟨hdr, pl⟩
  show Call.Moves SendsNothing (if _ then _ else _)
  split
  · exact Call.Moves.fail _
  · cases vtremoteHandleHelloAck pl (cInt hdr.length.toNat) with
    | error e => exact Call.Moves.fail e
    | ok _ => exact Call.Moves.pure ()

/-- After it connected, the client hands exactly one message to the socket. -/
theorem vtremoteHandshakeHello_log (u : Unit) (h : Host) :
    exists record,
      (vtremoteHandshakeHello (.ok u) ffmpegVersion token codecId h).state.log =
        h.log ++ [record] ∧ record.type = .hello ∧
      record.payload.bytes =
        (helloPayload ffmpegVersion token codecId h.heap).contents := by
  let payload := helloPayload ffmpegVersion token codecId h.heap
  have hput : sendPut hostHandshakeLink .hello (vtremotePayloadHello
        (token.map CString.bytes) (some (utf8Data (codecNameForId codecId)))
        (some (utf8Data clientName)) (some ffmpegVersion.bytes)) h =
      vtremoteSendBuffer .hello payload { h with heap := payload.grants } := rfl
  rcases vtremoteSendBuffer_record .hello payload
    { h with heap := payload.grants } with
    ⟨record, result, s, hsend, hlog, htype, hbytes⟩
  refine ⟨record, ?_, htype, by rw [hbytes]; rfl⟩
  rw [vtremoteHandshakeHello_connected, sayHello, awaitAck_hello]
  cases result with
  | error e =>
      rw [Call.bind_of_error _ (hput.trans hsend)]
      exact hlog
  | ok _ =>
      rw [Call.bind_of_ok _ (hput.trans hsend)]
      exact (awaitHelloAck_sendsNothing.state s).1.trans hlog

/-- Every HELLO that the client hands to the socket decodes to what was meant,
exactly when it does not connect, or the token and the version fit their length
words and the allocator grants what the eight writes ask for. -/
theorem vtremoteHandshake_hello_decodes_iff (connect : Except AvError Unit)
    (h : Host) :
    (forall record,
      record ∈ (vtremoteHandshakeHello connect ffmpegVersion token codecId
        h).state.log.drop h.log.length ->
      record.type = .hello ->
      HelloRequest.decode record.payload.bytes =
        .ok (helloRequest ffmpegVersion token codecId)) <->
    (exists e, connect = .error e) ∨
      (HelloFits ffmpegVersion token ∧
        false ∉ h.heap.take
          ((Room.mk 0 0).requests (helloPieces ffmpegVersion token codecId))) := by
  cases connect with
  | error e =>
      have hlog : (vtremoteHandshakeHello (.error e) ffmpegVersion token codecId
          h).state.log = h.log := rfl
      rw [hlog, List.drop_length]
      constructor
      · intro _
        exact Or.inl ⟨e, rfl⟩
      · intro _ record hmem
        cases hmem
  | ok u =>
      rcases vtremoteHandshakeHello_log ffmpegVersion token codecId u h with
        ⟨record, hlog, htype, hbytes⟩
      rw [hlog, List.drop_left, <- helloPut_zero_iff, <- helloPayload_decode_iff,
        <- hbytes]
      constructor
      · intro hall
        exact Or.inr (hall record List.mem_cons_self htype)
      · intro h other hmem _
        rcases h with ⟨e, hconnect⟩ | hdecode
        · cases hconnect
        · rw [List.mem_singleton.mp hmem]
          exact hdecode

end Exchange

/-!
## A token that does not fit
-/

theorem utf8Data_ofList (l : List Char) :
    utf8Data (String.ofList l) = l.flatMap String.utf8EncodeChar := by
  show l.utf8Encode.data.toList = _
  simp [List.utf8Encode]

theorem utf8Data_replicate (n : Nat) :
    utf8Data (String.ofList (List.replicate n 'a')) = List.replicate n 97 := by
  rw [utf8Data_ofList]
  induction n with
  | zero => rfl
  | succ n ih =>
      rw [List.replicate_succ, List.flatMap_cons, ih]
      rfl

def letters (n : Nat) : CString where
  text := String.ofList (List.replicate n 'a')
  noNul := by
    rw [utf8Data_replicate]
    intro hmem
    exact absurd (List.eq_of_mem_replicate hmem) (by decide)

/-- One byte more than a length word can announce, on a connection that answers
nothing. -/
theorem vtremoteHandshake_hello_malformed :
    ¬ forall (connect : Except AvError Unit) (ffmpegVersion : CString)
      (token : Option CString) (codecId : AVCodecID) (h : Host),
      forall record,
        record ∈ (vtremoteHandshakeHello connect ffmpegVersion token codecId
          h).state.log.drop h.log.length ->
        record.type = .hello ->
        HelloRequest.decode record.payload.bytes =
          .ok (helloRequest ffmpegVersion token codecId) := by
  intro hall
  have hhello := hall (.ok ()) (letters 1) (some (letters 65536)) .h264
    ⟨[], ⟨[], none⟩, [], []⟩
  rcases vtremoteHandshakeHello_log (letters 1) (some (letters 65536)) .h264 ()
    ⟨[], ⟨[], none⟩, [], []⟩ with ⟨record, hlog, htype, hbytes⟩
  have hdecode := hhello record (by
    rw [hlog]
    exact List.mem_cons_self) htype
  rw [hbytes, helloPayload_decode_iff] at hdecode
  have hlength := (helloFits_of_zero hdecode).1
  have hbytes : utf8Data (CString.textOf (some (letters 65536))) =
      List.replicate 65536 97 := utf8Data_replicate 65536
  rw [hbytes, List.length_replicate] at hlength
  exact absurd hlength (by decide)

end VTRemote
